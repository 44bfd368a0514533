import Mathlib.Data.List.Forall2
import SchemaWeaver.Proofs.Fallible
import SchemaWeaver.Traversal.Engine

/-!
# Reasoning about computations of a run

Two judgements on computations of the engine. `Refines` compares a computation with one on the
state of the visitors alone: it returns the same value, leaves the same state and does not fail.
What it logs is left open. `Ensures` says only that a computation does not fail and what holds of
its value; it is the judgement for walks whose order depends on the choices of a scheduler.

Both have one rule for each way of putting computations together, so that later proofs never unfold
the transformer.
-/

namespace SchemaWeaver.Engine

open Fallible

variable {σ α β : Type}

/-- A computation of the engine returns the value and leaves the state that a computation on the
state of the visitors does. It never fails and takes no choice. -/
def Refines (m : Engine σ α) (p : StateM σ α) : Prop :=
  ∀ session : Session σ, ∃ log,
    m.run.run session = (.ok (p.run session.state).1, ⟨(p.run session.state).2, log, session.picks⟩)

/-- A computation of the engine does not fail, and its value has a property. -/
def Ensures (m : Engine σ α) (P : α → Prop) : Prop :=
  ∀ session : Session σ, ∃ a next, m.run.run session = (.ok a, next) ∧ P a

namespace Refines

theorem pure (a : α) : Refines (pure a : Engine σ α) (Pure.pure a) := by
  intro session
  exact ⟨session.log, rfl⟩

/-- Sequences refine sequences. What follows may use a property of the values that the first part
can return. -/
theorem bind {m : Engine σ α} {p : StateM σ α} {f : α → Engine σ β} {g : α → StateM σ β}
    {P : α → Prop} (first : Refines m p) (returns : ∀ state, P (p.run state).1)
    (next : ∀ a, P a → Refines (f a) (g a)) : Refines (m >>= f) (p >>= g) := by
  intro session
  obtain ⟨log, hm⟩ := first session
  obtain ⟨log', hf⟩ := next _ (returns session.state) ⟨(p.run session.state).2, log, session.picks⟩
  exact ⟨log', by rw [run_bind_ok hm, hf]; rfl⟩

/-- A first part that only returns a value drops out of the native computation. -/
theorem bind_pure {m : Engine σ α} {a : α} {f : α → Engine σ β} {p : StateM σ β}
    (first : Refines m (Pure.pure a)) (next : Refines (f a) p) : Refines (m >>= f) p := by
  intro session
  obtain ⟨log, hm⟩ := first session
  obtain ⟨log', hf⟩ := next ⟨session.state, log, session.picks⟩
  exact ⟨log', by rw [run_bind_ok hm]; exact hf⟩

theorem bind_any {m : Engine σ α} {p : StateM σ α} {f : α → Engine σ β} {g : α → StateM σ β}
    (first : Refines m p) (next : ∀ a, Refines (f a) (g a)) : Refines (m >>= f) (p >>= g) :=
  first.bind (P := fun _ => True) (fun _ => trivial) (fun a _ => next a)

theorem log (records : List LogRecord) :
    Refines (Engine.log records : Engine σ Unit) (Pure.pure ()) := by
  intro session
  exact ⟨session.log ++ records, rfl⟩

theorem call (v : Visitor σ) (arguments : HookCall) :
    Refines (Engine.call v arguments) (v.hook arguments) := by
  intro session
  exact ⟨session.log, rfl⟩

/-- An operation on an outcome that is not refused is a value. -/
theorem attempt {operation : Except Refusal α} {a : α} (h : operation = .ok a) :
    Refines (Engine.attempt operation : Engine σ α) (Pure.pure a) := by
  rw [h]
  exact pure a

/-- A fold refines a fold, along an invariant that every step keeps. -/
theorem foldlM {f : β → α → Engine σ β} {g : β → α → StateM σ β} {P : β → Prop}
    (keeps : ∀ b a state, P b → P ((g b a).run state).1)
    (step : ∀ b a, P b → Refines (f b a) (g b a)) (xs : List α) {b : β} (start : P b) :
    Refines (xs.foldlM f b) (xs.foldlM g b) := by
  induction xs generalizing b with
  | nil => exact pure b
  | cons x xs ih =>
    simp only [List.foldlM_cons]
    exact (step b x start).bind (fun state => keeps b x state start) (fun _ kept => ih kept)

theorem mapM {f : α → Engine σ β} {g : α → StateM σ β} (each : ∀ a, Refines (f a) (g a))
    (xs : List α) : Refines (xs.mapM f) (xs.mapM g) := by
  induction xs with
  | nil => exact pure []
  | cons x xs ih =>
    simp only [List.mapM_cons]
    exact (each x).bind_any fun _ => ih.bind_any fun _ => pure _

/-- What holds of every value of the native computation is ensured. -/
theorem ensures {m : Engine σ α} {p : StateM σ α} {P : α → Prop} (refines : Refines m p)
    (holds : ∀ state, P (p.run state).1) : Ensures m P := by
  intro session
  obtain ⟨_, hm⟩ := refines session
  exact ⟨_, _, hm, holds session.state⟩

end Refines

namespace Ensures

theorem pure {P : α → Prop} {a : α} (holds : P a) : Ensures (pure a : Engine σ α) P := by
  intro session
  exact ⟨a, session, rfl, holds⟩

theorem bind {m : Engine σ α} {f : α → Engine σ β} {P : α → Prop} {Q : β → Prop}
    (first : Ensures m P) (next : ∀ a, P a → Ensures (f a) Q) : Ensures (m >>= f) Q := by
  intro session
  obtain ⟨a, middle, hm, ha⟩ := first session
  obtain ⟨b, finish, hf, hb⟩ := next a ha middle
  exact ⟨b, finish, by rw [run_bind_ok hm, hf], hb⟩

theorem mono {m : Engine σ α} {P Q : α → Prop} (h : Ensures m P) (imp : ∀ a, P a → Q a) :
    Ensures m Q := by
  intro session
  obtain ⟨a, next, hm, ha⟩ := h session
  exact ⟨a, next, hm, imp a ha⟩

theorem nextPick : Ensures (Engine.nextPick : Engine σ Nat) fun _ => True := by
  intro session
  exact ⟨_, _, rfl, trivial⟩

/-- Elementwise guarantees hold of the list of all values. -/
theorem mapM {f : α → Engine σ β} {R : α → β → Prop} (each : ∀ a, Ensures (f a) (R a))
    (xs : List α) : Ensures (xs.mapM f) (List.Forall₂ R xs) := by
  induction xs with
  | nil => exact pure .nil
  | cons x xs ih =>
    simp only [List.mapM_cons]
    exact (each x).bind fun _ hx => ih.bind fun _ hxs => pure (.cons hx hxs)

end Ensures

end SchemaWeaver.Engine
