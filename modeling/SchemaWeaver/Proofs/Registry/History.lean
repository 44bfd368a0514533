import SchemaWeaver.Proofs.Directives.Targets
import SchemaWeaver.Proofs.OrderedMap
import SchemaWeaver.Registry

/-!
# A registry is the history of its registrations

A registry is used by calls: registrations, the freeze, and questions. What a call can do is said
once, by `call_cases`: it is refused and changes nothing, or it registers a visitor that the
registry admits, or it registers nothing. After any sequence of calls the visitors are therefore
those of the accepted registrations, written one after another, and what a registry answers can be
told from the history of its calls.
-/

namespace SchemaWeaver

/-- Registrations in the order in which they count: the first one of a target counts when others are
refused, and the last one when it replaces the others. -/
def DuplicatePolicy.byPrecedence {α : Type} : DuplicatePolicy → List α → List α
  | refuse, entries => entries
  | replace, entries => entries.reverse

namespace Registry

variable {σ : Type}

/-- A call of a registry. -/
inductive Call (σ : Type) where
  | register (target : String) (v : Visitor σ)
  | add (v : Visitor σ)
  | freeze
  | dispatch (target : String)
  | contains (target : String)

/-- What a call gives back when it is not refused. -/
inductive Reply (σ : Type) where
  | done
  | found (v? : Option (Visitor σ))
  | known (isKnown : Bool)

namespace Call

/-- The registration that a call asks for: a target, and the visitor that is to answer for it. -/
def entry? : Call σ → Option (String × Visitor σ)
  | register target v => some (target, v)
  | add v => some (v.target, v)
  | freeze | dispatch _ | contains _ => none

/-- Whether a call makes the registry read-only. -/
def isFreeze : Call σ → Bool
  | freeze => true
  | _ => false

end Call

/-- The reply to a call, and the registry after it. -/
def call (r : Registry σ) : Call σ → Except SetupError (Reply σ) × Registry σ
  | .register target v =>
    match r.register target v with
    | .ok (updated, _) => (.ok .done, updated)
    | .error e => (.error e, r)
  | .add v =>
    match r.add v with
    | .ok (updated, _) => (.ok .done, updated)
    | .error e => (.error e, r)
  | .freeze => (.ok .done, r.freeze)
  | .dispatch target => (.ok (.found (r.dispatch target).1), r)
  | .contains target => (.ok (.known (r.contains target)), r)

/-- The registry after calls, one after another. -/
def after (r : Registry σ) (calls : List (Call σ)) : Registry σ :=
  calls.foldl (fun current c => (current.call c).2) r

/-- The registrations that are accepted in the course of calls, in their order: those that calls
ask for and that are not refused. -/
def registrations (r : Registry σ) : List (Call σ) → List (String × Visitor σ)
  | [] => []
  | c :: calls =>
    match r.call c with
    | (.ok _, next) => c.entry?.toList ++ next.registrations calls
    | (.error _, next) => next.registrations calls

/-- A registration that is accepted: the registry is not read-only, the visitor is of its family,
and the target is free unless a second visitor may take it. -/
structure Admits (r : Registry σ) (entry : String × Visitor σ) : Prop where
  not_frozen : r.frozen = false
  family_eq : entry.2.family = r.family
  free : r.policy = .refuse → r.contains entry.1 = false

/-- Why a registration is refused: the registry is read-only, or else the visitor is of another
family, or else the target is taken. -/
def Refuses (r : Registry σ) (entry : String × Visitor σ) (e : SetupError) : Prop :=
  (r.frozen = true ∧ e = .registryFrozen entry.1) ∨
  (r.frozen = false ∧ entry.2.family ≠ r.family ∧
    e = .familyMismatch entry.1 r.family.name entry.2.family.name) ∨
  (r.frozen = false ∧ entry.2.family = r.family ∧ r.policy = .refuse ∧
    r.contains entry.1 = true ∧ e = .duplicateTarget entry.1)

section Step

variable {r : Registry σ} {entry : String × Visitor σ} {e : SetupError} {c : Call σ}

theorem admits_or_refuses (r : Registry σ) (entry : String × Visitor σ) :
    r.Admits entry ∨ ∃ e, r.Refuses entry e := by
  by_cases frozen : r.frozen = true
  · exact .inr ⟨_, .inl ⟨frozen, rfl⟩⟩
  have isOpen : r.frozen = false := by simpa using frozen
  by_cases family : entry.2.family = r.family
  · by_cases taken : r.policy = .refuse ∧ r.contains entry.1 = true
    · exact .inr ⟨_, .inr (.inr ⟨isOpen, family, taken.1, taken.2, rfl⟩)⟩
    · exact .inl ⟨isOpen, family, fun refuse => by simpa [refuse] using taken⟩
  · exact .inr ⟨_, .inr (.inl ⟨isOpen, family, rfl⟩)⟩

theorem register_of_refuses (h : r.Refuses entry e) : r.register entry.1 entry.2 = .error e := by
  rcases h with ⟨frozen, rfl⟩ | ⟨isOpen, family, rfl⟩ | ⟨isOpen, family, policy, taken, rfl⟩
  · simp [register, frozen]
  · simp [register, isOpen, family]
  · rw [contains_eq_isSome, Option.isSome_iff_exists] at taken
    obtain ⟨previous, found⟩ := taken
    simp [register, isOpen, family, found, policy]

theorem register_of_admits (h : r.Admits entry) :
    ∃ records, r.register entry.1 entry.2 =
      .ok ({ r with visitors := r.visitors.insert entry.1 entry.2 }, records) := by
  simp only [register, h.not_frozen, Bool.false_eq_true, if_false, h.family_eq, ne_eq,
    not_true_eq_false]
  cases found : r.find? entry.1 with
  | none => exact ⟨[], rfl⟩
  | some previous =>
    cases policy : r.policy with
    | replace => exact ⟨_, rfl⟩
    | refuse =>
      have free := h.free policy
      rw [contains_eq_isSome, found] at free
      cases free

/-- Whichever call asks for a registration, it is settled in the same way. -/
theorem call_of_entry (asks : c.entry? = some entry) :
    r.call c = r.call (.register entry.1 entry.2) := by
  cases c with
  | register target v => cases asks; rfl
  | add v => cases asks; rfl
  | freeze => cases asks
  | dispatch target => cases asks
  | contains target => cases asks

/-- Everything that a call can do. -/
theorem call_cases (r : Registry σ) (c : Call σ) :
    (∃ entry e, c.entry? = some entry ∧ r.Refuses entry e ∧ r.call c = (.error e, r)) ∨
    (∃ entry, c.entry? = some entry ∧ r.Admits entry ∧
      r.call c = (.ok .done, { r with visitors := r.visitors.insert entry.1 entry.2 })) ∨
    (c.entry? = none ∧ ∃ reply,
      r.call c = (.ok reply, { r with frozen := r.frozen || c.isFreeze })) := by
  cases asks : c.entry? with
  | some entry =>
    rw [call_of_entry asks]
    rcases r.admits_or_refuses entry with admits | ⟨e, refuses⟩
    · obtain ⟨records, registered⟩ := register_of_admits admits
      exact .inr (.inl ⟨entry, rfl, admits, by simp [call, registered]⟩)
    · exact .inl ⟨entry, e, rfl, refuses, by simp [call, register_of_refuses refuses]⟩
  | none =>
    refine .inr (.inr ⟨rfl, ?_⟩)
    cases c with
    | register target v => cases asks
    | add v => cases asks
    | freeze => exact ⟨.done, by simp [call, freeze, Call.isFreeze]⟩
    | dispatch target => exact ⟨.found (r.dispatch target).1, by simp [call, Call.isFreeze]⟩
    | contains target => exact ⟨.known (r.contains target), by simp [call, Call.isFreeze]⟩

theorem isFreeze_of_entry (asks : c.entry? = some entry) : c.isFreeze = false := by
  cases c <;> first | rfl | cases asks

/-- Exactly the refused registrations fail, and a call that fails changes nothing. -/
theorem call_eq_error_iff :
    (r.call c).1 = .error e ↔ ∃ entry, c.entry? = some entry ∧ r.Refuses entry e := by
  constructor
  · intro failed
    rcases r.call_cases c with
      ⟨entry, e', asks, refuses, eq⟩ | ⟨entry, -, -, eq⟩ | ⟨-, reply, eq⟩
    · rw [eq] at failed
      cases failed
      exact ⟨entry, asks, refuses⟩
    · rw [eq] at failed
      cases failed
    · rw [eq] at failed
      cases failed
  · rintro ⟨entry, asks, refuses⟩
    rw [call_of_entry asks]
    simp [call, register_of_refuses refuses]

theorem call_of_error (failed : (r.call c).1 = .error e) : (r.call c).2 = r := by
  rcases r.call_cases c with ⟨_, _, _, _, eq⟩ | ⟨_, _, _, eq⟩ | ⟨_, _, eq⟩
  · rw [eq]
  · rw [eq] at failed
    cases failed
  · rw [eq] at failed
    cases failed

end Step

section Runs

variable (r : Registry σ) (calls more : List (Call σ))

theorem after_cons (c : Call σ) : r.after (c :: calls) = (r.call c).2.after calls := rfl

/-- What calls leave behind: the accepted registrations are written one after another, and the
registry is read-only when it was so before or was frozen. -/
theorem after_eq : r.after calls =
    { r with
      visitors := r.visitors.insertAll (r.registrations calls)
      frozen := r.frozen || calls.any Call.isFreeze } := by
  induction calls generalizing r with
  | nil => simp [after, registrations, OrderedMap.insertAll]
  | cons c calls ih =>
    rw [after_cons, ih, registrations]
    rcases r.call_cases c with
      ⟨entry, e, asks, -, eq⟩ | ⟨entry, asks, -, eq⟩ | ⟨asks, reply, eq⟩
    · simp [eq, isFreeze_of_entry asks]
    · simp [eq, asks, isFreeze_of_entry asks, OrderedMap.insertAll]
    · simp [eq, asks, Bool.or_assoc]

/-- Every accepted registration was admitted by the registry, which then had the family and the
policy that it has now. -/
theorem family_of_mem_registrations :
    ∀ entry ∈ r.registrations calls, entry.2.family = r.family := by
  induction calls generalizing r with
  | nil => exact fun _ member => absurd member List.not_mem_nil
  | cons c calls ih =>
    rw [registrations]
    rcases r.call_cases c with
      ⟨entry, e, -, -, eq⟩ | ⟨entry, asks, admits, eq⟩ | ⟨asks, reply, eq⟩
    · simpa only [eq] using ih r
    · simp only [eq, asks, Option.toList_some, List.singleton_append, List.forall_mem_cons]
      exact ⟨admits.family_eq, ih _⟩
    · simpa only [eq, asks, Option.toList_none, List.nil_append] using ih _

/-- When second visitors are refused, the registry holds the accepted registrations as they came:
no target is registered twice. -/
theorem nodup_registrations (refuse : r.policy = .refuse) :
    ((r.visitors.entries ++ r.registrations calls).map Prod.fst).Nodup := by
  induction calls generalizing r with
  | nil => simpa [registrations] using r.visitors.nodup_keys
  | cons c calls ih =>
    rw [registrations]
    rcases r.call_cases c with
      ⟨entry, e, -, -, eq⟩ | ⟨entry, asks, admits, eq⟩ | ⟨asks, reply, eq⟩
    · simpa only [eq] using ih r refuse
    · have fresh : entry.1 ∉ r.visitors.keys := by
        have free := admits.free refuse
        rwa [Bool.eq_false_iff, ne_eq, contains, OrderedMap.contains_iff] at free
      have written := ih { r with visitors := r.visitors.insert entry.1 entry.2 } refuse
      rw [OrderedMap.entries_insert_of_notMem _ _ fresh, List.append_assoc] at written
      simpa only [eq, asks, Option.toList_some] using written
    · simpa only [eq, asks, Option.toList_none, List.nil_append] using
        ih { r with frozen := r.frozen || c.isFreeze } refuse

/-- No call changes a registry that is read-only. -/
theorem after_of_frozen (frozen : r.frozen = true) : r.after calls = r := by
  induction calls with
  | nil => rfl
  | cons c calls ih =>
    rw [after_cons]
    rcases r.call_cases c with ⟨_, _, _, _, eq⟩ | ⟨_, _, admits, _⟩ | ⟨_, _, eq⟩
    · rw [eq]
      exact ih
    · exact absurd frozen (by simp [admits.not_frozen])
    · have same : { r with frozen := r.frozen || c.isFreeze } = r := by
        rw [frozen, Bool.true_or, ← frozen]
      rw [eq, same]
      exact ih

/-- Calls put no target before another one and take none away. -/
theorem targets_prefix_after : r.targets <+: (r.after calls).targets := by
  rw [after_eq, targets, targets, OrderedMap.keys_insertAll]
  exact List.prefix_append ..

end Runs

theorem dispatch_eq_find? (r : Registry σ) (target : String) :
    (r.dispatch target).1 = r.find? target := by
  unfold dispatch
  cases r.find? target <;> rfl

section New

variable (family : Backend) (policy : DuplicatePolicy) (calls : List (Call σ))

/-- The visitors of a new registry are those of its accepted registrations. -/
theorem visitors_after_empty : ((empty family policy).after calls).visitors =
    .ofList ((empty family policy).registrations calls) := by
  rw [after_eq]
  rfl

theorem find?_after_empty (target : String) :
    ((empty family policy).after calls).find? target =
      ((policy.byPrecedence ((empty family policy).registrations calls)).find? fun entry =>
        entry.1 = target).map Prod.snd := by
  rw [find?, visitors_after_empty]
  cases policy with
  | replace =>
    rw [OrderedMap.ofList, OrderedMap.find?_insertAll]
    exact Option.or_none
  | refuse =>
    have once := (empty family .refuse).nodup_registrations calls rfl
    have asWritten : (OrderedMap.ofList ((empty family .refuse).registrations calls)).entries =
        (empty family .refuse).registrations calls := by
      rw [OrderedMap.ofList, OrderedMap.entries_insertAll]
      exact foldl_upsert_of_nodup once
    rw [OrderedMap.find?_eq_find?, asWritten]
    rfl

end New

/-- After any calls of a new registry:
the targets are distinct, and targets, visitors, membership and dispatch describe one map;
the visitors of the map are of the family of the registry;
a call fails for the reasons that `Refuses` tells in their order, and then changes nothing;
targets stand in the order of their first accepted registration, and later calls leave them there;
dispatch finds the first accepted visitor of a target when second ones are refused, the last one
when they replace the first, and none exactly when none was accepted;
the registry is read-only once it was frozen, and then no call changes it. -/
theorem after_reflects_history (family : Backend) (policy : DuplicatePolicy)
    (calls : List (Call σ)) :
    let r := (empty family policy).after calls
    let entries := (empty family policy).registrations calls
    (r.targets.Nodup ∧ r.visitors.values.length = r.targets.length ∧
      (∀ target, r.contains target = true ↔ target ∈ r.targets) ∧
      ∀ target v, (r.dispatch target).1 = some v ↔ (target, v) ∈ r.targets.zip r.visitors.values) ∧
    (r.family = family ∧ ∀ v ∈ r.visitors.values, v.family = r.family) ∧
    (∀ c e, ((r.call c).1 = .error e ↔ ∃ entry, c.entry? = some entry ∧ r.Refuses entry e) ∧
      ((r.call c).1 = .error e → (r.call c).2 = r)) ∧
    (r.targets = (entries.map Prod.fst).eraseDups ∧
      ∀ more, r.targets <+: (r.after more).targets) ∧
    ((∀ target, (r.dispatch target).1 =
        ((policy.byPrecedence entries).find? fun entry => entry.1 = target).map Prod.snd) ∧
      ∀ target, (r.dispatch target).1 = none ↔ ∀ entry ∈ entries, entry.1 ≠ target) ∧
    (r.frozen = calls.any Call.isFreeze ∧ (r.frozen = true → ∀ more, r.after more = r)) := by
  intro r entries
  have visitors : r.visitors = .ofList entries := visitors_after_empty family policy calls
  have family_eq : r.family = family :=
    congrArg Registry.family ((empty family policy).after_eq calls)
  have frozen_eq : r.frozen = calls.any Call.isFreeze :=
    (congrArg Registry.frozen ((empty family policy).after_eq calls)).trans (Bool.false_or _)
  have map (target : String) (v : Visitor σ) :
      (r.dispatch target).1 = some v ↔ (target, v) ∈ r.targets.zip r.visitors.values := by
    rw [dispatch_eq_find?, targets, OrderedMap.zip_keys_values]
    exact OrderedMap.find?_eq_some_iff
  have order : r.targets = (entries.map Prod.fst).eraseDups := by
    rw [targets, visitors, OrderedMap.keys_ofList, distinct_eq_eraseDups]
  have families : ∀ v ∈ r.visitors.values, v.family = r.family := by
    intro v member
    obtain ⟨entry, written, rfl⟩ := List.mem_map.mp member
    rw [visitors] at written
    rw [family_eq]
    exact (empty family policy).family_of_mem_registrations calls entry
      (OrderedMap.mem_of_mem_ofList written)
  have missing (target : String) :
      (r.dispatch target).1 = none ↔ ∀ entry ∈ entries, entry.1 ≠ target := by
    have known : r.contains target = true ↔ target ∈ entries.map Prod.fst := by
      rw [contains, OrderedMap.contains_iff, visitors, OrderedMap.keys_ofList, mem_distinct]
    rw [dispatch_eq_find?, ← Option.not_isSome_iff_eq_none, ← contains_eq_isSome, known,
      List.mem_map]
    exact ⟨fun unknown entry member same => unknown ⟨entry, member, same⟩,
      fun unknown ⟨entry, member, same⟩ => unknown entry member same⟩
  refine ⟨⟨r.visitors.keys_nodup, ?_, fun _ => OrderedMap.contains_iff, map⟩, ⟨family_eq, families⟩,
    fun _ _ => ⟨call_eq_error_iff, call_of_error⟩, ⟨order, r.targets_prefix_after⟩,
    ⟨fun target => ?_, missing⟩, frozen_eq, fun frozen more => r.after_of_frozen more frozen⟩
  · simp [targets, OrderedMap.keys, OrderedMap.values]
  · rw [dispatch_eq_find?]
    exact find?_after_empty family policy calls target

/-- Calls of a registry in which the second of three visitors for `trace` is of a foreign family,
and the last registration comes too late. -/
def tracingCalls : List (Call Unit) :=
  [.add .tracing, .add .since, .register "trace" .loggerTrace, .register "trace" .callLog,
    .dispatch "log", .freeze, .add .derive]

/-- The replacement keeps the place of the first visitor, and the two refused registrations leave no
trace. -/
theorem after_reflects_history_tracing :
    let r := (empty .rust .replace).after tracingCalls
    r.targets = ["trace", "since"] ∧
      (r.dispatch "trace").1.map Visitor.className = some "LoggingVisitor" ∧
      (r.dispatch "derive").1.map Visitor.className = none ∧
      r.frozen = true ∧ ∀ more, r.after more = r := by
  intro r
  obtain ⟨-, -, -, ⟨order, -⟩, ⟨found, -⟩, frozen, final⟩ :=
    after_reflects_history .rust .replace tracingCalls
  refine ⟨order.trans (by decide), ?_, ?_, frozen, final frozen⟩
  · rw [found]
    decide
  · rw [found]
    decide

end Registry

end SchemaWeaver
