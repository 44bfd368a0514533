/-!
# Runs of computations that can fail

A computation on a state can fail, and what it did to the state before stays done. Its run is told
step by step: behind a step that gives a value the run goes on from the state that the step leaves,
and a step that fails ends the run unless its failure is handled.
-/

namespace SchemaWeaver.Fallible

variable {ε σ α β : Type} {m : ExceptT ε (StateM σ) α} {f : α → ExceptT ε (StateM σ) β}
  {handler : ε → ExceptT ε (StateM σ) α} {before after : σ} {a : α} {e : ε}

theorem run_bind_ok (h : m.run.run before = (.ok a, after)) :
    (m >>= f).run.run before = (f a).run.run after := by
  simp only [ExceptT.run_bind, StateT.run_bind]
  rw [h]
  rfl

theorem run_bind_error (h : m.run.run before = (.error e, after)) :
    (m >>= f).run.run before = (.error e, after) := by
  simp only [ExceptT.run_bind, StateT.run_bind]
  rw [h]
  rfl

theorem run_tryCatch_ok (h : m.run.run before = (.ok a, after)) :
    (tryCatch m handler).run.run before = (.ok a, after) := by
  simp only [tryCatch, tryCatchThe, MonadExceptOf.tryCatch, ExceptT.tryCatch, ExceptT.run_mk,
    StateT.run_bind]
  change (m.run.run before >>= _) = _
  rw [h]
  rfl

theorem run_tryCatch_error (h : m.run.run before = (.error e, after)) :
    (tryCatch m handler).run.run before = (handler e).run.run after := by
  simp only [tryCatch, tryCatchThe, MonadExceptOf.tryCatch, ExceptT.tryCatch, ExceptT.run_mk,
    StateT.run_bind]
  change (m.run.run before >>= _) = _
  rw [h]
  rfl

end SchemaWeaver.Fallible
