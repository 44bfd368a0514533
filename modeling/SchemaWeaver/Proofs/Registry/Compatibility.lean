import SchemaWeaver.Proofs.Registry.Build
import SchemaWeaver.Proofs.Registry.History

/-!
# Which visitors make a registry

Visitors are compatible when they are all of the family of the registry and, if second visitors are
refused, no two of them have the same target. Compatible visitors make a registry that holds them
and nothing else. Of other visitors there is a first one that does not go with those before it, and
the way in which it breaks the rules is the reason that no registry is built.
-/

namespace SchemaWeaver.Registry

variable {σ : Type}

/-- Visitors that one registry can hold. -/
structure Compatible (family : Backend) (policy : DuplicatePolicy) (visitors : List (Visitor σ)) :
    Prop where
  family_eq : ∀ v ∈ visitors, v.family = family
  nodup_targets : policy = .refuse → (visitors.map Visitor.target).Nodup

/-- How a visitor breaks the rules behind others that keep them. A foreign family is told before a
target that is taken. -/
inductive Breaks (family : Backend) (policy : DuplicatePolicy) (before : List (Visitor σ))
    (v : Visitor σ) : SetupError → Prop
  | foreignFamily (differs : v.family ≠ family) :
    Breaks family policy before v (.familyMismatch v.target family.name v.family.name)
  | takenTarget (same : v.family = family) (refuse : policy = .refuse)
    (taken : ∃ w ∈ before, w.target = v.target) :
    Breaks family policy before v (.duplicateTarget v.target)

/-- The registry that holds visitors under their own targets. -/
def holding (family : Backend) (policy : DuplicatePolicy) (visitors : List (Visitor σ)) :
    Registry σ :=
  ⟨family, policy, .ofList (underTargets visitors), false⟩

section Holding

variable {family : Backend} {policy : DuplicatePolicy} {visitors : List (Visitor σ)}

theorem targets_holding :
    (holding family policy visitors).targets = distinct (visitors.map Visitor.target) := by
  rw [targets, holding, OrderedMap.keys_ofList, underTargets, List.map_map]
  rfl

theorem contains_holding {target : String} :
    (holding family policy visitors).contains target = true ↔
      ∃ v ∈ visitors, v.target = target := by
  have known : (holding family policy visitors).contains target = true ↔
      target ∈ (holding family policy visitors).targets := OrderedMap.contains_iff
  rw [known, targets_holding, mem_distinct, List.mem_map]

/-- Of several visitors for a target the last one is found. -/
theorem find?_holding (target : String) :
    (holding family policy visitors).find? target =
      visitors.reverse.find? fun v => v.target = target := by
  rw [find?, holding, OrderedMap.ofList, OrderedMap.find?_insertAll, underTargets,
    ← List.map_reverse, List.find?_map, Option.map_map]
  exact Option.or_none.trans Option.map_id'

theorem insert_holding (v : Visitor σ) :
    { holding family policy visitors with
      visitors := (holding family policy visitors).visitors.insert v.target v } =
      holding family policy (visitors ++ [v]) := by
  simp [holding, underTargets, OrderedMap.ofList, OrderedMap.insertAll]

end Holding

section Adding

variable {family : Backend} {policy : DuplicatePolicy} {before middle later : List (Visitor σ)}
  {v : Visitor σ} {e : SetupError}

theorem compatible_nil : Compatible family policy ([] : List (Visitor σ)) :=
  ⟨nofun, fun _ => List.nodup_nil⟩

theorem Compatible.of_append (h : Compatible family policy (before ++ later)) :
    Compatible family policy before where
  family_eq w member := h.family_eq w (List.mem_append_left later member)
  nodup_targets refuse := by
    have distinct := h.nodup_targets refuse
    rw [List.map_append] at distinct
    exact (List.nodup_append.mp distinct).1

theorem compatible_append_singleton : Compatible family policy (before ++ [v]) ↔
    Compatible family policy before ∧ v.family = family ∧
      (policy = .refuse → ¬∃ w ∈ before, w.target = v.target) := by
  have untaken : (before ++ [v]).map Visitor.target = before.map Visitor.target ++ [v.target] := by
    simp
  constructor
  · refine fun h => ⟨h.of_append, h.family_eq v (by simp), fun refuse => ?_⟩
    rintro ⟨w, member, same⟩
    have distinct := h.nodup_targets refuse
    rw [untaken, List.nodup_append] at distinct
    exact distinct.2.2 _ (List.mem_map_of_mem member) _ (List.mem_singleton_self _) same
  · rintro ⟨h, same, free⟩
    refine ⟨List.forall_mem_append.mpr ⟨h.family_eq, List.forall_mem_singleton.mpr same⟩,
      fun refuse => ?_⟩
    rw [untaken, List.nodup_append]
    refine ⟨h.nodup_targets refuse, by simp, fun target member _ last eq => ?_⟩
    obtain ⟨w, inside, rfl⟩ := List.mem_map.mp member
    exact free refuse ⟨w, inside, eq.trans (List.mem_singleton.mp last)⟩

/-- A visitor goes with those before it or breaks the rules, and never both. -/
theorem compatible_iff_not_breaks (h : Compatible family policy before) :
    Compatible family policy (before ++ [v]) ↔ ¬∃ e, Breaks family policy before v e := by
  rw [compatible_append_singleton]
  constructor
  · rintro ⟨-, same, free⟩ ⟨e, differs | ⟨-, refuse, taken⟩⟩
    · exact differs same
    · exact free refuse taken
  · intro keeps
    have same : v.family = family := by
      by_contra differs
      exact keeps ⟨_, .foreignFamily differs⟩
    exact ⟨h, same, fun refuse taken => keeps ⟨_, .takenTarget same refuse taken⟩⟩

theorem add_of_compatible (h : Compatible family policy (before ++ [v])) :
    ∃ records, (holding family policy before).add v =
      .ok (holding family policy (before ++ [v]), records) := by
  obtain ⟨-, same, free⟩ := compatible_append_singleton.mp h
  have admits : (holding family policy before).Admits (v.target, v) := by
    refine ⟨rfl, same, fun refuse => ?_⟩
    rw [Bool.eq_false_iff]
    exact fun known => free refuse (contains_holding.mp known)
  obtain ⟨records, registered⟩ := register_of_admits admits
  rw [insert_holding] at registered
  exact ⟨records, registered⟩

theorem add_of_breaks (breaks : Breaks family policy before v e) :
    (holding family policy before).add v = .error e := by
  have refuses : (holding family policy before).Refuses (v.target, v) e := by
    cases breaks with
    | foreignFamily differs => exact .inr (.inl ⟨rfl, differs, rfl⟩)
    | takenTarget same refuse taken =>
      exact .inr (.inr ⟨rfl, same, refuse, contains_holding.mpr taken, rfl⟩)
  exact register_of_refuses refuses

/-- Visitors that go with those before them are added, and what follows meets a registry that holds
them all. -/
theorem addAll_append (before middle later : List (Visitor σ))
    (h : Compatible family policy (before ++ middle)) :
    let final := (holding family policy before).addAll (middle ++ later)
    let rest := (holding family policy (before ++ middle)).addAll later
    final.1 = rest.1 ∧ final.2.2 = rest.2.2 := by
  induction middle generalizing before with
  | nil => simp
  | cons v middle ih =>
    rw [List.append_cons] at h ⊢
    obtain ⟨records, added⟩ := add_of_compatible h.of_append
    dsimp only
    rw [List.cons_append, addAll, added]
    exact ih _ h

/-- Visitors that are not compatible have a first one that breaks the rules. -/
theorem exists_first_breaks (h : Compatible family policy before)
    (clash : ¬Compatible family policy (before ++ later)) :
    ∃ middle v rest e, later = middle ++ v :: rest ∧
      Compatible family policy (before ++ middle) ∧
      Breaks family policy (before ++ middle) v e := by
  induction later generalizing before with
  | nil => exact absurd h (by simpa using clash)
  | cons v later ih =>
    by_cases keeps : Compatible family policy (before ++ [v])
    · rw [List.append_cons] at clash
      obtain ⟨middle, w, rest, e, rfl, compatible, breaks⟩ := ih keeps clash
      rw [← List.append_cons] at compatible breaks
      exact ⟨v :: middle, w, rest, e, rfl, compatible, breaks⟩
    · rw [compatible_iff_not_breaks h, not_not] at keeps
      obtain ⟨e, breaks⟩ := keeps
      exact ⟨[], v, later, e, rfl, by simpa using h, by simpa using breaks⟩

end Adding

section Building

variable {visitors : List (Visitor σ)} {family? : Option Backend} {policy : DuplicatePolicy}

theorem chosenFamily_eq : chosenFamily family? visitors =
    (family?.or (visitors.head?.map Visitor.family)).getD .rust := by
  cases family? <;> cases visitors <;> rfl

theorem build_eq_addAll : build visitors family? policy =
    match (holding (chosenFamily family? visitors) policy []).addAll visitors with
    | (r, records, none) => .ok (r, records)
    | (_, _, some e) => .error e := rfl

theorem build_of_compatible (h : Compatible (chosenFamily family? visitors) policy visitors) :
    ∃ records, build visitors family? policy =
      .ok (holding (chosenFamily family? visitors) policy visitors, records) := by
  obtain ⟨held, passed⟩ := addAll_append [] visitors [] h
  rw [List.append_nil] at held passed
  rw [build_eq_addAll]
  generalize (holding (chosenFamily family? visitors) policy []).addAll visitors = added
    at held passed
  obtain ⟨r, records, e?⟩ := added
  obtain rfl : r = holding (chosenFamily family? visitors) policy visitors := held
  obtain rfl : e? = none := passed
  exact ⟨records, rfl⟩

theorem build_of_breaks {before rest : List (Visitor σ)} {v : Visitor σ} {e : SetupError}
    (split : visitors = before ++ v :: rest)
    (h : Compatible (chosenFamily family? visitors) policy before)
    (breaks : Breaks (chosenFamily family? visitors) policy before v e) :
    build visitors family? policy = .error e := by
  obtain ⟨-, failed⟩ := addAll_append [] before (v :: rest) h
  rw [← split, List.nil_append, addAll, add_of_breaks breaks] at failed
  rw [build_eq_addAll]
  generalize (holding (chosenFamily family? visitors) policy []).addAll visitors = added at failed
  obtain ⟨r, records, e?⟩ := added
  obtain rfl : e? = some e := failed
  rfl

/-- What is built is the registry that holds the visitors. -/
theorem eq_holding_of_build {r : Registry σ} {records : List LogRecord}
    (built : build visitors family? policy = .ok (r, records)) :
    Compatible (chosenFamily family? visitors) policy visitors ∧
      r = holding (chosenFamily family? visitors) policy visitors := by
  by_cases h : Compatible (chosenFamily family? visitors) policy visitors
  · obtain ⟨_, eq⟩ := build_of_compatible h
    cases built.symm.trans eq
    exact ⟨h, rfl⟩
  · obtain ⟨before, v, rest, e, split, compatible, breaks⟩ :=
      exists_first_breaks compatible_nil h
    cases built.symm.trans (build_of_breaks split compatible breaks)

/-- No registry is built exactly when some visitor is the first one to break the rules. -/
theorem build_eq_error_iff {e : SetupError} : build visitors family? policy = .error e ↔
    ∃ before v rest, visitors = before ++ v :: rest ∧
      Compatible (chosenFamily family? visitors) policy before ∧
      Breaks (chosenFamily family? visitors) policy before v e := by
  constructor
  · intro failed
    by_cases h : Compatible (chosenFamily family? visitors) policy visitors
    · obtain ⟨_, eq⟩ := build_of_compatible h
      cases failed.symm.trans eq
    · obtain ⟨before, v, rest, e', split, compatible, breaks⟩ :=
        exists_first_breaks compatible_nil h
      cases failed.symm.trans (build_of_breaks split compatible breaks)
      exact ⟨before, v, rest, split, compatible, breaks⟩
  · rintro ⟨before, v, rest, split, compatible, breaks⟩
    exact build_of_breaks split compatible breaks

end Building

/-- Under a target the last visitor is found; when second visitors are refused there is no other. -/
theorem dispatch_holding {family : Backend} {policy : DuplicatePolicy} {visitors : List (Visitor σ)}
    (h : Compatible family policy visitors) (target : String) (v : Visitor σ) :
    ((holding family policy visitors).dispatch target).1 = some v ↔
      ∃ before later, visitors = before ++ v :: later ∧ v.target = target ∧
        (∀ w ∈ later, w.target ≠ target) ∧
        (policy = .refuse → ∀ w ∈ before, w.target ≠ target) := by
  rw [dispatch_eq_find?, find?_holding, List.find?_eq_some_iff_append]
  simp only [decide_eq_true_eq, Bool.not_eq_eq_eq_not, Bool.not_true,
    decide_eq_false_iff_not]
  constructor
  · rintro ⟨rfl, after, before, split, others⟩
    have order : visitors = before.reverse ++ v :: after.reverse := by
      simpa using congrArg List.reverse split
    refine ⟨before.reverse, after.reverse, order, rfl, fun w member => ?_,
      fun refuse w member same => ?_⟩
    · exact others w (List.mem_reverse.mp member)
    · have distinct := h.nodup_targets refuse
      rw [order, List.map_append, List.nodup_append] at distinct
      exact distinct.2.2 _ (List.mem_map_of_mem member) _ (List.mem_cons_self ..) same
  · rintro ⟨before, later, rfl, rfl, others, -⟩
    refine ⟨rfl, later.reverse, before.reverse, by simp, fun w member => ?_⟩
    exact others w (List.mem_reverse.mp member)

/-- Building a registry from visitors. Its family is the given one, else that of the first visitor,
else the Rust one. A registry is built exactly when all visitors are of this family and, if second
visitors are refused, no two of them have the same target. The reason that none is built is the way
in which the first visitor that does not go with those before it breaks the rules, where a foreign
family comes before a target that is taken. What is built is not read-only, has the targets of the
visitors in the order in which they first stand, and finds under a target the last visitor that has
it, which is the only one when second visitors are refused. -/
theorem build_reflects_visitors (visitors : List (Visitor σ)) (family? : Option Backend)
    (policy : DuplicatePolicy) :
    let family := (family?.or (visitors.head?.map Visitor.family)).getD .rust
    ((∃ r records, build visitors family? policy = .ok (r, records)) ↔
      (∀ v ∈ visitors, v.family = family) ∧
        (policy = .refuse → (visitors.map Visitor.target).Nodup)) ∧
    (∀ e, build visitors family? policy = .error e ↔
      ∃ before v later, visitors = before ++ v :: later ∧ Compatible family policy before ∧
        Breaks family policy before v e) ∧
    ∀ r records, build visitors family? policy = .ok (r, records) →
      r.family = family ∧ r.policy = policy ∧ r.frozen = false ∧
      r.targets = (visitors.map Visitor.target).eraseDups ∧
      ∀ target v, (r.dispatch target).1 = some v ↔
        ∃ before later, visitors = before ++ v :: later ∧ v.target = target ∧
          (∀ w ∈ later, w.target ≠ target) ∧
          (policy = .refuse → ∀ w ∈ before, w.target ≠ target) := by
  intro family
  have chosen : chosenFamily family? visitors = family := chosenFamily_eq
  refine ⟨⟨?_, ?_⟩, fun e => chosen ▸ build_eq_error_iff, ?_⟩
  · rintro ⟨r, records, built⟩
    have compatible := (eq_holding_of_build built).1
    exact chosen ▸ ⟨compatible.family_eq, compatible.nodup_targets⟩
  · rintro ⟨same, distinct⟩
    have compatible : Compatible (chosenFamily family? visitors) policy visitors :=
      ⟨chosen ▸ same, distinct⟩
    exact ⟨_, build_of_compatible compatible⟩
  · intro r records built
    obtain ⟨compatible, rfl⟩ := eq_holding_of_build built
    refine ⟨chosen, rfl, rfl, ?_, dispatch_holding compatible⟩
    rw [targets_holding, distinct_eq_eraseDups]

/-- Visitors of which the last one is of another family and has a target that is taken. -/
def clashing : List (Visitor Unit) := [.tracing, .since, .loggerTrace]

/-- A visitor for `trace` that calls the log. -/
def traceLog : Visitor Unit := { Visitor.callLog with target := "trace" }

/-- Visitors of which the last one has the target of the first one. -/
def renewed : List (Visitor Unit) := [.tracing, .since, traceLog]

/-- Of the two rules that are broken the family is told. The visitor that takes the place of another
one keeps its position. -/
theorem build_reflects_visitors_tracing :
    build clashing none .refuse = .error (.familyMismatch "trace" "rust" "python") ∧
      ∃ r records, build renewed none .replace = .ok (r, records) ∧
        r.frozen = false ∧ r.targets = ["trace", "since"] ∧
        (r.dispatch "trace").1 = some traceLog := by
  obtain ⟨-, failing, -⟩ := build_reflects_visitors clashing none .refuse
  obtain ⟨succeeding, -, result⟩ := build_reflects_visitors renewed none .replace
  have compatible : Compatible .rust .refuse ([.tracing, .since] : List (Visitor Unit)) :=
    ⟨List.forall_mem_cons.mpr ⟨rfl, List.forall_mem_singleton.mpr rfl⟩, fun _ => by decide⟩
  have same : ∀ v ∈ renewed, v.family = .rust :=
    List.forall_mem_cons.mpr
      ⟨rfl, List.forall_mem_cons.mpr ⟨rfl, List.forall_mem_singleton.mpr rfl⟩⟩
  obtain ⟨r, records, built⟩ := succeeding.mpr ⟨same, nofun⟩
  obtain ⟨-, -, frozen, targets, found⟩ := result r records built
  refine ⟨(failing _).mpr ⟨[.tracing, .since], .loggerTrace, [], rfl, compatible,
    .foreignFamily (by decide)⟩, r, records, built, frozen, targets.trans (by decide), ?_⟩
  exact (found _ _).mpr ⟨[.tracing, .since], [], rfl, rfl, nofun, nofun⟩

end SchemaWeaver.Registry
