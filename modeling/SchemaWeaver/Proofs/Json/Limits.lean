import SchemaWeaver.Proofs.Json.Integers

/-!
# What the reader gives

A property of values that is kept when values are put together holds of everything that the reader
gives. The reader recurses on its fuel, and so does the proof: what a call gives is put together
from what the calls with less fuel give. Two properties are of this sort. All integers in a value
that the reader gives are integers that it converts, and all objects have each of their names once,
however deep they are inside the value.
-/

namespace SchemaWeaver.Json

/-- A value in which every integer is one that the reader converts. -/
inductive Bounded : Json → Prop
  | null : Bounded null
  | bool (value : Bool) : Bounded (bool value)
  | int {value : Int} (convertible : Convertible value) : Bounded (int value)
  | float (value : Binary64) : Bounded (float value)
  | str (value : String) : Bounded (str value)
  | arr {elements : List Json} (each : ∀ element ∈ elements, Bounded element) :
    Bounded (arr elements)
  | obj {members : List (String × Json)} (each : ∀ member ∈ members, Bounded member.2) :
    Bounded (obj members)

theorem Bounded.convertible {n : Int} (h : Bounded (.int n)) : Convertible n := by
  cases h
  assumption

theorem Bounded.element {elements : List Json} (h : Bounded (.arr elements)) {element : Json}
    (inside : element ∈ elements) : Bounded element := by
  cases h with
  | arr each => exact each element inside

theorem Bounded.lookup {members : List (String × Json)} (h : Bounded (.obj members))
    {name : String} {value : Json} (found : members.lookup name = some value) : Bounded value := by
  obtain ⟨before, after, rfl, -⟩ := List.lookup_eq_some_iff.mp found
  cases h with
  | obj each => exact each (name, value) (List.mem_append_right before (List.mem_cons_self ..))

theorem mem_upsert {α : Type} {key : String} {value : α} {entries : List (String × α)}
    {entry : String × α} (h : entry ∈ upsert key value entries) :
    entry = (key, value) ∨ entry ∈ entries := by
  induction entries with
  | nil => exact .inl (List.mem_singleton.mp h)
  | cons head rest ih =>
    rw [upsert] at h
    split at h
    · rcases List.mem_cons.mp h with new | old
      · exact .inl new
      · exact .inr (List.mem_cons_of_mem head old)
    · rcases List.mem_cons.mp h with same | later
      · exact .inr (same ▸ List.mem_cons_self ..)
      · exact (ih later).imp_right (List.mem_cons_of_mem head)

/-- Dropping repeated names leaves only members that were there. -/
theorem forall_foldl_upsert {P : Json → Prop} {members entries : List (String × Json)}
    (held : ∀ entry ∈ entries, P entry.2) (each : ∀ member ∈ members, P member.2) :
    ∀ entry ∈ members.foldl (fun entries member => upsert member.1 member.2 entries) entries,
      P entry.2 := by
  induction members generalizing entries with
  | nil => exact held
  | cons member members ih =>
    refine ih ?_ fun entry inside => each entry (List.mem_cons_of_mem member inside)
    intro entry inside
    rcases mem_upsert inside with rfl | old
    · exact each member (List.mem_cons_self ..)
    · exact held entry old

theorem nodup_foldl_upsert {members entries : List (String × Json)}
    (distinct : (entries.map Prod.fst).Nodup) :
    ((members.foldl (fun entries member => upsert member.1 member.2 entries) entries).map
      Prod.fst).Nodup := by
  induction members generalizing entries with
  | nil => exact distinct
  | cons member members ih => exact ih ((OrderedMap.mk entries distinct).insert _ _).nodup_keys

/-- A value in which every object has each of its names once. -/
inductive Tidy : Json → Prop
  | null : Tidy null
  | bool (value : Bool) : Tidy (bool value)
  | int (value : Int) : Tidy (int value)
  | float (value : Binary64) : Tidy (float value)
  | str (value : String) : Tidy (str value)
  | arr {elements : List Json} (each : ∀ element ∈ elements, Tidy element) : Tidy (arr elements)
  | obj {members : List (String × Json)} (distinct : (members.map Prod.fst).Nodup)
    (each : ∀ member ∈ members, Tidy member.2) : Tidy (obj members)

/-- A property that is kept when values are put together the way the reader does. -/
structure Hereditary (P : Json → Prop) : Prop where
  null : P null
  bool (value : Bool) : P (bool value)
  int {value : Int} (convertible : Convertible value) : P (int value)
  float (value : Binary64) : P (float value)
  str (value : String) : P (str value)
  arr {elements : List Json} (each : ∀ element ∈ elements, P element) : P (arr elements)
  obj {members : List (String × Json)} (each : ∀ member ∈ members, P member.2) :
    P (ofMembers members)

namespace Hereditary

variable {P : Json → Prop} (kept : Hereditary P)

include kept

theorem of_readWord? {s rest : List Char} {value : Json}
    (read : readWord? s = some (value, rest)) : P value := by
  unfold readWord? at read
  split at read <;> cases read
  · exact kept.null
  · exact kept.bool true
  · exact kept.bool false
  all_goals exact kept.float _

theorem of_readNumber {s rest : List Char} {value : Json}
    (read : readNumber s = .ok (value, rest)) : P value := by
  cases value with
  | int n => exact kept.int (convertible_of_readNumber read)
  | float x => exact kept.float x
  | null | bool | str | arr | obj =>
    unfold readNumber at read
    split at read
    dsimp only at read
    repeat' split at read
    all_goals cases read

end Hereditary

section Steps

variable {α β : Type}

/-- A step that gives a result gives one in both of its parts. -/
theorem bind_eq_ok {first : Reading α} {next : α → Reading β} {b : β} :
    (first >>= next) = .ok b ↔ ∃ a, first = .ok a ∧ next a = .ok b := by
  cases first with
  | error stop => exact ⟨nofun, nofun⟩
  | ok a => exact ⟨fun h => ⟨a, rfl, h⟩, fun ⟨_, same, h⟩ => by cases same; exact h⟩

variable {P : Json → Prop} {fuel room : Nat} {s rest : List Char}

theorem Hereditary.of_readValue (kept : Hereditary P) {value : Json}
    (elements : ∀ room s elements rest, readElements fuel room s = .ok (elements, rest) →
      ∀ element ∈ elements, P element)
    (members : ∀ room s members rest, readMembers fuel room s = .ok (members, rest) →
      ∀ member ∈ members, P member.2)
    (read : readValue (fuel + 1) room s = .ok (value, rest)) : P value := by
  unfold readValue at read
  dsimp only at read
  split at read
  · obtain ⟨found, -, result⟩ := bind_eq_ok.mp read
    cases result
    exact kept.str found.1
  · cases read
  · cases read
  · split at read
    · cases read
      have empty : P (.ofMembers []) := kept.obj fun _ member => absurd member List.not_mem_nil
      exact empty
    · obtain ⟨found, inside, result⟩ := bind_eq_ok.mp read
      cases result
      exact kept.obj (members _ _ _ _ inside)
  · split at read
    · cases read
      exact kept.arr nofun
    · obtain ⟨found, inside, result⟩ := bind_eq_ok.mp read
      cases result
      exact kept.arr (elements _ _ _ _ inside)
  · split at read
    · rename_i word
      cases read
      exact kept.of_readWord? word
    · exact kept.of_readNumber read

theorem holds_of_readElements {values : List Json}
    (value : ∀ room s value rest, readValue fuel room s = .ok (value, rest) → P value)
    (elements : ∀ room s elements rest, readElements fuel room s = .ok (elements, rest) →
      ∀ element ∈ elements, P element)
    (read : readElements (fuel + 1) room s = .ok (values, rest)) :
    ∀ element ∈ values, P element := by
  rw [readElements] at read
  obtain ⟨⟨first, after⟩, readFirst, read⟩ := bind_eq_ok.mp read
  have head := value _ _ _ _ readFirst
  dsimp only at read
  split at read
  · cases read
    exact List.forall_mem_singleton.mpr head
  · obtain ⟨⟨others, _⟩, readOthers, result⟩ := bind_eq_ok.mp read
    cases result
    exact List.forall_mem_cons.mpr ⟨head, elements _ _ _ _ readOthers⟩
  · cases read

theorem holds_of_readMembers {named : List (String × Json)}
    (value : ∀ room s value rest, readValue fuel room s = .ok (value, rest) → P value)
    (members : ∀ room s members rest, readMembers fuel room s = .ok (members, rest) →
      ∀ member ∈ members, P member.2)
    (read : readMembers (fuel + 1) room s = .ok (named, rest)) :
    ∀ member ∈ named, P member.2 := by
  unfold readMembers at read
  split at read
  · obtain ⟨⟨name, colon⟩, -, read⟩ := bind_eq_ok.mp read
    dsimp only at read
    split at read
    · obtain ⟨⟨first, after⟩, readFirst, read⟩ := bind_eq_ok.mp read
      have head := value _ _ _ _ readFirst
      dsimp only at read
      split at read
      · cases read
        exact List.forall_mem_singleton.mpr head
      · obtain ⟨⟨others, _⟩, readOthers, result⟩ := bind_eq_ok.mp read
        cases result
        exact List.forall_mem_cons.mpr ⟨head, members _ _ _ _ readOthers⟩
      · cases read
    · cases read
  · cases read

end Steps

/-- Whatever the fuel, the property holds of values, elements and members that are read. -/
theorem Hereditary.of_read {P : Json → Prop} (kept : Hereditary P) (fuel : Nat) :
    (∀ room s value rest, readValue fuel room s = .ok (value, rest) → P value) ∧
      (∀ room s elements rest, readElements fuel room s = .ok (elements, rest) →
        ∀ element ∈ elements, P element) ∧
      ∀ room s members rest, readMembers fuel room s = .ok (members, rest) →
        ∀ member ∈ members, P member.2 := by
  induction fuel with
  | zero => exact ⟨nofun, nofun, nofun⟩
  | succ fuel ih =>
    obtain ⟨value, elements, members⟩ := ih
    refine ⟨?_, ?_, ?_⟩
    · exact fun _ _ _ _ => kept.of_readValue elements members
    · exact fun _ _ _ _ => holds_of_readElements value elements
    · exact fun _ _ _ _ => holds_of_readMembers value members

theorem Hereditary.of_readDocument {P : Json → Prop} (kept : Hereditary P) {s : List Char}
    {value : Json} (read : readDocument s = .ok value) : P value := by
  unfold readDocument at read
  split at read
  · cases read
  split at read
  · cases read
  rename_i found rest first
  split at read
  · cases read
    exact (kept.of_read _).1 _ _ _ _ first
  · cases read

/-- The property holds of every document that is read. -/
theorem Hereditary.of_parse {P : Json → Prop} (kept : Hereditary P) {text : String} {value : Json}
    (read : parse text = .ok value) : P value := by
  unfold parse at read
  dsimp only at read
  split at read
  · rename_i document
    cases read
    exact kept.of_readDocument document
  · cases read
  · cases read

/-- All integers of a document that is read are integers that the reader converts. -/
theorem bounded_of_parse {text : String} {value : Json} (read : parse text = .ok value) :
    Bounded value :=
  Hereditary.of_parse ⟨.null, .bool, .int, .float, .str, .arr,
    fun each => .obj (forall_foldl_upsert nofun each)⟩ read

/-- All objects of a document that is read have each of their names once. -/
theorem tidy_of_parse {text : String} {value : Json} (read : parse text = .ok value) :
    Tidy value :=
  Hereditary.of_parse ⟨.null, .bool, fun _ => .int _, .float, .str, .arr,
    fun each => .obj (nodup_foldl_upsert List.nodup_nil) (forall_foldl_upsert nofun each)⟩ read

end SchemaWeaver.Json
