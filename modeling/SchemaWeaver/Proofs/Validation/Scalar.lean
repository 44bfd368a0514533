import Mathlib.Data.List.Forall2
import SchemaWeaver.Proofs.Json.Limits
import SchemaWeaver.Proofs.Number.Steps
import SchemaWeaver.Proofs.OrderedMap
import SchemaWeaver.Validation.Scalar

/-!
# What passes a check

A combination of checks passes exactly when all of its parts pass. For each check there is a rule
for what it makes of a value, in one direction or in both: the values that lists, maps and texts are
written as pass, and what has passed came from parts that passed. An integer that passes has no more
digits than the reader converts, whichever spelling it is given in.
-/

namespace SchemaWeaver

namespace Checked

variable {α β : Type}

theorem map_eq_valid {f : α → β} {x : Checked α} {b : β} :
    f <$> x = valid b ↔ ∃ a, x = valid a ∧ f a = b := by
  cases x <;> simp [map]

/-- A combination passes when both sides pass. -/
theorem seq_eq_valid {f : Checked (α → β)} {x : Checked α} {b : β} :
    f <*> x = valid b ↔ ∃ g a, f = valid g ∧ x = valid a ∧ g a = b := by
  cases f <;> cases x <;> simp [apply, map]

theorem seqLeft_eq_valid {x : Checked α} {y : Checked β} {a : α} :
    x <* y = valid a ↔ x = valid a ∧ ∃ b, y = valid b := by
  cases x <;> cases y <;> simp [SeqLeft.seqLeft, apply, map]

theorem map_valid {x : Checked α} {a : α} (f : α → β) (passed : x = valid a) :
    f <$> x = valid (f a) :=
  map_eq_valid.mpr ⟨a, passed, rfl⟩

theorem seq_valid {f : Checked (α → β)} {x : Checked α} {g : α → β} {a : α} {b : β}
    (first : f = valid g) (second : x = valid a) (result : g a = b) : f <*> x = valid b :=
  seq_eq_valid.mpr ⟨g, a, first, second, result⟩

theorem seqLeft_valid {x : Checked α} {y : Checked β} {a : α} {b : β} (first : x = valid a)
    (second : y = valid b) : x <* y = valid a :=
  seqLeft_eq_valid.mpr ⟨first, b, second⟩

theorem under_eq_valid {segment : PathSegment} {x : Checked α} {a : α} :
    x.under segment = valid a ↔ x = valid a := by
  cases x <;> simp [under]

theorem andThen_eq_valid {x : Checked α} {check : α → Checked β} {b : β} :
    x.andThen check = valid b ↔ ∃ a, x = valid a ∧ check a = valid b := by
  cases x <;> simp [andThen]

end Checked

namespace Check

open Checked

variable {α : Type}

section Lists

variable {item : Json → Checked α}

theorem each_eq_valid {start : Nat} {elements : List Json} {items : List α} :
    each item start elements = valid items ↔
      List.Forall₂ (fun element x => item element = valid x) elements items := by
  induction elements generalizing start items with
  | nil =>
    rw [each, List.forall₂_nil_left_iff, valid.injEq]
    exact eq_comm
  | cons element elements ih =>
    rw [each, seq_eq_valid, List.forall₂_cons_left_iff]
    simp only [map_eq_valid, under_eq_valid, ih]
    constructor
    · rintro ⟨_, others, ⟨x, passed, rfl⟩, rest, rfl⟩
      exact ⟨x, others, passed, rest, rfl⟩
    · rintro ⟨x, others, passed, rest, rfl⟩
      exact ⟨_, others, ⟨x, passed, rfl⟩, rest, rfl⟩

/-- A list passes element by element. -/
theorem listOf_eq_valid {value : Json} {items : List α} :
    listOf item value = valid items ↔ ∃ elements, value = .arr elements ∧
      List.Forall₂ (fun element x => item element = valid x) elements items := by
  cases value <;> simp [listOf, each_eq_valid, refuse]

/-- What a list of things is written as passes, when every one of them does. -/
theorem listOf_map {encode : α → Json} (passes : ∀ x, item (encode x) = valid x) (items : List α) :
    listOf item (.arr (items.map encode)) = valid items := by
  rw [listOf_eq_valid]
  refine ⟨_, rfl, ?_⟩
  rw [List.forall₂_map_left_iff, List.forall₂_same]
  exact fun x _ => passes x

end Lists

section Texts

theorem text?_ofText? (value : Option String) : text? (.ofText? value) = valid value := by
  cases value <;> rfl

theorem textMembers_map (entries : List (String × String)) :
    textMembers (entries.map fun entry => (entry.1, .str entry.2)) = valid entries := by
  induction entries with
  | nil => rfl
  | cons entry entries ih =>
    rw [List.map_cons, textMembers, ih]
    rfl

/-- What a map of texts is written as passes, with its keys in the same order. -/
theorem textMap_entries (m : OrderedMap String) :
    textMap (.obj (m.entries.map fun entry => (entry.1, .str entry.2))) = valid m := by
  rw [textMap, textMembers_map, Checked.map, OrderedMap.ofList_entries]

end Texts

section Integers

/-- Integers that are given as binary numbers are not too long. -/
theorem convertible_of_natAbs_lt {n : Int} (small : n.natAbs < binaryIntegerBound) :
    Json.Convertible n := by
  have short : (Nat.toDigits 10 n.natAbs).length ≤ 19 :=
    (Nat.length_toDigits_le_iff (by decide) (by decide)).mpr (Nat.lt_trans small (by decide))
  exact Nat.le_trans short (by decide)

/-- Plain digits are not too many, whatever the sign in front of them. -/
theorem convertible_of_plainDigits {digits : List Char} (plain : IntegerText.PlainDigits digits)
    (negative : Bool) : Json.Convertible (IntegerText.signedValue negative digits) := by
  have magnitude : (IntegerText.signedValue negative digits).natAbs =
      IntegerText.digitsValue digits := by
    cases negative with
    | false => rfl
    | true => exact Int.natAbs_neg _
  rw [Json.Convertible, magnitude]
  exact Json.length_toDigits_digitsValue plain.all (by decide) plain.short

theorem convertible_of_readPlain {s : List Char} {n : Int}
    (read : IntegerText.readPlain s = .ok n) : Json.Convertible n := by
  by_cases minus : s.head? = some '-'
  · obtain ⟨digits, rfl⟩ := List.head?_eq_some_iff.mp minus
    obtain ⟨plain, rfl⟩ := IntegerText.readPlain_minus_eq_ok_iff.mp read
    exact convertible_of_plainDigits plain true
  · obtain ⟨plain, rfl⟩ := (IntegerText.readPlain_eq_ok_iff minus).mp read
    exact convertible_of_plainDigits plain false

/-- However generously an integer is written, it is read by its plain form. -/
theorem convertible_of_integerText {s : String} {n : Int}
    (read : IntegerText.read s = .ok n) : Json.Convertible n := by
  unfold IntegerText.read at read
  split at read
  · split at read
    · rename_i found
      cases read
      obtain ⟨plain, -, passed⟩ := Option.map_eq_some_iff.mp found
      exact convertible_of_readPlain passed
    · cases read
  · exact convertible_of_readPlain read

theorem convertible_of_integerOfBinary {x : Binary64} {n : Int}
    (passed : integerOfBinary x = valid n) : Json.Convertible n := by
  unfold integerOfBinary at passed
  split at passed
  · split at passed
    · cases passed
    split at passed
    · rename_i small
      cases passed
      exact convertible_of_natAbs_lt small
    · cases passed
  · cases passed

/-- An integer that passes has no more digits than the reader converts. -/
theorem convertible_of_integer {value : Json} {n : Int} (bounded : value.Bounded)
    (passed : integer value = valid n) : Json.Convertible n := by
  cases value with
  | int m =>
    cases passed
    exact bounded.convertible
  | bool flag =>
    cases passed
    exact convertible_of_natAbs_lt (by cases flag <;> decide)
  | float x => exact convertible_of_integerOfBinary passed
  | str s =>
    rw [integer, integerOfText] at passed
    split at passed
    · rename_i read
      cases passed
      exact convertible_of_integerText read
    · cases passed
    · cases passed
  | null | arr | obj => cases passed

theorem convertible_of_natural {value : Json} {n : Nat} (bounded : value.Bounded)
    (passed : natural value = valid n) : Json.Convertible n := by
  obtain ⟨m, integral, passed⟩ := andThen_eq_valid.mp passed
  split at passed
  · cases passed
  · rename_i nonnegative
    cases passed
    rw [Int.toNat_of_nonneg (Int.not_lt.mp nonnegative)]
    exact convertible_of_integer bounded integral

/-- A natural number that is written as it is passes. -/
theorem natural_int (n : Nat) : natural (.int n) = valid n := by
  have nonnegative : ¬(n : Int) < 0 := by omega
  rw [natural, integer, andThen, if_neg nonnegative, Int.toNat_natCast]

end Integers

section Members

variable {check : Json → Checked α} {name : String} {members : Members}

theorem required_of_lookup {value : Json} {x : α} (found : members.lookup name = some value)
    (passed : check value = valid x) : required name check members = valid x := by
  rw [required, found]
  exact under_eq_valid.mpr passed

theorem optional_of_lookup {default : α} {value : Json} {x : α}
    (found : members.lookup name = some value) (passed : check value = valid x) :
    optional name default check members = valid x := by
  rw [optional, found]
  exact under_eq_valid.mpr passed

theorem required_eq_valid {x : α} (passed : required name check members = valid x) :
    ∃ value, members.lookup name = some value ∧ check value = valid x := by
  unfold required at passed
  split at passed
  · cases passed
  · rename_i value found
    exact ⟨value, found, under_eq_valid.mp passed⟩

theorem model_eq_valid {fields : SchemaWeaver.Members → Checked α} {value : Json} {x : α} :
    model name fields value = valid x ↔
      ∃ members, value = .obj members ∧ fields members = valid x := by
  cases value <;> simp [model, refuse]

/-- A list in a member that may be absent is made of things that passed. -/
theorem optional_listOf_eq_valid {items : List α} (bounded : (Json.obj members).Bounded)
    (passed : optional name [] (listOf check) members = valid items) :
    ∀ x ∈ items, ∃ value : Json, value.Bounded ∧ check value = valid x := by
  unfold optional at passed
  split at passed
  · cases passed
    nofun
  · rename_i value found
    obtain ⟨elements, rfl, each⟩ := listOf_eq_valid.mp (under_eq_valid.mp passed)
    have inside : ∀ element ∈ elements, element.Bounded :=
      fun element => (bounded.lookup found).element
    clear found passed
    induction each with
    | nil => nofun
    | cons first _ ih =>
      rw [List.forall_mem_cons] at inside ⊢
      exact ⟨⟨_, inside.1, first⟩, ih inside.2⟩

end Members

end Check

end SchemaWeaver
