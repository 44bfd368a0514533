import SchemaWeaver.Contribution.Basic
import SchemaWeaver.Schema.Basic

/-!
# Families of contributions

A backend accepts five sorts of contributions, one for every slot that a visit may fill. A family
names the five. What stands in a slot has to know whether it is empty and how to merge; shapes
always do, while a foreign type is checked when the family is formed.
-/

namespace SchemaWeaver

/-- What a visit to a node fills. -/
inductive Slot where
  | type
  | field
  | case
  | function
  | module
  deriving DecidableEq, Repr

namespace Slot

/-- All slots. -/
def all : List Slot := [type, field, case, function, module]

/-- The name of a slot in messages. -/
def name : Slot → String
  | type => "type"
  | field => "field"
  | case => "variant-case"
  | function => "function"
  | module => "module"

/-- The slot with a given name. -/
def ofName? (s : String) : Option Slot := all.find? fun slot => slot.name == s

/-- The slots of members, whose contributions are kept under the member's name. -/
def isMember : Slot → Bool
  | field | case => true
  | _ => false

/-- The slot that a visit to a node of some kind fills. -/
def ofKind (kind : NodeKind) : Slot :=
  if kind.isTypeDefinition then type
  else if kind.isModule then module
  else
    match kind with
    | .field => field
    | .variantCase => case
    | _ => function

theorem ofKind_body (body : TypeBody) : ofKind body.kind = type := by
  cases body <;> rfl

end Slot

/-- One thing of sort `κ` for every slot, under the name of a backend. -/
structure Family (κ : Type) where
  name : String
  ofType : κ
  ofField : κ
  ofCase : κ
  ofFunction : κ
  ofModule : κ
  deriving DecidableEq, Repr

namespace Family

variable {κ lam : Type}

/-- What a family has for a slot. -/
def get (family : Family κ) : Slot → κ
  | .type => family.ofType
  | .field => family.ofField
  | .case => family.ofCase
  | .function => family.ofFunction
  | .module => family.ofModule

/-- The contents of a family in the order of the slots. -/
def contents (family : Family κ) : List κ := Slot.all.map family.get

/-- Applies a function to every content of a family. -/
def map (f : κ → lam) (family : Family κ) : Family lam where
  name := family.name
  ofType := f family.ofType
  ofField := f family.ofField
  ofCase := f family.ofCase
  ofFunction := f family.ofFunction
  ofModule := f family.ofModule

end Family

/-- What may be offered as the content of a slot: a shape, or a foreign type with some methods and
some plain attributes. -/
inductive SlotType where
  | shaped (shape : Shape)
  | foreign (name : String) (methods attributes : List String)
  deriving DecidableEq, Repr

namespace SlotType

/-- The name of a slot type. -/
def name : SlotType → String
  | shaped shape => shape.name
  | foreign name _ _ => name

/-- The methods that every slot type needs. -/
def capabilities : List String := ["is_empty", "merge"]

/-- Whether a slot type has a method. A plain attribute of that name does not count. -/
def provides (method : String) : SlotType → Bool
  | shaped shape => capabilities.contains method || (shape.listOfWriter? method).isSome
  | foreign _ methods attributes => methods.contains method && !attributes.contains method

/-- Whether a value of one type counts as a value of another. -/
def accepts : SlotType → SlotType → Bool
  | shaped expected, shaped given => given.Extends expected
  | expected, given => expected == given

end SlotType

/-- A slot type that lacks a method that its family needs. -/
structure InvalidFamily where
  family : String
  offered : String
  method : String
  deriving DecidableEq, Repr

/-- The wording of an invalid family. -/
def InvalidFamily.message (e : InvalidFamily) : String :=
  "Family '" ++ e.family ++ "': " ++ e.offered ++ " has no '" ++ e.method ++ "' method"

/-- Forms a family of slot types, if each has the methods that it needs. The first lack, slot by
slot, is reported. -/
def Family.form (family : Family SlotType) : Except InvalidFamily (Family SlotType) :=
  let lacks := family.contents.flatMap fun offered =>
    (SlotType.capabilities.filter fun method => !offered.provides method).map fun method =>
      (offered.name, method)
  match lacks with
  | [] => .ok family
  | (offered, method) :: _ => .error ⟨family.name, offered, method⟩

/-- A backend: a family whose slots are shapes. -/
abbrev Backend := Family Shape

/-- A family of shapes always forms. -/
theorem Family.form_shaped (backend : Backend) :
    (backend.map SlotType.shaped).form = .ok (backend.map SlotType.shaped) := by
  simp [Family.form, Family.contents, Slot.all, Family.get, Family.map, SlotType.provides,
    SlotType.capabilities]

end SchemaWeaver
