import SchemaWeaver.Number.IntegerText
import SchemaWeaver.Text.Segments

/-!
# Checked values

Validation reports everything that is wrong with a value, not just the first thing. A checked
value is either valid or comes with at least one issue; combining two checked values collects the
issues of both, in order. An issue says where in the value it was met and what is wrong there.
-/

namespace SchemaWeaver

/-- One step into a value: to a member of an object or to an element of a list. -/
inductive PathSegment where
  | key (name : String)
  | index (position : Nat)
  deriving DecidableEq, Repr

/-- What is wrong with a value. -/
inductive Cause where
  | missing
  | notText
  | emptyText
  | notList
  | notMap
  | notModel (model : String)
  | notTaggedObject
  | missingTag (tagKey : String)
  | unknownTag (shown tagKey : String) (expected : List String)
  | notOneOf (options : List String)
  | notInteger
  | fractionalInteger
  | notFinite
  | malformedInteger
  | oversizedInteger
  | below (minimum : Int)
  | above (maximum : Int)
  | notFlag
  | unclearFlag
  deriving DecidableEq, Repr

/-- Something wrong at a place inside a value. -/
structure Issue where
  path : List PathSegment
  cause : Cause
  deriving DecidableEq, Repr

namespace PathSegment

/-- A step as written in a path. -/
def text : PathSegment → String
  | key name => name
  | index position => IntegerText.write position

end PathSegment

namespace Cause

/-- A text between single quotes, as it stands. -/
private def quoted (s : String) : String := "'" ++ s ++ "'"

/-- A list of alternatives, with `or` before the last one. -/
def alternatives : List String → String
  | [] => ""
  | [only] => quoted only
  | [first, last] => quoted first ++ " or " ++ quoted last
  | first :: others => quoted first ++ ", " ++ alternatives others

/-- The wording of a cause. -/
def message : Cause → String
  | missing => "Field required"
  | notText => "Input should be a valid string"
  | emptyText => "String should have at least 1 character"
  | notList => "Input should be a valid list"
  | notMap => "Input should be a valid dictionary"
  | notModel model => "Input should be a valid dictionary or instance of " ++ model
  | notTaggedObject => "Input should be a valid dictionary or object to extract fields from"
  | missingTag tagKey => "Unable to extract tag using discriminator " ++ quoted tagKey
  | unknownTag shown tagKey expected =>
    "Input tag " ++ quoted shown ++ " found using " ++ quoted tagKey ++
      " does not match any of the expected tags: " ++ Text.commaJoined (expected.map quoted)
  | notOneOf options => "Input should be " ++ alternatives options
  | notInteger => "Input should be a valid integer"
  | fractionalInteger => "Input should be a valid integer, got a number with a fractional part"
  | notFinite => "Input should be a finite number"
  | malformedInteger => "Input should be a valid integer, unable to parse string as an integer"
  | oversizedInteger => "Unable to parse input string as an integer, exceeded maximum size"
  | below minimum => "Input should be greater than or equal to " ++ IntegerText.write minimum
  | above maximum => "Input should be less than or equal to " ++ IntegerText.write maximum
  | notFlag => "Input should be a valid boolean"
  | unclearFlag => "Input should be a valid boolean, unable to interpret input"

end Cause

namespace Issue

/-- An issue as one text: the dotted path, a colon and the wording of its cause. -/
def render (issue : Issue) : String :=
  ".".intercalate (issue.path.map PathSegment.text) ++ ": " ++ issue.cause.message

/-- All issues as one text. -/
def renderAll (issues : List Issue) : String :=
  "; ".intercalate (issues.map render)

end Issue

/-- A value that has passed validation, or at least one issue with it. -/
inductive Checked (α : Type) where
  | valid (value : α)
  | invalid (first : Issue) (rest : List Issue)
  deriving DecidableEq, Repr

namespace Checked

variable {α β : Type}

/-- The issues of a checked value; a valid one has none. -/
def issues : Checked α → List Issue
  | valid _ => []
  | invalid first rest => first :: rest

/-- The value, when it is valid. -/
def value? : Checked α → Option α
  | valid value => some value
  | invalid _ _ => none

/-- A value refused for one cause. -/
def refuse (cause : Cause) : Checked α := invalid ⟨[], cause⟩ []

/-- Applies a function to a valid value. -/
def map (f : α → β) : Checked α → Checked β
  | valid value => valid (f value)
  | invalid first rest => invalid first rest

/-- Applies a checked function to a checked value and collects the issues of both. -/
def apply (f : Checked (α → β)) (x : Checked α) : Checked β :=
  match f, x with
  | valid f, x => x.map f
  | invalid first rest, x => invalid first (rest ++ x.issues)

instance : Applicative Checked where
  pure := valid
  seq f x := apply f (x ())

/-- Checks a valid value further. -/
def andThen (x : Checked α) (check : α → Checked β) : Checked β :=
  match x with
  | valid value => check value
  | invalid first rest => invalid first rest

/-- Moves the issues of a checked value one step down. -/
def under (segment : PathSegment) : Checked α → Checked α
  | valid value => valid value
  | invalid first rest =>
    let move (issue : Issue) : Issue := { issue with path := segment :: issue.path }
    invalid (move first) (rest.map move)

@[simp] theorem issues_valid (value : α) : (valid value).issues = [] := rfl

@[simp] theorem issues_invalid (first : Issue) (rest : List Issue) :
    (invalid first rest : Checked α).issues = first :: rest := rfl

@[simp] theorem issues_map (f : α → β) (x : Checked α) : (x.map f).issues = x.issues := by
  cases x <;> rfl

/-- Nothing that is wrong on either side gets lost. -/
@[simp] theorem issues_apply (f : Checked (α → β)) (x : Checked α) :
    (f.apply x).issues = f.issues ++ x.issues := by
  cases f <;> simp [apply]

/-- Moving issues changes where they are and nothing else. -/
@[simp] theorem issues_under (segment : PathSegment) (x : Checked α) :
    (x.under segment).issues =
      x.issues.map fun issue => { issue with path := segment :: issue.path } := by
  cases x <;> rfl

@[simp] theorem map_eq_map (f : α → β) (x : Checked α) : f <$> x = x.map f := rfl

@[simp] theorem seq_eq_apply (f : Checked (α → β)) (x : Checked α) : f <*> x = f.apply x := rfl

@[simp] theorem value?_map (f : α → β) (x : Checked α) : (x.map f).value? = x.value?.map f := by
  cases x <;> rfl

/-- A combination is valid exactly when both sides are. -/
@[simp] theorem value?_apply (f : Checked (α → β)) (x : Checked α) :
    (f.apply x).value? = f.value?.bind fun g => x.value?.map g := by
  cases f <;> cases x <;> rfl

@[simp] theorem value?_under (segment : PathSegment) (x : Checked α) :
    (x.under segment).value? = x.value? := by
  cases x <;> rfl

theorem value?_eq_some_iff {x : Checked α} {value : α} :
    x.value? = some value ↔ x = valid value := by
  cases x <;> simp [value?]

/-- A checked value has issues exactly when it has no value. -/
theorem issues_eq_nil_iff {x : Checked α} : x.issues = [] ↔ x.value?.isSome = true := by
  cases x <;> simp [value?]

end Checked

end SchemaWeaver
