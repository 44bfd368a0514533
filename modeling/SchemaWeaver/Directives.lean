import SchemaWeaver.Distinct
import SchemaWeaver.Schema.Basic
import SchemaWeaver.Text.Segments

/-!
# Reading the directives of a node

A node may address the same target several times. The texts addressed to a target are kept in
source order; its option maps are folded into one, in which a later value wins and a key keeps the
place of its first occurrence. Keys that more than one map sets are its collisions.
-/

namespace SchemaWeaver

/-- Everything that the directives of one node say to one target. -/
structure Payload where
  target : String
  values : List String
  options : OrderedMap String
  deriving DecidableEq, Repr

namespace Payload

/-- The texts of a payload as one. -/
def text (p : Payload) : String := Text.commaJoined p.values

/-- The option under a key. -/
def get? (p : Payload) (key : String) : Option String := p.options.find? key

/-- The texts that are not blank, trimmed. -/
def trimmedValues (p : Payload) : List String := (p.values.map Text.trim).filter (· ≠ "")

/-- A payload without options whose texts are all blank. -/
def isEmpty (p : Payload) : Bool := p.values.all Text.isBlankText && p.options.isEmpty

/-- Whether every option key is one of the given keys. -/
def optionsWithin (p : Payload) (allowed : List String) : Bool :=
  p.options.keys.all fun key => allowed.contains key

end Payload

namespace Directives

/-- Whether some directive addresses a target. -/
def has (directives : List Directive) (target : String) : Bool :=
  directives.any fun d => d.target = target

/-- The targets addressed, in the order of their first directive. -/
def targets (directives : List Directive) : List String :=
  distinct (directives.map Directive.target)

/-- The payloads for a target, in source order. -/
def payloadsFor (directives : List Directive) (target : String) : List DirectivePayload :=
  (directives.filter fun d => d.target = target).map Directive.payload

/-- The texts for a target, in source order. -/
def textsFor (directives : List Directive) (target : String) : List String :=
  (payloadsFor directives target).filterMap fun
    | .text value => some value
    | .options _ => none

/-- The option maps for a target, in source order. -/
def mapsFor (directives : List Directive) (target : String) : List (OrderedMap String) :=
  (payloadsFor directives target).filterMap fun
    | .text _ => none
    | .options entries => some entries

/-- The option maps for a target folded into one. -/
def combinedMapFor (directives : List Directive) (target : String) : OrderedMap String :=
  (mapsFor directives target).foldl (fun combined m => combined.insertAll m.entries) ∅

/-- The keys that more than one option map for a target sets, in the order in which they are set
again. -/
def collisions (directives : List Directive) (target : String) : List String :=
  repeated ((mapsFor directives target).flatMap OrderedMap.keys)

/-- The value of a key in the first option map for a target that sets it. -/
def firstValueFor (directives : List Directive) (target key : String) : Option String :=
  (mapsFor directives target).findSome? fun m => m.find? key

/-- Everything that the directives say to a target. -/
def payloadFor (directives : List Directive) (target : String) : Payload where
  target := target
  values := textsFor directives target
  options := combinedMapFor directives target

end Directives

end SchemaWeaver
