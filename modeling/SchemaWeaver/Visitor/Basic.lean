import SchemaWeaver.Contribution.Builtin
import SchemaWeaver.Directives
import SchemaWeaver.Text.Quoted

/-!
# Visitors

A visitor answers for one annotation target. For every node that addresses the target its hook is
called with the payload, the node and, for a member, the position in its parent. A hook may keep
state between calls; all visitors of a run share the state type `σ`, and what a hook may touch of it
is the visitor's own affair.
-/

namespace SchemaWeaver

/-- The arguments of a hook. -/
structure HookCall where
  payload : Payload
  node : Node
  index : Option Int
  deriving DecidableEq, Repr

/-- Whether a position is given for a node that is no member. -/
def HookCall.hasSurplusIndex (call : HookCall) : Bool :=
  call.index.isSome && !(Slot.ofKind call.node.kind).isMember

/-- What a hook answers: nothing, a contribution, a value that is no contribution at all, or a
failure with its message. -/
inductive Answer where
  | nothing
  | contribution (value : Contribution)
  | foreign (typeName : String)
  | failure (message : String)
  deriving DecidableEq, Repr

/-- A plugin for one annotation target. A reentrant visitor lets its hook run in several workers at
once. -/
structure Visitor (σ : Type) where
  className : String
  target : String
  family : Backend
  reentrant : Bool
  hook : HookCall → StateM σ Answer

namespace Visitor

variable {σ : Type}

/-- What answers with nothing for the kinds that a visitor has no hook of its own for. -/
def generalClass : String := "Visitor"

/-- How a hook fails that is given a position although only members have one. -/
def surplusMessage (owner : String) (kind : NodeKind) : String :=
  owner ++ "." ++ kind.hookName ++ "() takes 3 positional arguments but 4 were given"

/-- A reentrant visitor whose answer depends on the payload and the node only. It has hooks of its
own for the given kinds. -/
def ofFunction (className target : String) (family : Backend) (kinds : List NodeKind)
    (answer : Payload → Node → Option Contribution) : Visitor σ where
  className := className
  target := target
  family := family
  reentrant := true
  hook call := pure <|
    if call.hasSurplusIndex then
      let owner := if call.node.kind ∈ kinds then className else generalClass
      .failure (surplusMessage owner call.node.kind)
    else
      match answer call.payload call.node with
      | some value => .contribution value
      | none => .nothing

/-- How a visitor is shown in messages. -/
def display (v : Visitor σ) : String :=
  v.className ++ "(target=" ++ Text.Quoted.display v.target ++ ", family=" ++
    Text.Quoted.display v.family.name ++ ")"

end Visitor

/-- The contribution with the given fragments. -/
def Contribution.ofLists (shape : Shape) (lists : List (String × List String)) : Contribution :=
  tabulate shape .keep fun name => (lists.lookup name).getD []

end SchemaWeaver
