import Stencil.Bindings
import Stencil.Token
import Stencil.Value.Fault

/-!
# Errors of evaluation

An error names the node at which evaluation failed, by the kind and the token of the node, and says
why.
-/

namespace Stencil

/-- Why a node has no value. -/
inductive Cause where
  | undefined (name : String)
  | memberOfNull (name : String)
  | noMembers (type : String)
  | noProperty (type name : String)
  | noMethod (type name : String)
  /-- No method of the name has so many parameters. -/
  | noOverload (type name : String) (count : Nat)
  | notProcedure (name : String)
  /-- A procedure does not take arguments of these kinds. -/
  | notTaken (name : String) (params kinds : List ValueKind)
  | notBinary (kind : Kind)
  | notUnary (kind : Kind)
  | notBooleans (op left right : String)
  | conditionType (type : String)
  | loopVariableTaken (name : String)
  | notIterable (name type : String)
  | binding (e : BindError)
  | fault (f : Fault)
deriving DecidableEq, Repr

/-- The wording of a cause. -/
def Cause.message : Cause → String
  | undefined name => s!"'{name}' is not defined"
  | memberOfNull name => s!"cannot read member '{name}' of null"
  | noMembers type => s!"{type} values have no members"
  | noProperty type name => s!"{type} has no property '{name}'"
  | noMethod type name => s!"{type} has no method '{name}'"
  | noOverload type name count => s!"no overload of {type}.{name} takes {count} arguments"
  | notProcedure name => s!"'{name}' is not a procedure"
  | notTaken name params kinds =>
    let params := ", ".intercalate (params.map ValueKind.name)
    let kinds := ", ".intercalate (kinds.map ValueKind.name)
    s!"{name}({params}) cannot be called with ({kinds})"
  | notBinary kind =>
    let name := kind.name
    s!"{name} is not a binary operator"
  | notUnary kind =>
    let name := kind.name
    s!"{name} is not a unary operator"
  | notBooleans op left right => s!"operator '{op}' requires boolean operands, got {left} and {right}"
  | conditionType type => s!"condition must be boolean, got {type}"
  | loopVariableTaken name => s!"loop variable '{name}' is already defined"
  | notIterable name type => s!"'{name}' ({type}) is not iterable"
  | binding e => e.message
  | fault f => f.message

/-- A node that has no value, and why. -/
structure RuntimeError where
  /-- The name of the kind of node. -/
  nodeName : String
  token : Token
  cause : Cause
deriving DecidableEq, Repr

/-- The wording of an error. -/
def RuntimeError.message (e : RuntimeError) : String :=
  let node := e.nodeName
  let token := e.token.text
  let offset := e.token.offset
  let cause := e.cause.message
  s!"\x7bruntime error: {node} node, token '{token}' at position {offset}: {cause}\x7d"

end Stencil
