import Stencil.Evaluation.Error
import Stencil.Value.Comparison

/-!
# Operators

An operator is known by the kind of its token; messages quote its text. Both operands have their
values already, those of "and" and "or" as well.
-/

namespace Stencil

/-- An operation on values in the place of a node. -/
def Cause.ofFault {α : Type} (result : Except Fault α) : Except Cause α := result.mapError .fault

/-- Do two numbers stand to each other in one of these ways? -/
def Value.ordered (op : Token) (among : List Ordering) (a b : Value) : Except Cause Value :=
  match a.compare? op.text b with
  | .ok (some order) => .ok (.boolean (among.contains order))
  | .ok none => .ok (.boolean false)
  | .error f => .error (.fault f)

/-- The value of two operands with "and" or "or" between them. -/
def Value.logical (op : Token) (join : Bool → Bool → Bool) (a b : Value) : Except Cause Value :=
  match a, b with
  | .boolean a, .boolean b => .ok (.boolean (join a b))
  | a, b => .error (.notBooleans op.text a.typeName b.typeName)

/-- The value of two operands with an operator between them. -/
def Token.applyBinary (op : Token) (a b : Value) : Except Cause Value :=
  match op.kind with
  | .plus => Cause.ofFault (a.add b)
  | .minus => Cause.ofFault (a.sub b)
  | .mul => Cause.ofFault (a.mul b)
  | .div => Cause.ofFault (a.div b)
  | .eq => Cause.ofFault ((a.eq? b).map .boolean)
  | .neq => Cause.ofFault ((a.eq? b).map fun equal => .boolean !equal)
  | .gt => a.ordered op [.gt] b
  | .lt => a.ordered op [.lt] b
  | .gte => a.ordered op [.gt, .eq] b
  | .lte => a.ordered op [.lt, .eq] b
  | .and => a.logical op and b
  | .or => a.logical op or b
  | kind => .error (.notBinary kind)

/-- The value of an operand with a sign before it. -/
def Token.applyUnary (op : Token) (v : Value) : Except Cause Value :=
  match op.kind with
  | .minus => Cause.ofFault v.neg
  | .plus => Cause.ofFault v.pos
  | kind => .error (.notUnary kind)

end Stencil
