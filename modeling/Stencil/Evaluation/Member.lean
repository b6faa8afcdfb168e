import Stencil.Evaluation.Error
import Stencil.Host.TextHelper

/-!
# Members, procedures and items

What stands behind a dot is looked up in the class of the value before the dot.
-/

namespace Stencil

namespace Class

/-- The result of a method. -/
def callMethod (c : Class) (receiver : Value) (name : String) (args : List Value) : Except Cause Value :=
  let overloads := c.overloads name
  if overloads.isEmpty then .error (.noMethod receiver.typeName name)
  else match Method.forCount? overloads args.length with
    | none => .error (.noOverload receiver.typeName name args.length)
    | some m =>
      match m.bind args with
      | .error f => .error (.fault f)
      | .ok bound => (c.invoke m receiver bound).mapError .fault

end Class

namespace Host

/-- The class in which the member `name` of a value is looked up. -/
def classFor (host : Host) (receiver : Value) (name : String) : Except Cause Class :=
  if receiver.isNull then .error (.memberOfNull name)
  else match host.class? receiver with
    | some c => .ok c
    | none => .error (.noMembers receiver.typeName)

/-- The value of a property. -/
def readMember (host : Host) (receiver : Value) (name : String) : Except Cause Value :=
  match host.classFor receiver name with
  | .error cause => .error cause
  | .ok c =>
    match c.property? receiver name with
    | some result => result.mapError .fault
    | none => .error (.noProperty receiver.typeName name)

/-- The result of the procedure that is bound to `name`. -/
def callProcedure (host : Host) (p : Procedure) (name : String) (args : List Value) : Except Cause Value :=
  let kinds := args.map Value.kind
  if p.accepts kinds then (host.call p.number args).mapError .fault
  else .error (.notTaken name p.params kinds)

/-- The items of a value that is bound to `name`: those of a list, the characters of a text, or what
the class of an object goes through. -/
def items (host : Host) (v : Value) (name : String) : Except Cause (List Value) :=
  match v with
  | .list items => .ok items
  | .text s => .ok (s.toList.map fun c => .text (String.singleton c))
  | .object _ =>
    match (host.class? v).bind (·.iterate? v) with
    | some result => result.mapError .fault
    | none => .error (.notIterable name v.typeName)
  | v => .error (.notIterable name v.typeName)

end Host

end Stencil
