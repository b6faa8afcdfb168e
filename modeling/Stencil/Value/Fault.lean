import Stencil.Value

/-!
# Faults

What can be wrong with an operation on values, or with a call of something that the host declares. A
fault says what happened; where in a template it happened is not part of it. Positions of arguments
count from one.
-/

namespace Stencil

/-- What is wrong with an operation or a call. -/
inductive Fault where
  /-- An operator has no meaning for operands of these types. -/
  | operands (op left right : String)
  /-- A sign has no meaning for an operand of this type. -/
  | operand (sign type : String)
  | divisionByZero
  /-- A value cannot be had in this form. -/
  | conversion (type display target : String)
  /-- A member of a class is used on something that the class is not made for. -/
  | wrongReceiver (className : String)
  | tooManyArguments (name : String) (most given : Nat)
  | missingArgument (name : String) (position : Nat)
  | argumentKind (name : String) (position : Nat) (kind : ValueKind) (type : String)
  /-- A member finds something other than a text among its bound arguments. -/
  | notText (name : String) (position : Nat) (type : String)
  /-- A member finds fewer bound arguments than it has parameters. -/
  | absent (name : String) (position : Nat)
  /-- A member finds something other than an integer among its bound arguments. -/
  | notInteger (name : String) (position : Nat)
  | emptySearchText
  | startOutside (start : Int64) (length : Nat)
  | lengthPastEnd (length : Int64)
  | invalidPattern (reason : String)
  /-- A host refuses, with words of its own. -/
  | refused (message : String)
deriving DecidableEq, Repr, Inhabited

namespace Fault

/-- The wording of a fault. -/
def message : Fault → String
  | operands op left right => s!"operator '{op}' cannot be applied to {left} and {right}"
  | operand sign type => s!"unary '{sign}' cannot be applied to {type}"
  | divisionByZero => "integer division by zero"
  | conversion type display target => s!"cannot convert {type} value '{display}' to {target}"
  | wrongReceiver className => s!"receiver is not a {className}"
  | tooManyArguments name most given => s!"{name} takes at most {most} arguments, got {given}"
  | missingArgument name position => s!"{name}: missing required argument {position}"
  | argumentKind name position kind type =>
    let kindName := kind.name
    s!"{name}: argument {position} must be {kindName}, got {type}"
  | notText name position type => s!"{name}: argument {position} must be text, got {type}"
  | absent name position => s!"{name}: argument {position} missing"
  | notInteger name position => s!"{name}: argument {position} must be an integer"
  | emptySearchText => "Replace: search text must not be empty"
  | startOutside start length =>
    let start := String.ofList (Integer.write start)
    s!"Substring: start {start} is outside 0..={length}"
  | lengthPastEnd length =>
    let length := String.ofList (Integer.write length)
    s!"Substring: length {length} runs past the end"
  | invalidPattern reason => s!"Matches: invalid pattern: {reason}"
  | refused message => message

end Fault

end Stencil
