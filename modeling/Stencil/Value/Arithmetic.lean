import Stencil.Value.Fault

/-!
# Arithmetic

Integers are computed with modulo 2^64. As soon as one operand is a real, so is the result. Division
of integers goes toward zero. A text beside `+` is joined to the other operand's written form.
-/

namespace Stencil

/-- Two numbers of one type. -/
inductive Numbers where
  | integers (a b : Int64)
  | reals (a b : Float)

namespace Value

/-- The numbers that two values are, as reals if one of them is a real. -/
def numbers? : Value → Value → Option Numbers
  | integer a, integer b => some (.integers a b)
  | integer a, real b => some (.reals a.toFloat b)
  | real a, integer b => some (.reals a b.toFloat)
  | real a, real b => some (.reals a b)
  | _, _ => none

/-- Operands of these types do not go with the operator. -/
def misfit (op : String) (a b : Value) : Fault := .operands op a.typeName b.typeName

/-- Is this a text? -/
def isText : Value → Bool
  | text _ => true
  | _ => false

/-- The sum of two numbers, or the joined written forms where one operand is a text. -/
def add (a b : Value) : Except Fault Value :=
  match numbers? a b with
  | some (.integers a b) => .ok (.integer (a + b))
  | some (.reals a b) => .ok (.real (a + b))
  | none => if a.isText || b.isText then .ok (.text (a.display ++ b.display)) else .error (misfit "+" a b)

/-- The difference of two numbers. -/
def sub (a b : Value) : Except Fault Value :=
  match numbers? a b with
  | some (.integers a b) => .ok (.integer (a - b))
  | some (.reals a b) => .ok (.real (a - b))
  | none => .error (misfit "-" a b)

/-- The product of two numbers. -/
def mul (a b : Value) : Except Fault Value :=
  match numbers? a b with
  | some (.integers a b) => .ok (.integer (a * b))
  | some (.reals a b) => .ok (.real (a * b))
  | none => .error (misfit "*" a b)

/-- The quotient of two numbers. -/
def div (a b : Value) : Except Fault Value :=
  match numbers? a b with
  | some (.integers a b) => if b = 0 then .error .divisionByZero else .ok (.integer (a / b))
  | some (.reals a b) => .ok (.real (a / b))
  | none => .error (misfit "/" a b)

/-- A number with the other sign. -/
def neg : Value → Except Fault Value
  | integer n => .ok (.integer (-n))
  | real x => .ok (.real (-x))
  | v => .error (.operand "-" v.typeName)

/-- A number as it is. -/
def pos : Value → Except Fault Value
  | integer n => .ok (.integer n)
  | real x => .ok (.real x)
  | v => .error (.operand "+" v.typeName)

end Value

end Stencil
