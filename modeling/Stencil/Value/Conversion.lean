import Stencil.Value.Fault

/-!
# Results in a form that is asked for

An expression may be evaluated for a value of any kind, or for a truth value, an integer of 64 or of
32 bits, a real, or a text. An integer is a real too, and everything has a written form.
-/

namespace Stencil

/-- A form in which a result may be asked for. -/
inductive Form where
  | value | int64 | int32 | real | boolean | text
deriving DecidableEq, Repr

/-- The name of a form in messages. -/
def Form.name : Form → String
  | value => "value"
  | int64 => "i64"
  | int32 => "i32"
  | real => "f64"
  | boolean => "bool"
  | text => "string"

/-- A value in the form that is asked for. -/
def Value.inForm (form : Form) (v : Value) : Except Fault Value :=
  match form, v with
  | .value, v => .ok v
  | .int64, integer n => .ok (.integer n)
  | .int32, integer n =>
    if Int32.minValue.toInt ≤ n.toInt && n.toInt ≤ Int32.maxValue.toInt then .ok (.integer n)
    else .error (.conversion v.typeName v.display form.name)
  | .real, real x => .ok (.real x)
  | .real, integer n => .ok (.real n.toFloat)
  | .boolean, boolean b => .ok (.boolean b)
  | .text, v => .ok (.text v.display)
  | form, v => .error (.conversion v.typeName v.display form.name)

end Stencil
