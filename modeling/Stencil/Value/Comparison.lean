import Stencil.Value.Arithmetic

/-!
# Comparison

Numbers are equal across integers and reals, and no value is equal only to itself. Other values can
be asked for equality where they are of one kind; inside lists, things of two kinds are just unequal.
Only numbers have an order, and two reals of which one is no number have none.
-/

namespace Stencil.Value

mutual
/-- Are two values equal? -/
def eq? : Value → Value → Except Fault Bool
  | integer a, integer b => .ok (a == b)
  | integer a, real b => .ok (a.toFloat == b)
  | real a, integer b => .ok (a == b.toFloat)
  | real a, real b => .ok (a == b)
  | null, b => .ok b.isNull
  | a, null => .ok a.isNull
  | boolean a, boolean b => .ok (a == b)
  | text a, text b => .ok (a == b)
  | list as, list bs => .ok (allEqual as bs)
  | object a, object b => .ok (a == b)
  | procedure a, procedure b => .ok (a == b)
  | a, b => .error (misfit "=" a b)
/-- As many on both sides, and equal one by one. -/
def allEqual : List Value → List Value → Bool
  | [], [] => true
  | a :: as, b :: bs => (match eq? a b with | .ok equal => equal | .error _ => false) && allEqual as bs
  | _, _ => false
end

/-- Are two values equal? Those of unrelated kinds are not. -/
def equals (a b : Value) : Bool :=
  match eq? a b with
  | .ok equal => equal
  | .error _ => false

/-- How two numbers stand to each other; `op` is the operator that asks. -/
def compare? (op : String) (a b : Value) : Except Fault (Option Ordering) :=
  match numbers? a b with
  | some (.integers a b) => .ok (some (if a < b then .lt else if a = b then .eq else .gt))
  | some (.reals a b) =>
    .ok (if a < b then some .lt else if a == b then some .eq else if b < a then some .gt else none)
  | none => .error (misfit op a b)

end Stencil.Value
