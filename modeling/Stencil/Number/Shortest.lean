/-!
# The fewest digits that read back

A positive finite real is a whole number of units, each a power of two (`Scaled`). The decimals that
read back as it fill the interval from halfway to the real below to halfway to the real above; the
ends belong to it when the number of units is even. `shortest` selects, of all decimals in the
interval, one with the fewest digits, and of those the nearest; of two equally near, the larger.

The search is exact: for one digit, two digits and so on, it tests the two neighbours of the real on
the grid of decimals with that many digits.
-/

namespace Stencil.Real

/-- The positive finite real `units * 2 ^ exponent`. -/
structure Scaled where
  units : Nat
  exponent : Int
  /-- The real below is half as far away as the real above. -/
  narrowBelow : Bool

/-- The decimal `digits * 10 ^ exponent`. -/
structure Decimal where
  digits : Nat
  exponent : Int

/-- The magnitude that the bits of a finite real stand for, whatever their sign. -/
def Scaled.ofBits (bits : UInt64) : Scaled :=
  let exponent := (bits >>> 52 &&& 0x7FF).toNat
  let fraction := (bits &&& 0xFFFFFFFFFFFFF).toNat
  if exponent = 0 then
    { units := fraction, exponent := -1074, narrowBelow := false }
  else
    { units := 0x10000000000000 + fraction, exponent := exponent - 1075
      narrowBelow := fraction = 0 && 1 < exponent }

/-- A number of quarter units, in multiples of `10 ^ exponent / grain`. -/
def Scaled.quarters (x : Scaled) (exponent : Int) (n : Nat) : Nat :=
  n * Nat.pow 2 (x.exponent - 2).toNat * Nat.pow 10 (-exponent).toNat

/-- How many parts the grid of `10 ^ exponent` is cut into to count quarter units exactly. -/
def Scaled.grain (x : Scaled) (exponent : Int) : Nat :=
  Nat.pow 2 (2 - x.exponent).toNat * Nat.pow 10 exponent.toNat

/-- Does the decimal lie among the reals that round to this one? -/
def Scaled.readsBack (x : Scaled) (d : Decimal) : Bool :=
  let low := x.quarters d.exponent (if x.narrowBelow then 4 * x.units - 1 else 4 * x.units - 2)
  let high := x.quarters d.exponent (4 * x.units + 2)
  let here := d.digits * x.grain d.exponent
  if x.units % 2 = 0 then low ≤ here && here ≤ high else low < here && here < high

/-- The neighbour on the grid of `10 ^ exponent` that reads back, if one does: the nearer of the two,
and the upper one where both are equally near. -/
def Scaled.onGrid? (x : Scaled) (exponent : Int) : Option Decimal :=
  let value := x.quarters exponent (4 * x.units)
  let grain := x.grain exponent
  let below : Decimal := ⟨value / grain, exponent⟩
  let above : Decimal := ⟨value / grain + 1, exponent⟩
  match x.readsBack below, x.readsBack above with
  | true, true => if 2 * value < (2 * below.digits + 1) * grain then some below else some above
  | true, false => some below
  | false, true => some above
  | false, false => none

/-- The least exponent of ten whose power is above the real. -/
def Scaled.scale (x : Scaled) : Int :=
  -- 1233 / 4096 is the logarithm of two to within one unit of the result.
  let guess : Int := Int.fdiv ((x.units.log2 + x.exponent) * 1233) 4096
  let isAbove (k : Int) : Bool := x.quarters k (4 * x.units) < x.grain k
  ([guess, guess + 1, guess + 2].find? isAbove).getD (guess + 3)

/-- The real as a decimal, to the last digit. -/
def Scaled.exact (x : Scaled) : Decimal :=
  ⟨x.units * Nat.pow 2 x.exponent.toNat * Nat.pow 5 (-x.exponent).toNat, min x.exponent 0⟩

/-- The same decimal without zeros at the end of its digits. -/
def Decimal.normalize (d : Decimal) : Decimal :=
  if h : d.digits ≠ 0 ∧ d.digits % 10 = 0 then
    Decimal.normalize ⟨d.digits / 10, d.exponent + 1⟩
  else
    d
termination_by d.digits
decreasing_by omega

/-- The shortest decimal that reads back as the real. Seventeen digits are always enough. -/
def Scaled.shortest (x : Scaled) : Decimal :=
  let scale := x.scale
  let found := (List.range 17).findSome? fun (n : Nat) => x.onGrid? (scale - (n + 1 : Nat))
  (found.getD x.exact).normalize

end Stencil.Real
