import Stencil.Number.Integer
import Stencil.Number.Shortest

/-!
# Written reals

A real is a binary number of 64 bits. It is written with the fewest digits that read back, always
positionally: no exponent, however large or small, and no fraction part where there is none. Read, it
has a sign, digits with a point among, before or after them, and an exponent of ten; or it is one of
the words for infinity and for no number, in letters of either case.
-/

namespace Stencil.Real

/-- A decimal in writing, positionally. -/
def Decimal.write (d : Decimal) : List Char :=
  let digits := Integer.digits d.digits
  if 0 ≤ d.exponent then
    digits ++ List.replicate d.exponent.toNat '0'
  else
    let places := d.exponent.natAbs
    let padded := List.replicate (places + 1 - digits.length) '0' ++ digits
    padded.take (padded.length - places) ++ '.' :: padded.drop (padded.length - places)

/-- Is the sign of a real the minus sign? Zero has one too. -/
def isNegative (x : Float) : Bool := x.toBits >>> 63 == 1

/-- A real in writing. -/
def write (x : Float) : List Char :=
  if x.isNaN then
    ['N', 'a', 'N']
  else
    let magnitude :=
      if x.isInf then ['i', 'n', 'f']
      else if x == 0 then ['0']
      else (Scaled.ofBits x.toBits).shortest.write
    if isNegative x then '-' :: magnitude else magnitude

/-- The real nearest to `digits * 10 ^ exponent`. Far beyond the range of reals the answer is known
without computing the power. -/
def ofDecimal (digits : Nat) (exponent : Int) : Float :=
  let leading := (Integer.digits digits).length + exponent
  if digits = 0 || leading < -400 then 0
  else if 400 < leading then 1 / 0
  else Float.ofScientific digits (exponent < 0) exponent.natAbs

/-- The exponent of ten behind the digits: nothing, or the letter `e` and an integer of any size. -/
def exponent? : List Char → Option Int
  | [] => some 0
  | c :: s =>
    if c ≠ 'e' && c ≠ 'E' then none
    else
      let (negative, digits) := Integer.splitSign s
      if !Integer.isDigits digits then none
      else if negative then some (-(Integer.ofDigits digits))
      else some (Integer.ofDigits digits)

/-- The magnitude that a text without a sign stands for. -/
def magnitude? (s : List Char) : Option Float :=
  match String.ofList (s.map Char.toLower) with
  | "inf" | "infinity" => some (1 / 0)
  | "nan" => some (0 / 0)
  | _ =>
    let (whole, rest) := s.span Char.isDigit
    let (fraction, rest) := match rest with
      | '.' :: rest => rest.span Char.isDigit
      | rest => ([], rest)
    if whole.isEmpty && fraction.isEmpty then none
    else (exponent? rest).map fun exponent =>
      ofDecimal (Integer.ofDigits (whole ++ fraction)) (exponent - fraction.length)

/-- The real that a text stands for. -/
def read? (s : List Char) : Option Float :=
  let (negative, magnitude) := Integer.splitSign s
  (magnitude? magnitude).map fun x => if negative then -x else x

end Stencil.Real
