/-!
# Written integers

An integer is a signed word of 64 bits. It is written with its decimal digits behind a minus sign
where it is negative. Read, it may carry either sign, and leading zeros; a number beyond 64 bits is
no integer.
-/

namespace Stencil.Integer

/-- Are these one or more decimal digits, and nothing else? -/
def isDigits (s : List Char) : Bool := !s.isEmpty && s.all Char.isDigit

/-- The number that decimal digits stand for. -/
def ofDigits (digits : List Char) : Nat := Nat.ofDigitChars 10 digits 0

/-- The decimal digits of a number, without leading zeros. -/
def digits (n : Nat) : List Char := Nat.toDigits 10 n

/-- An integer in writing. -/
def write (n : Int64) : List Char :=
  if n < 0 then '-' :: digits n.toInt.natAbs else digits n.toInt.natAbs

/-- A sign, which may be missing, and what follows it; `true` is the minus sign. -/
def splitSign : List Char → Bool × List Char
  | '-' :: s => (true, s)
  | '+' :: s => (false, s)
  | s => (false, s)

/-- The integer that a text stands for. -/
def read? (s : List Char) : Option Int64 :=
  let (negative, digits) := splitSign s
  if !isDigits digits then none
  else
    let n : Int := if negative then -(ofDigits digits) else ofDigits digits
    if Int64.minValue.toInt ≤ n && n ≤ Int64.maxValue.toInt then some (Int64.ofInt n) else none

end Stencil.Integer
