/-!
# Sets and maps of characters

A property of characters is a list of closed ranges of code points, ascending and apart (`Ranges`).
The operations on sets keep it so. A set is also written in rows of text, as in
`"41-5A AA 100-136/2"`: single characters, ranges, and ranges with a step (`Ranges.ofRows`).

A map from characters to characters is a list of shifts (`Shifts`): every so many code points of a
range, the image lies a fixed distance away.
-/

namespace Stencil.Unicode

/-- Closed ranges of code points, ascending and apart. -/
abbrev Ranges := List (Nat × Nat)

/-- The greatest code point. -/
def lastCodePoint : Nat := 0x10FFFF

/-- The next character. Between U+D7FF and U+E000 there are none. -/
def nextCodePoint (n : Nat) : Nat := if n = 0xD7FF then 0xE000 else n + 1

/-- The character before. -/
def previousCodePoint (n : Nat) : Nat := if n = 0xE000 then 0xD7FF else n - 1

namespace Ranges

/-- Does one of the ranges hold the code point? -/
def has : Ranges → Nat → Bool
  | [], _ => false
  | (first, last) :: ranges, n => if n < first then false else n ≤ last || has ranges n

/-- Does one of the ranges hold the character? -/
def covers (ranges : Ranges) (c : Char) : Bool := ranges.has c.toNat

/-- A range that starts no earlier than those before, the last of which comes first: it widens that
one if it touches it. -/
def widen (before : Ranges) (range : Nat × Nat) : Ranges :=
  match before with
  | (first, last) :: before =>
    if range.1 ≤ last + 1 then (first, max last range.2) :: before
    else range :: (first, last) :: before
  | [] => [range]

/-- The set of ranges that ascend by where they start. -/
def ofAscending (ranges : List (Nat × Nat)) : Ranges := (ranges.foldl widen []).reverse

/-- The set of any ranges. -/
def ofList (ranges : List (Nat × Nat)) : Ranges :=
  ofAscending (ranges.mergeSort fun r s => r.1 ≤ s.1)

/-- What is in one of two sets. -/
def union (a b : Ranges) : Ranges := ofAscending (a.merge b fun r s => r.1 ≤ s.1)

/-- What is in one of some sets. -/
def unions (sets : List Ranges) : Ranges := ofList sets.flatten

/-- What is in both of two sets. -/
def inter (a b : Ranges) : Ranges :=
  a.flatMap fun (first, last) =>
    b.filterMap fun (first', last') =>
      let low := max first first'
      let high := min last last'
      if low ≤ high then some (low, high) else none

/-- A range without what is in another one. -/
def cut (range taken : Nat × Nat) : Ranges :=
  if range.2 < taken.1 || taken.2 < range.1 then [range]
  else
    (if range.1 < taken.1 then [(range.1, previousCodePoint taken.1)] else [])
      ++ (if taken.2 < range.2 then [(nextCodePoint taken.2, range.2)] else [])

/-- What is in the first of two sets only. -/
def diff (a b : Ranges) : Ranges :=
  b.foldl (fun left taken => left.flatMap (cut · taken)) a

/-- What is in one of two sets and not in the other. -/
def symmDiff (a b : Ranges) : Ranges := (a.union b).diff (a.inter b)

/-- What lies behind a code point and outside of the ranges, all of which start behind it. Of ranges
that only the gap of the surrogates parts, the two characters beside the gap count as outside. -/
def gaps (last : Nat) : Ranges → Ranges
  | [] => if last < lastCodePoint then [(nextCodePoint last, lastCodePoint)] else []
  | (first', last') :: ranges =>
    let low := nextCodePoint last
    let high := previousCodePoint first'
    (min low high, max low high) :: gaps last' ranges

/-- What is not in the set. -/
def compl : Ranges → Ranges
  | [] => [(0, lastCodePoint)]
  | (first, last) :: ranges =>
    if 0 < first then (0, previousCodePoint first) :: gaps last ranges else gaps last ranges

/-! ## Rows -/

/-- The value of a digit to the base sixteen, a letter being a capital. -/
def hexValue (c : Char) : Nat := if c.isDigit then c.toNat - '0'.toNat else c.toNat - 'A'.toNat + 10

/-- The number that digits to the base sixteen write down. -/
def hexNumber (digits : List Char) : Nat := digits.foldl (fun n c => 16 * n + hexValue c) 0

/-- What is in front of a sign, and what comes behind it, if it is there. -/
def splitAt? (sign : Char) (s : List Char) : List Char × Option (List Char) :=
  match s.dropWhile (· != sign) with
  | _ :: rest => (s.takeWhile (· != sign), some rest)
  | [] => (s, none)

/-- A single character, a range, or a range of which every so many characters one is meant. -/
def ofEntry (entry : List Char) : List (Nat × Nat) :=
  let (range, step?) := splitAt? '/' entry
  let (first, last?) := splitAt? '-' range
  let first := hexNumber first
  let last := (last?.map hexNumber).getD first
  match step? with
  | none => [(first, last)]
  | some step =>
    let step := hexNumber step
    (List.range ((last - first) / step + 1)).map fun i => (first + i * step, first + i * step)

/-- The set that rows of text write down, in any order. -/
def ofRows (rows : List String) : Ranges :=
  ofList (rows.flatMap fun row => (row.splitOn " ").flatMap fun entry => ofEntry entry.toList)

end Ranges

/-- Rows `(first, last, stride, distance)`: of the code points from `first` to `last`, each one a
multiple of `stride` away from `first` has its image at that distance. -/
abbrev Shifts := List (Nat × Nat × Nat × Int)

/-- The image of a character, which is the character itself where no row has it. -/
def Shifts.apply (shifts : Shifts) (c : Char) : Char :=
  let row := shifts.find? fun (first, last, stride, _) =>
    first ≤ c.toNat && c.toNat ≤ last && (c.toNat - first) % stride == 0
  match row with
  | some (_, _, _, distance) => Char.ofNat (c.toNat + distance).toNat
  | none => c

/-- The characters whose image under some row is `c`. -/
def Shifts.sources (shifts : Shifts) (c : Char) : List Char :=
  shifts.filterMap fun (first, last, stride, distance) =>
    let source := (c.toNat - distance).toNat
    if first ≤ source && source ≤ last && (source - first) % stride == 0 then
      some (Char.ofNat source)
    else
      none

end Stencil.Unicode
