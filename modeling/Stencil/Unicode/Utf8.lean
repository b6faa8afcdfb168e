import Stencil.Unicode.Range

/-!
# Characters as bytes

UTF-8 writes a character as a leading byte and up to three more, each of which carries six bits. The
characters of a set make up few sequences of ranges of bytes (`Utf8.sequences`): a character is in
the set when its bytes are in the ranges of one of them, each byte in the range at its place.
-/

namespace Stencil.Unicode.Utf8

/-- A closed range of bytes. -/
abbrev ByteRange := Nat × Nat

/-- The bytes of a text. -/
def bytes (text : List Char) : List Nat :=
  text.flatMap fun c => (String.utf8EncodeChar c).map UInt8.toNat

/-- The number of bytes of a text. -/
def size (text : List Char) : Nat := text.foldl (fun n c => n + c.utf8Size) 0

/-- The number of bytes of a code point. -/
def sizeOf (n : Nat) : Nat := if n < 0x80 then 1 else if n < 0x800 then 2 else if n < 0x10000 then 3 else 4

/-- The sequences for the numbers of a range. The bits above the last `places` times six go into the
leading byte. A run of leading bytes that the range holds whole makes one sequence; at each end there
may be a leading byte of which the range holds only a part. -/
def sequencesBehind (lead : Nat) : (places : Nat) → (first last : Nat) → List (List ByteRange)
  | 0, first, last => [[(lead + first, lead + last)]]
  | places + 1, first, last =>
    let block := Nat.pow 64 (places + 1)
    let low := first / block
    let high := last / block
    let part (i first last : Nat) : List (List ByteRange) :=
      (sequencesBehind 0x80 places first last).map ((lead + i, lead + i) :: ·)
    if low = high then part low (first % block) (last % block)
    else
      let cutLow := first % block != 0
      let cutHigh := last % block != block - 1
      let low' := if cutLow then low + 1 else low
      let high' := if cutHigh then high - 1 else high
      (if cutLow then part low (first % block) (block - 1) else [])
        ++ (if low' ≤ high' then
            [(lead + low', lead + high') :: List.replicate (places + 1) (0x80, 0xBF)]
          else [])
        ++ (if cutHigh then part high 0 (last % block) else [])

/-- The ranges of code points that take equally many bytes, each with what its leading bytes start
from and how many bytes follow them. -/
def lengths : List (Nat × Nat × Nat × Nat) := [
  (0, 0x7F, 0, 0), (0x80, 0x7FF, 0xC0, 1), (0x800, 0xD7FF, 0xE0, 2), (0xE000, 0xFFFF, 0xE0, 2),
  (0x10000, 0x10FFFF, 0xF0, 3)]

/-- The sequences of the characters of a set, in ascending order. -/
def sequences (set : Ranges) : List (List ByteRange) :=
  set.flatMap fun (first, last) =>
    lengths.flatMap fun (low, high, lead, places) =>
      let first := max first low
      let last := min last high
      if first ≤ last then sequencesBehind lead places first last else []

end Stencil.Unicode.Utf8
