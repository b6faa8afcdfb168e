import Std.Data.HashMap
import Stencil.Pattern

/-!
# How large a pattern may be

A pattern stands for an automaton that reads a text byte by byte, and for another one that reads it
from its end back. Each state of an automaton has a size, and so has each way out of a state that may
have several. Copies of a repeated pattern count one by one. A pattern fits (`Pattern.fits`) when
neither automaton is larger than `greatestSize`.

States are shared in two places: the bytes of a set of characters (`setSize`) and the words of a
choice between texts (`wordsSize`).
-/

namespace Stencil.Pattern

open Unicode (Ranges)
open Unicode.Utf8 (ByteRange)

/-- The greatest size of an automaton. -/
def greatestSize : Nat := 10 * 1024 * 1024

/-- The size of a state, the ways out left aside that are counted one by one. -/
def stateSize : Nat := 32

/-- The size of a way out that takes a byte, where there may be several. -/
def byteWaySize : Nat := 8

/-- The size of a way out that takes nothing, where there may be several. -/
def freeWaySize : Nat := 4

/-! ## Sets of characters -/

/-- A state that takes a byte: where each range of bytes leads, by numbers of states. -/
abbrev ByteState := List (ByteRange × Nat)

/-- The states of a set that are there, by number, and what they take together. -/
structure ByteStates where
  numbers : Std.HashMap ByteState Nat := {}
  size : Nat := 0

/-- The number of a state, which is added if it is not there. -/
def ByteStates.number (state : ByteState) : StateM ByteStates Nat := do
  let states ← get
  match states.numbers[state]? with
  | some number => return number
  | none =>
    let number := states.numbers.size + 1
    set (ByteStates.mk (states.numbers.insert state number)
      (states.size + stateSize + byteWaySize * state.length))
    return number

/-- Adds the states for sequences of at most so many ranges of bytes, and tells the number of the first
one. Behind the last byte it is zero. -/
def ByteStates.add : (places : Nat) → List (List ByteRange) → StateM ByteStates Nat
  | 0, _ => return 0
  | places + 1, sequences => do
    if sequences.all List.isEmpty then return 0
    let ways ← (sequences.splitBy fun s t => s.head? == t.head?).mapM fun group => do
      let number ← add places (group.map List.tail)
      return (group.headD [] |>.headD (0, 0), number)
    ByteStates.number ways

/-- How many ranges the sequences have that do not stand behind the same ones as in the sequence
before. -/
def newRanges (before : List ByteRange) (n : Nat) : List (List ByteRange) → Nat
  | [] => n
  | sequence :: sequences =>
    let shared := ((before.zip sequence).takeWhile fun (r, s) => r == s).length
    newRanges sequence (n + (sequence.length - shared)) sequences

/-- The size of a set. Characters of one byte take a single state. Of all others, states that lead the
same ways are shared in the automaton that reads on, and states behind the same bytes in the one that
reads back, which starts with a choice between all sequences. -/
def setSize (direction : Direction) (set : Ranges) : Nat :=
  if set.all fun (_, last) => last < 0x80 then 2 * stateSize + byteWaySize * set.length
  else
    let sequences := Unicode.Utf8.sequences set
    match direction with
    | .forth => stateSize + ((ByteStates.add 4 sequences).run {}).2.size
    | .back =>
      (2 + newRanges [] 0 sequences) * stateSize + freeWaySize * sequences.length

/-! ## Choices between texts -/

/-- The bytes of a text, in the order of a reader. -/
abbrev Word := List Nat

/-- The size of the states where some words go on, and the words behind each byte. Words that end there
part those before from those behind, which share nothing. The first of them are one. -/
def branching (words : List Word) : Nat × List (List Word) :=
  let runs := words.splitBy fun v w => v.isEmpty == w.isEmpty
  let (ended, going) := runs.partition fun run => run.all List.isEmpty
  let repeated := if (words.headD []).isEmpty then (ended.headD []).length - 1 else 0
  let ends := ended.flatten.length - repeated
  let ways := going.map fun run =>
    (run.mergeSort fun v w => v.headD 0 ≤ w.headD 0).splitBy fun v w => v.head? == w.head?
  let size := ways.foldl (fun size ways =>
      size + stateSize + if ways.length = 1 then 0 else byteWaySize * ways.length)
    (stateSize + freeWaySize * (going.length + ends))
  (size, ways.flatten.map fun words => words.map List.tail)

/-- The size of all states behind those reached by some words, and of those before. There are no more
than `bound` left. -/
def branchingAll (size : Nat) : (bound : Nat) → List (List Word) → Nat
  | 0, _ | _, [] => size
  | bound + 1, words :: rest =>
    if greatestSize < size then size
    else if words.all List.isEmpty then branchingAll size bound rest
    else
      let (more, next) := branching words
      branchingAll (size + more) bound (next ++ rest)

/-- The size of a choice between words. -/
def wordsSize (words : List Word) : Nat :=
  branchingAll stateSize (words.foldl (fun n word => n + word.length) 1) [words]

/-- The bytes of a pattern that is a text. -/
def word? (direction : Direction) : Pattern → Option Word
  | text s =>
    match direction with
    | .forth => some (Unicode.Utf8.bytes s)
    | .back => some (Unicode.Utf8.bytes s).reverse
  | _ => none

/-! ## Patterns -/

/-- The size of a repetition of something of a given size. -/
def timesSize (size : Nat) (canBeEmpty : Bool) (min : Nat) : (max? : Option Nat) → Nat
  | none =>
    if min = 0 && canBeEmpty then size + 3 * stateSize + 4 * freeWaySize
    else Nat.max min 1 * size + stateSize + 2 * freeWaySize
  | some max =>
    let option := size + stateSize + 2 * freeWaySize
    if min = 0 && max = 1 then option + stateSize
    else
      (if min = 0 then stateSize else min * size)
        + if min < max then stateSize + (max - min) * option else 0

mutual

/-- The size of a pattern as a part of an automaton. -/
def size (direction : Direction) : Pattern → Nat
  | empty | look _ => stateSize
  | text s => stateSize * Unicode.Utf8.size s
  | char a => setSize direction a
  | group _ p => size direction p + if direction = .forth then 2 * stateSize else 0
  | times p min max? =>
    let canBeEmpty := !(minLength? p).any (0 < ·)
    timesSize (size direction p) canBeEmpty min max?
  | concat ps => sizeOfAll direction 0 0 ps
  | either ps =>
    match ps.mapM (word? direction) with
    | some words => wordsSize words
    | none => sizeOfAll direction freeWaySize (2 * stateSize) ps

/-- The size of some patterns, each with something more, and of what comes before them. Behind what is
too large nothing is counted. -/
def sizeOfAll (direction : Direction) (more before : Nat) : List Pattern → Nat
  | [] => before
  | p :: ps =>
    if greatestSize < before then before
    else sizeOfAll direction more (before + size direction p + more) ps

end

/-- The size of the automaton of a pattern. It has a last state, and one to start from, or where a match
may start anywhere, a loop. Reading on, it marks where the match starts and where it stops. -/
def automatonSize (direction : Direction) (p : Pattern) : Nat :=
  let start :=
    if isAnchored direction p then stateSize
    else timesSize (2 * stateSize + byteWaySize) false 0 none
  start + size direction (group 0 p) + stateSize

/-- Is the pattern small enough? -/
def fits (p : Pattern) : Bool :=
  automatonSize .forth p ≤ greatestSize && automatonSize .back p ≤ greatestSize

end Stencil.Pattern
