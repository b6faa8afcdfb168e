import Stencil.Pattern

/-!
# Patterns as programs

A program is a list of instructions, followed by many readers at once: at every place of the text the
program starts anew, and each reader that takes the next character goes on with the next instruction
(`Program.search`). Two readers at one instruction have the same future, so that one of them is
enough: the work at a place is bounded by the length of the program, whatever has been read.
-/

namespace Stencil

open Unicode (Ranges)

/-! ## Places -/

/-- A place in a text, by the characters on both sides of it. -/
structure Place where
  behind : Option Char
  ahead : Option Char

/-- What words are made of, as a test. -/
def Letters.has : Letters → Char → Bool
  | every, c => Unicode.isWord c
  | ascii, c => c.isAlphanum || c == '_'

namespace Place

/-- Is there a letter of words behind? -/
def isBehindWord (here : Place) (letters : Letters) : Bool := here.behind.any letters.has

/-- Is there a letter of words ahead? -/
def isBeforeWord (here : Place) (letters : Letters) : Bool := here.ahead.any letters.has

end Place

/-- Does the condition hold at a place? -/
def Look.holds (here : Place) : Look → Bool
  | start => here.behind.isNone
  | stop => here.ahead.isNone
  | lineStart => here.behind.all (· == '\n')
  | lineStop => here.ahead.all (· == '\n')
  | lineStartCr =>
    match here.behind with
    | none | some '\n' => true
    | some '\r' => here.ahead != some '\n'
    | some _ => false
  | lineStopCr =>
    match here.ahead with
    | none | some '\r' => true
    | some '\n' => here.behind != some '\r'
    | some _ => false
  | boundary letters => here.isBehindWord letters != here.isBeforeWord letters
  | noBoundary letters => here.isBehindWord letters == here.isBeforeWord letters
  | wordStart letters => !here.isBehindWord letters && here.isBeforeWord letters
  | wordStop letters => here.isBehindWord letters && !here.isBeforeWord letters
  | notBehindWord letters => !here.isBehindWord letters
  | notBeforeWord letters => !here.isBeforeWord letters

/-! ## Programs -/

/-- An instruction. A reader goes on with the next one, unless it is sent elsewhere. -/
inductive Instruction where
  /-- Takes this character. -/
  | take (c : Char)
  /-- Takes a character of the set. -/
  | takeOf (set : Ranges)
  /-- Goes on only where the condition holds. -/
  | look (condition : Look)
  | jump (target : Nat)
  /-- Goes on here and there. -/
  | fork (target : Nat)
deriving Repr, Inhabited

/-- Instructions, by number. A reader that comes to the end has found a match. -/
abbrev Program := Array Instruction

namespace Program

/-- Instructions put in the places of others. -/
def replaceAll (program : Program) (places : List Nat) (instruction : Instruction) : Program :=
  places.foldl (fun program place => program.setIfInBounds place instruction) program

/-- Behind a program, instructions that may be left out, up to so many times one after the other. -/
def optional (add : Program → Program) (count : Nat) (program : Program) : Program :=
  let (program, forks) := count.repeat
    (fun (program, forks) =>
      let place := program.size
      (add (program.push (.fork place)), place :: forks))
    (program, [])
  replaceAll program forks (.fork program.size)

/-- Behind a program, instructions at least `min` times, and at most `max?` times if that is given. -/
def times (add : Program → Program) (min : Nat) (max? : Option Nat) (program : Program) : Program :=
  match max? with
  | some max => optional add (max - min) (min.repeat add program)
  | none =>
    if min = 0 then
      let place := program.size
      let program := (add (program.push (.fork place))).push (.jump place)
      program.setIfInBounds place (.fork program.size)
    else
      let program := (min - 1).repeat add program
      let place := program.size
      (add program).push (.fork place)

mutual

/-- A program with the instructions of a pattern behind it. -/
def add (program : Program) : Pattern → Program
  | .empty => program
  | .text s => s.foldl (fun program c => program.push (.take c)) program
  | .char set => program.push (.takeOf set)
  | .look condition => program.push (.look condition)
  | .group _ p => add program p
  | .times p min max? => times (fun program => add program p) min max? program
  | .concat ps => addRow program ps
  | .either ps => addBranches program [] ps

/-- The same for patterns in a row. -/
def addRow (program : Program) : List Pattern → Program
  | [] => program
  | p :: ps => addRow (add program p) ps

/-- The same for alternatives. A list of places is given from which to jump behind them. A choice of
nothing is never passed. -/
def addBranches (program : Program) (jumps : List Nat) : List Pattern → Program
  | [] => replaceAll (program.push (.takeOf [])) jumps (.jump (program.size + 1))
  | [p] =>
    let program := add program p
    replaceAll program jumps (.jump program.size)
  | p :: ps =>
    let place := program.size
    let program := add (program.push (.fork place)) p
    let jump := program.size
    let program := (program.push (.jump jump)).setIfInBounds place (.fork (jump + 1))
    addBranches program (jump :: jumps) ps

end

/-- The program of a pattern. -/
def ofPattern (p : Pattern) : Program := add #[] p

/-! ## Readers -/

/-- The readers at a place: those that wait for a character, by the numbers of their instructions, and
whether one has come to the end. For each instruction it is kept at which place it was last met. -/
structure Readers where
  waiting : List Nat := []
  found : Bool := false
  met : Array Nat

/-- Follows readers as far as they get without a character. Each of them costs one step, and so does
each that a fork adds: `bound` is enough for all. A match that has been found ends it. -/
def follow (program : Program) (here : Place) (place : Nat) :
    (bound : Nat) → List Nat → Readers → Readers
  | 0, _, readers | _, [], readers => readers
  | bound + 1, i :: rest, readers =>
    match program[i]? with
    | none => { readers with found := true }
    | some instruction =>
      if readers.met.getD i 0 = place then follow program here place bound rest readers
      else
        let { waiting, found, met } := readers
        let met := met.setIfInBounds i place
        match instruction with
        | .take _ | .takeOf _ => follow program here place bound rest ⟨i :: waiting, found, met⟩
        | .look condition =>
          let rest := if condition.holds here then (i + 1) :: rest else rest
          follow program here place bound rest ⟨waiting, found, met⟩
        | .jump target => follow program here place bound (target :: rest) ⟨waiting, found, met⟩
        | .fork target =>
          follow program here place bound ((i + 1) :: target :: rest) ⟨waiting, found, met⟩

/-- Where a reader goes on if it takes the character. -/
def step? (program : Program) (c : Char) (i : Nat) : Option Nat :=
  match program[i]? with
  | some (.take d) => if c = d then some (i + 1) else none
  | some (.takeOf set) => if set.covers c then some (i + 1) else none
  | _ => none

/-- The readers at a place, of which some have come there and one starts there. -/
def readersAt (program : Program) (here : Place) (place : Nat) (front : List Nat) (met : Array Nat) :
    Readers :=
  follow program here place (front.length + 2 * program.size + 2) (0 :: front) { met }

/-- Does a reader come to the end, of those at the place and of those that start there or further on?
Places count from one. -/
def search (program : Program) (place : Nat) (behind : Option Char) (front : List Nat)
    (met : Array Nat) : List Char → Bool
  | [] => (readersAt program ⟨behind, none⟩ place front met).found
  | c :: text =>
    let { waiting, found, met } := readersAt program ⟨behind, some c⟩ place front met
    found || search program (place + 1) (some c) (waiting.filterMap (step? program c)) met text

end Program

/-- Does the pattern describe some part of the text? -/
def Pattern.matchesIn (pattern : Pattern) (text : List Char) : Bool :=
  let program := Program.ofPattern pattern
  Program.search program 1 none [] (Array.replicate program.size 0) text

end Stencil
