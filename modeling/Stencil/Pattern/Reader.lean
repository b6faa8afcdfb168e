import Stencil.Pattern.Error
import Stencil.Unicode.Letter

/-!
# Readers of patterns

A reader takes characters from the front of a pattern (`Pattern.Reader`), under the flags that hold at
that place. Each round of a loop takes at least one character, so that the length of the whole pattern
bounds all of them (`Pattern.bound`).

A pattern may hold only so much inside each other: every part comes with its depth (`Pattern.Nested`),
and what is put around it is one deeper (`Pattern.nest`).
-/

namespace Stencil.Pattern

/-- What the flags of a pattern turn on. -/
structure Flags where
  ignoreCase : Bool := false
  multiLine : Bool := false
  /-- A dot stands for a line feed too. -/
  dotAll : Bool := false
  /-- Blanks do not count, and a number sign starts a comment. -/
  verbose : Bool := false
  /-- Classes and boundaries know the characters of ASCII only. -/
  ascii : Bool := false
  /-- A carriage return ends a line too. -/
  cr : Bool := false

/-- What a reader of patterns knows. -/
structure Reading where
  /-- The characters left. -/
  rest : List Char
  /-- The number of characters in the whole pattern. -/
  length : Nat
  /-- The flags that hold. -/
  flags : Flags := {}
  /-- The number of groups so far. -/
  groups : Nat := 0
  /-- The names that groups have taken. -/
  names : List (List Char) := []

/-- A reader of part of a pattern. -/
abbrev Reader := EStateM PatternError Reading

/-! ## Characters -/

/-- Without blanks and comments at the front. -/
def dropComments (inComment : Bool) : List Char → List Char
  | [] => []
  | c :: s =>
    if inComment then dropComments (c != '\n') s
    else if c = '#' then dropComments true s
    else if Unicode.isBlank c then dropComments false s
    else c :: s

/-- Passes over what does not count. -/
def pass : Reader Unit :=
  modify fun r => if r.flags.verbose then { r with rest := dropComments false r.rest } else r

/-- The next character. -/
def peek? : Reader (Option Char) := return (← get).rest.head?

/-- More rounds than any loop makes. -/
def bound : Reader Nat := return (← get).length + 1

/-- Takes one character. -/
def skip : Reader Unit := modify fun r => { r with rest := r.rest.tail }

/-- Takes one character and passes over what does not count. -/
def skipOn : Reader Unit := do
  skip
  pass

/-- Takes these characters if they are next. -/
def skipIf (text : List Char) : Reader Bool := do
  let r ← get
  if text.isPrefixOf r.rest then
    set { r with rest := r.rest.drop text.length }
    return true
  else
    return false

/-- The next character, of which there must be one. -/
def need (error : PatternError) : Reader Char := do
  match ← peek? with
  | some c => return c
  | none => throw error

/-- Takes characters for as long as they pass a test, and after each one passes over what does not
count. -/
def takeOn (test : Char → Bool) : Reader (List Char) := do
  go (← bound) []
where
  /-- The same behind characters read, of which the last one comes first. -/
  go : (bound : Nat) → List Char → Reader (List Char)
    | 0, read => return read.reverse
    | bound + 1, read => do
      match ← peek? with
      | some c =>
        if test c then
          skipOn
          go bound (c :: read)
        else
          return read.reverse
      | none => return read.reverse

/-! ## Depth -/

/-- Part of a pattern, and how much of it is inside each other. -/
structure Nested (α : Type) where
  value : α
  depth : Nat := 0

/-- How much may be inside each other. -/
def greatestDepth : Nat := 250

/-- The depth of the deepest one of some parts. -/
def deepest (parts : List (Nested α)) : Nat := parts.foldl (fun depth part => max depth part.depth) 0

/-- What is put around something of a given depth. -/
def nest (value : α) (inner : Nat) : Reader (Nested α) :=
  if inner < greatestDepth then return ⟨value, inner + 1⟩ else throw .tooDeep

end Stencil.Pattern
