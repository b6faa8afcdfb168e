import Stencil.Unicode.Property
import Stencil.Unicode.Utf8

/-!
# Patterns

A pattern describes texts. Patterns are put together in a normal form (`ofSet`, `repeated`, `joined`,
`oneOf`): what can be said as a text is a text, texts side by side are one text, nothing stands in a
row with others where it takes no place, and alternatives that start alike share their start.

Of every pattern it is known how few and how many bytes it takes (`minLength?`, `maxLength?`), and
whether all it describes starts at the start of a text, or stops at its end (`isAnchored`).
-/

namespace Stencil

open Unicode (Ranges)

/-- What words are made of. -/
inductive Letters where
  | every
  /-- Those of ASCII only. -/
  | ascii
deriving DecidableEq, Repr

/-- A condition on a place in a text. It takes no characters. -/
inductive Look where
  | start | stop
  /-- At the start, or behind a line feed. -/
  | lineStart
  /-- At the end, or in front of a line feed. -/
  | lineStop
  /-- As `lineStart`, where a carriage return may end a line, with a line feed or without. -/
  | lineStartCr
  | lineStopCr
  /-- Between a letter of words and something else, the ends of the text included. -/
  | boundary (letters : Letters)
  | noBoundary (letters : Letters)
  | wordStart (letters : Letters)
  | wordStop (letters : Letters)
  | notBehindWord (letters : Letters)
  | notBeforeWord (letters : Letters)
deriving DecidableEq, Repr

/-- A pattern. -/
inductive Pattern where
  /-- It takes nothing, anywhere. -/
  | empty
  /-- Some characters, one after the other. -/
  | text (chars : List Char)
  /-- One character of a set. -/
  | char (set : Ranges)
  | look (condition : Look)
  /-- A group, by its number. -/
  | group (number : Nat) (body : Pattern)
  /-- At least `min` times, and at most `max?` times if that is given. -/
  | times (body : Pattern) (min : Nat) (max? : Option Nat)
  /-- Some patterns in a row. -/
  | concat (parts : List Pattern)
  /-- One of some patterns. -/
  | either (branches : List Pattern)
deriving Repr, Inhabited

namespace Pattern

/-! ## Equality -/

mutual

/-- Are two patterns the same? Groups of different numbers are not. -/
def same : Pattern → Pattern → Bool
  | empty, empty => true
  | text s, text t => s == t
  | char a, char b => a == b
  | look a, look b => a == b
  | group n a, group m b => n == m && same a b
  | times a min max?, times b min' max?' => min == min' && max? == max?' && same a b
  | concat as, concat bs => sameAll as bs
  | either as, either bs => sameAll as bs
  | _, _ => false

/-- Are the patterns of two lists the same, one by one? -/
def sameAll : List Pattern → List Pattern → Bool
  | [], [] => true
  | a :: as, b :: bs => same a b && sameAll as bs
  | _, _ => false

end

/-! ## Lengths -/

mutual

/-- The least number of bytes in a text that is described, if there is such a text. -/
def minLength? : Pattern → Option Nat
  | empty | look _ => some 0
  | text s => some (Unicode.Utf8.size s)
  | char a => a.head?.map fun (first, _) => Unicode.Utf8.sizeOf first
  | group _ p => minLength? p
  | times p min _ => (minLength? p).map (· * min)
  | concat ps => minLengthOfAll? 0 ps
  | either [] => none
  | either (p :: ps) => do minLengthOfAny? (← minLength? p) ps

/-- The same for patterns in a row, to be added to a number. -/
def minLengthOfAll? (n : Nat) : List Pattern → Option Nat
  | [] => some n
  | p :: ps => do minLengthOfAll? (n + (← minLength? p)) ps

/-- The same for alternatives, each of which describes a text. A number to start from is given. -/
def minLengthOfAny? (n : Nat) : List Pattern → Option Nat
  | [] => some n
  | p :: ps => do minLengthOfAny? (min n (← minLength? p)) ps

end

mutual

/-- The greatest number of bytes in a text that is described, if there is a greatest. -/
def maxLength? : Pattern → Option Nat
  | empty | look _ => some 0
  | text s => some (Unicode.Utf8.size s)
  | char a => a.getLast?.map fun (_, last) => Unicode.Utf8.sizeOf last
  | group _ p => maxLength? p
  | times p _ max? => do return (← maxLength? p) * (← max?)
  | concat ps => maxLengthOfAll? 0 ps
  | either [] => none
  | either (p :: ps) => do maxLengthOfAny? (← maxLength? p) ps

/-- The same for patterns in a row, to be added to a number. -/
def maxLengthOfAll? (n : Nat) : List Pattern → Option Nat
  | [] => some n
  | p :: ps => do maxLengthOfAll? (n + (← maxLength? p)) ps

/-- The same for alternatives, each of which describes a text. A number to start from is given. -/
def maxLengthOfAny? (n : Nat) : List Pattern → Option Nat
  | [] => some n
  | p :: ps => do maxLengthOfAny? (max n (← maxLength? p)) ps

end

/-! ## Anchors -/

/-- The two ways to read a text. -/
inductive Direction where
  /-- From its start on. -/
  | forth
  /-- From its end back. -/
  | back
deriving DecidableEq, Repr

/-- The condition that holds only where a reader of the text begins. -/
def Direction.edge : Direction → Look
  | forth => .start
  | back => .stop

mutual

/-- Is a text described only where a reader begins? -/
def isAnchored (direction : Direction) : Pattern → Bool
  | empty | text _ | char _ => false
  | look condition => condition == direction.edge
  | group _ p => isAnchored direction p
  | times p min _ => min != 0 && isAnchored direction p
  | concat ps =>
    match direction with
    | .forth => isAnchoredInRow ps
    | .back => isAnchoredInRowBack false ps
  | either ps => areAnchored direction ps

/-- Is a row of patterns anchored where it starts? Parts that take nothing are passed over. -/
def isAnchoredInRow : List Pattern → Bool
  | [] => false
  | p :: ps => isAnchored .forth p || (maxLength? p == some 0 && isAnchoredInRow ps)

/-- Is a row of patterns anchored where it stops? What is known of the parts before is given. -/
def isAnchoredInRowBack (before : Bool) : List Pattern → Bool
  | [] => before
  | p :: ps => isAnchoredInRowBack (isAnchored .back p || (maxLength? p == some 0 && before)) ps

/-- Are all of some patterns anchored? -/
def areAnchored (direction : Direction) : List Pattern → Bool
  | [] => true
  | p :: ps => isAnchored direction p && areAnchored direction ps

end

/-! ## Normal form -/

/-- A character of a set. -/
def ofSet (set : Ranges) : Pattern :=
  match set with
  | [(first, last)] => if first = last then text [Char.ofNat first] else .char set
  | _ => .char set

/-- A character. -/
def ofChar (c : Char) : Pattern := text [c]

/-- A pattern at least `min` times, and at most `max?` times if that is given. What takes nothing need
not be repeated. -/
def repeated (p : Pattern) (min : Nat) (max? : Option Nat) : Pattern :=
  let (min, max?) :=
    if maxLength? p = some 0 then (Nat.min min 1, some (Nat.min (max?.getD 1) 1)) else (min, max?)
  if max? = some 0 then empty
  else if min = 1 && max? = some 1 then p
  else times p min max?

/-- What stands in a row when a pattern does. -/
def parts : Pattern → List Pattern
  | empty => []
  | concat ps => ps
  | p => [p]

/-- A part in front of a row. Texts become one. -/
def addPart : Pattern → List Pattern → List Pattern
  | text s, text t :: ps => text (s ++ t) :: ps
  | p, ps => p :: ps

/-- Some patterns in a row. -/
def joined (ps : List Pattern) : Pattern :=
  match (ps.flatMap parts).foldr addPart [] with
  | [] => empty
  | [p] => p
  | ps => concat ps

/-- What there is to choose from where a pattern is one of the choices. -/
def branches : Pattern → List Pattern
  | either ps => ps
  | p => [p]

/-- The set of a text of one character. -/
def character? : Pattern → Option Ranges
  | text [c] => some [(c.toNat, c.toNat)]
  | _ => none

/-- The set of a pattern that is one. -/
def set? : Pattern → Option Ranges
  | char a => some a
  | _ => none

/-- One of some patterns. Characters become a set, and sets become one. -/
def choice (ps : List Pattern) : Pattern :=
  match ps.flatMap branches with
  | [] => char []
  | [p] => p
  | ps =>
    match ps.mapM character? <|> ps.mapM set? with
    | some sets => ofSet (.unions sets)
    | none => either ps

/-- The parts of a pattern that is a row. -/
def row? : Pattern → Option (List Pattern)
  | concat ps => some ps
  | _ => none

/-- How many patterns two rows have in common at the front. -/
def commonLength (as bs : List Pattern) : Nat :=
  ((as.zip bs).takeWhile fun (a, b) => same a b).length

/-- One of some patterns. What rows have in common at the front stands in front of the choice. -/
def oneOf (ps : List Pattern) : Pattern :=
  match choice ps with
  | either ps =>
    match ps.mapM row? with
    | some (row :: rows) =>
      let common := rows.foldl (fun n row' => min n (commonLength row row')) row.length
      if common = 0 then either ps
      else
        joined (row.take common ++ [choice ((row :: rows).map fun row => joined (row.drop common))])
    | _ => either ps
  | p => p

end Pattern

end Stencil
