import Stencil.Pattern.CharClass
import Stencil.Pattern.Size

/-!
# Written patterns

```text
pattern  := branch ('|' branch)*
branch   := (piece repeat*)*
repeat   := ('*' | '+' | '?' | '{' m '}' | '{' m ',' '}' | '{' m ',' n '}') ['?']
piece    := CHAR | '.' | '^' | '$' | ESCAPE | class | '(' pattern ')' | '(?' FLAGS ':' pattern ')'
          | '(?<' NAME '>' pattern ')' | '(?P<' NAME '>' pattern ')' | '(?' FLAGS ')'
```

Flags hold from where they stand to the end of the group. Whether a repetition takes as much as it can
or as little makes no difference to whether there is a match, and is forgotten. A pattern that is too
deep or too large is refused (`Pattern.ofText`).
-/

namespace Stencil.Pattern

/-! ## Repetitions -/

/-- A piece of a branch: a pattern, or nothing but flags that hold from there on. -/
abbrev Piece := Nested (Option Pattern)

/-- A decimal number with blanks around it; nothing where there are no digits. -/
def decimal? : Reader (Option Nat) := do
  modify fun r => { r with rest := r.rest.dropWhile Unicode.isBlank }
  let digits ← takeOn Char.isDigit
  modify fun r => { r with rest := r.rest.dropWhile Unicode.isBlank }
  if digits.isEmpty then return none
  let n := Nat.ofDigitChars 10 digits 0
  if n < UInt32.size then return some n else throw .hugeCount

/-- The counts in braces, behind the opening one. -/
def counts : Reader (Nat × Option Nat) := do
  pass
  discard (need .unclosedCount)
  let min? ← decimal?
  let found ← do
    if (← need .unclosedCount) = ',' then
      skipOn
      if (← need .unclosedCount) = '\x7d' then
        match min? with
        | some min => pure (min, none)
        | none => throw .missingCount
      else
        match min?, ← decimal? with
        | some min, some max => pure (min, some max)
        | _, _ => throw .missingCount
    else
      match min? with
      | some n => pure (n, some n)
      | none => throw .missingCount
  if (← need .unclosedCount) ≠ '\x7d' then throw .unclosedCount
  skipOn
  if found.2.any (· < found.1) then throw .reversedCount
  return found

/-- The last piece of a branch repeated. -/
def repeatLast (min : Nat) (max? : Option Nat) : List Piece → Reader (List Piece)
  | ⟨some p, depth⟩ :: pieces => return (← nest (some (p.repeated min max?)) depth) :: pieces
  | _ => throw .nothingToRepeat

/-- What a repetition needs to stand behind. -/
def needPiece : List Piece → Reader Unit
  | ⟨some _, _⟩ :: _ => return ()
  | _ => throw .nothingToRepeat

/-! ## Groups -/

/-- One flag turned on or off. -/
def Flags.with? (flags : Flags) (on : Bool) : Char → Option Flags
  | 'i' => some { flags with ignoreCase := on }
  | 'm' => some { flags with multiLine := on }
  | 's' => some { flags with dotAll := on }
  | 'x' => some { flags with verbose := on }
  | 'u' => some { flags with ascii := !on }
  | 'R' => some { flags with cr := on }
  | 'U' => some flags
  | _ => none

/-- Flags up to a colon or a closing parenthesis, which is left. `seen` are those before. -/
def flagsUpTo (on : Bool) (seen : List Char) : (bound : Nat) → Flags → Reader Flags
  | 0, _ => throw .missingFlag
  | bound + 1, flags => do
    let c ← need .missingFlag
    if c = ':' || c = ')' then
      if seen.head? = some '-' then throw .missingFlag else return flags
    else if seen.contains c then throw .repeatedFlag
    else
      skip
      if c = '-' then flagsUpTo false (c :: seen) bound flags
      else
        match flags.with? on c with
        | some flags => flagsUpTo on (c :: seen) bound flags
        | none => throw .unknownFlag

/-- The name of a group, up to the closing bracket, which is taken. -/
def groupName : Reader Unit := do
  let rest := (← get).rest
  let name := rest.takeWhile (· != '>')
  let isFirst (c : Char) : Bool := c == '_' || Unicode.isAlphabetic c
  let isPart (c : Char) : Bool :=
    c == '_' || c == '.' || c == '[' || c == ']' || Unicode.isAlphanumeric c
  if name.length = rest.length || !name.head?.any isFirst || !name.tail.all isPart then
    throw .badGroupName
  let names := (← get).names
  if names.contains name then throw .repeatedGroupName
  modify fun r => { r with rest := rest.drop (name.length + 1), names := name :: names }

/-- The number of a group that opens. -/
def groupNumber : Reader Nat := do
  let number := (← get).groups + 1
  modify fun r => { r with groups := number }
  return number

/-- Everything up to the closing parenthesis, which is taken. The flags from before hold behind it. -/
def groupBody (number? : Option Nat) (outer : Flags) (pattern : Reader (Nested Pattern)) :
    Reader Piece := do
  let body ← pattern
  if !(← skipIf [')']) then throw .unclosedGroup
  modify fun r => { r with flags := outer }
  match number? with
  | some number => nest (some (.group number body.value)) body.depth
  | none => nest (some body.value) body.depth

/-- A group behind its opening parenthesis. -/
def groupWith (pattern : Reader (Nested Pattern)) : Reader Piece := do
  pass
  let outer := (← get).flags
  let rest := (← get).rest
  let isNext (text : List Char) : Bool := text.isPrefixOf rest
  if isNext ['?', '='] || isNext ['?', '!'] || isNext ['?', '<', '='] || isNext ['?', '<', '!'] then
    throw .lookAround
  if (← skipIf ['?', 'P', '<']) || (← skipIf ['?', '<']) then
    let number ← groupNumber
    groupName
    groupBody (some number) outer pattern
  else if ← skipIf ['?'] then
    discard (need .unclosedGroup)
    let bare := (← peek?) = some ')'
    let flags ← flagsUpTo true [] (← bound) outer
    let whole ← skipIf [')']
    modify fun r => { r with flags }
    if whole then
      if bare then throw .nothingToRepeat else return ⟨none, 0⟩
    else
      skip
      groupBody none outer pattern
  else
    groupBody (some (← groupNumber)) outer pattern

/-! ## Branches -/

/-- The pattern of an atom. -/
def ofAtom : Atom → Reader Pattern
  | .char c => do
    let flags := (← get).flags
    return if !flags.ignoreCase then .ofChar c
      else if flags.ascii then .ofSet (single c).foldedAscii
      else .ofSet (.unions ((Unicode.alike c).map single))
  | .set set => return .ofSet set
  | .look condition => return .look condition

/-- The characters that a dot stands for. -/
def dot (flags : Flags) : Unicode.Ranges :=
  .compl (if flags.dotAll then [] else if flags.cr then .union (single '\n') (single '\r') else single '\n')

/-- The pattern of a character that is no sign of a group, a class or a repetition. -/
def ofSign (c : Char) : Reader Pattern := do
  let flags := (← get).flags
  match c with
  | '\\' => ofAtom (← escape)
  | '.' => if flags.ascii then throw .partOfCharacter else return .ofSet (dot flags)
  | '^' => return .look (if !flags.multiLine then .start else if flags.cr then .lineStartCr else .lineStart)
  | '$' => return .look (if !flags.multiLine then .stop else if flags.cr then .lineStopCr else .lineStop)
  | c => ofAtom (.char c)

/-- The pieces of a branch, the last one first, behind those read. -/
def pieces (group : Reader Piece) : (bound : Nat) → List Piece → Reader (List Piece)
  | 0, read => return read
  | bound + 1, read => do
    pass
    match ← peek? with
    | none | some '|' | some ')' => return read
    | some c =>
      skip
      match c with
      | '(' => pieces group bound ((← group) :: read)
      | '[' =>
        let set ← charClass greatestDepth
        pieces group bound (⟨some (.ofSet set.value), set.depth⟩ :: read)
      | '*' => repeated bound read 0 none
      | '+' => repeated bound read 1 none
      | '?' => repeated bound read 0 (some 1)
      | '\x7b' =>
        needPiece read
        let (min, max?) ← counts
        repeated bound read min max?
      | c => pieces group bound (⟨some (← ofSign c), 0⟩ :: read)
where
  /-- Goes on behind a repetition, with or without a question mark. -/
  repeated (bound : Nat) (read : List Piece) (min : Nat) (max? : Option Nat) : Reader (List Piece) := do
    let read ← repeatLast min max? read
    discard (skipIf ['?'])
    pieces group bound read

/-- A branch of pieces, of which the last one comes first. -/
def ofPieces : List Piece → Reader (Nested Pattern)
  | [] => return ⟨.empty, 0⟩
  | [piece] => return ⟨piece.value.getD .empty, piece.depth⟩
  | read => nest (.joined (read.reverse.filterMap Nested.value)) (deepest read)

/-- A choice between branches, of which the last one comes first. -/
def ofBranches : List (Nested Pattern) → Reader (Nested Pattern)
  | [branch] => return branch
  | read => nest (.oneOf (read.reverse.map Nested.value)) (deepest read)

/-- Branches with bars between them, behind those read. -/
def branchesOf (group : Reader Piece) : (bound : Nat) → List (Nested Pattern) → Reader (Nested Pattern)
  | 0, read => ofBranches read
  | bound + 1, read => do
    let branch ← ofPieces (← pieces group (← Pattern.bound) [])
    if ← skipIf ['|'] then branchesOf group bound (branch :: read)
    else ofBranches (branch :: read)

/-- A group behind its opening parenthesis, with at most so many groups inside each other. -/
def anyGroup : (levels : Nat) → Reader Piece
  | 0 => throw .tooDeep
  | levels + 1 => groupWith do branchesOf (anyGroup levels) (← bound) []

/-- A whole pattern. -/
def whole : Reader Pattern := do
  let p ← branchesOf (anyGroup greatestDepth) (← bound) []
  if (← peek?).isSome then throw .unopenedGroup
  return p.value

/-- The pattern that a text writes down. -/
def ofText (source : List Char) : Except PatternError Pattern :=
  match whole { rest := source, length := source.length } with
  | .ok p _ => if p.fits then .ok p else .error .tooLarge
  | .error e _ => .error e

end Stencil.Pattern
