import Stencil.Pattern
import Stencil.Pattern.Reader
import Stencil.Unicode.Fold

/-!
# Written sets of characters

```text
ESCAPE   := '\' followed by a letter or a sign, and by what that one needs
class    := '[' ['^'] item* (('&&' | '--' | '~~') item*)* ']'
item     := CHAR | CHAR '-' CHAR | ESCAPE | class | '[:' ['^'] NAME ':]'
```

What ignores case is widened first and complemented then. Where only the characters of ASCII are known,
no set may have others: there is no complement, and no property.
-/

namespace Stencil.Pattern

open Unicode (Ranges)

/-! ## Sets -/

/-- The set of one character. -/
def single (c : Char) : Ranges := [(c.toNat, c.toNat)]

/-- The characters between two. -/
def between (first last : Char) : Ranges := [(first.toNat, last.toNat)]

/-- A set with what differs from its members only in case, if the flags say so. -/
def foldCase (set : Ranges) : Reader Ranges := do
  let flags := (← get).flags
  return if !flags.ignoreCase then set else if flags.ascii then set.foldedAscii else set.folded

/-- The characters outside a set. -/
def complement (set : Ranges) : Reader Ranges := do
  if (← get).flags.ascii then throw .partOfCharacter else return set.compl

/-- A set or the characters outside it. -/
def complementIf (negated : Bool) (set : Ranges) : Reader Ranges :=
  if negated then complement set else return set

/-- What words are made of. -/
def letters : Reader Letters := return if (← get).flags.ascii then .ascii else .every

/-! ## Named sets -/

/-- The classes of ASCII, by name. -/
def named? : String → Option Ranges
  | "alnum" => some (.unions [between '0' '9', between 'A' 'Z', between 'a' 'z'])
  | "alpha" => some (.unions [between 'A' 'Z', between 'a' 'z'])
  | "ascii" => some (between '\x00' '\x7f')
  | "blank" => some (.unions [single '\t', single ' '])
  | "cntrl" => some (.unions [between '\x00' '\x1f', single '\x7f'])
  | "digit" => some (between '0' '9')
  | "graph" => some (between '!' '~')
  | "lower" => some (between 'a' 'z')
  | "print" => some (between ' ' '~')
  | "punct" =>
    some (.unions [between '!' '/', between ':' '@', between '[' '\x60', between '\x7b' '~'])
  | "space" => some (.unions [between '\t' '\r', single ' '])
  | "upper" => some (between 'A' 'Z')
  | "word" => some (.unions [between '0' '9', between 'A' 'Z', single '_', between 'a' 'z'])
  | "xdigit" => some (.unions [between '0' '9', between 'A' 'F', between 'a' 'f'])
  | _ => none

/-- A class of ASCII that is known to be there. -/
def named (name : String) : Ranges := (named? name).getD []

/-- The set that a letter behind a backslash stands for. A capital stands for its complement. -/
def shorthand? (c : Char) : Reader (Option Ranges) := do
  let ascii := (← get).flags.ascii
  match c.toLower with
  | 'd' => some <$> complementIf c.isUpper (if ascii then named "digit" else Unicode.digits)
  | 's' => some <$> complementIf c.isUpper (if ascii then named "space" else Unicode.blanks)
  | 'w' => some <$> complementIf c.isUpper (if ascii then named "word" else Unicode.wordCharacters)
  | _ => return none

/-- What comes before a sign, and what comes behind it. What has been passed is given, the last
character first. -/
def splitAtSign? (sign passed : List Char) : List Char → Option (List Char × List Char)
  | [] => none
  | c :: s =>
    if sign.isPrefixOf (c :: s) then some (passed.reverse, (c :: s).drop sign.length)
    else splitAtSign? sign (c :: passed) s

/-- The signs between the name of a property and its value. All of them mean the same. -/
def valueSigns : List (List Char) := [['!', '='], [':'], ['=']]

/-- The set of a property, by its name, or by its name and a value. -/
def propertyNamed? (name : List Char) : Option Ranges :=
  match valueSigns.findSome? fun sign => splitAtSign? sign [] name with
  | some (property, value) => Unicode.propertyValue? property value
  | none => Unicode.property? name

/-- The set of a property, behind its letter: one more letter, or a name in braces. -/
def property (negated : Bool) : Reader Ranges := do
  let c ← need .unfinishedEscape
  let name ←
    if c = '\x7b' then
      skipOn
      let name ← takeOn (· != '\x7d')
      discard (need .unfinishedEscape)
      pure name
    else pure [c]
  skip
  if (← get).flags.ascii then throw .partOfCharacter
  match propertyNamed? name with
  | some set => complementIf negated (← foldCase set)
  | none => throw .unknownProperty

/-! ## Escapes -/

/-- What stands for itself in a pattern. -/
inductive Atom where
  | char (c : Char)
  | set (set : Ranges)
  | look (condition : Look)

/-- The value of a digit to the base sixteen. -/
def hexDigit? (c : Char) : Option Nat :=
  if c.isDigit then some (c.toNat - '0'.toNat)
  else if 'a' ≤ c && c ≤ 'f' then some (c.toNat - 'a'.toNat + 10)
  else if 'A' ≤ c && c ≤ 'F' then some (c.toNat - 'A'.toNat + 10)
  else none

/-- The character of a number. -/
def character (number : Nat) : Reader Char :=
  if number.isValidChar then return Char.ofNat number else throw .noCharacter

/-- So many digits to the base sixteen, behind those read. -/
def hexDigits (value : Nat) : (count : Nat) → Reader Nat
  | 0 => return value
  | count + 1 => do
    match hexDigit? (← need .unfinishedEscape) with
    | some digit =>
      skipOn
      hexDigits (16 * value + digit) count
    | none => throw .noCharacter

/-- Digits to the base sixteen up to a closing brace, which is taken. -/
def hexBraced : Reader Nat := do
  let digits ← takeOn fun c => (hexDigit? c).isSome
  if (← need .unfinishedEscape) ≠ '\x7d' || digits.isEmpty then throw .noCharacter
  skip
  return digits.foldl (fun value c => 16 * value + (hexDigit? c).getD 0) 0

/-- A character by its number. `count` digits follow, or any number of them in braces. Where only the
characters of ASCII are known, two digits above them stand for a byte. -/
def hex (count : Nat) : Reader Char := do
  if (← need .unfinishedEscape) = '\x7b' then
    skipOn
    character (← hexBraced)
  else
    let number ← hexDigits 0 count
    if (← get).flags.ascii && count = 2 && 0x7f < number then throw .partOfCharacter
    character number

/-- The edge of a word, by a name in braces. Braces that hold anything but letters are left for a
count. -/
def namedEdge? : Reader (Option Look) := do
  let here ← get
  if here.rest.head? ≠ some '\x7b' then return none
  skipOn
  let isPart (c : Char) : Bool := c.isAlpha || c == '-'
  if !isPart (← need .unclosedCount) then
    set here
    return none
  let name ← takeOn isPart
  if (← peek?) ≠ some '\x7d' then throw .unknownBoundary
  skip
  let letters ← letters
  match String.ofList name with
  | "start" => return some (.wordStart letters)
  | "end" => return some (.wordStop letters)
  | "start-half" => return some (.notBehindWord letters)
  | "end-half" => return some (.notBeforeWord letters)
  | _ => throw .unknownBoundary

/-- May this character stand for itself behind a backslash? -/
def standsForItself (c : Char) : Bool :=
  c.toNat < 0x80 && !c.isAlphanum && c != '<' && c != '>'

/-- What an escape stands for, behind the backslash. -/
def escape : Reader Atom := do
  let c ← need .unfinishedEscape
  if c.isDigit then throw .backReference
  if c = 'p' || c = 'P' then
    skipOn
    return .set (← property (c = 'P'))
  if let some set ← shorthand? c then
    skip
    return .set set
  if c = 'x' || c = 'u' || c = 'U' then
    skipOn
    return .char (← hex (if c = 'x' then 2 else if c = 'u' then 4 else 8))
  skip
  if standsForItself c then return .char c
  match c with
  | 'a' => return .char '\x07'
  | 'f' => return .char '\x0c'
  | 't' => return .char '\t'
  | 'n' => return .char '\n'
  | 'r' => return .char '\r'
  | 'v' => return .char '\x0b'
  | 'A' => return .look .start
  | 'z' => return .look .stop
  | 'b' =>
    match ← namedEdge? with
    | some edge => return .look edge
    | none => return .look (.boundary (← letters))
  | 'B' => return .look (.noBoundary (← letters))
  | '<' => return .look (.wordStart (← letters))
  | '>' => return .look (.wordStop (← letters))
  | _ => throw .unknownEscape

/-! ## Classes -/

/-- The ways to combine two parts of a class. -/
inductive Combination where
  | inter | diff | symmDiff

/-- Two sets combined. -/
def Combination.apply : Combination → Ranges → Ranges → Ranges
  | inter => .inter
  | diff => .diff
  | symmDiff => .symmDiff

/-- The sign of a combination, if it is next. -/
def combination? : Reader (Option Combination) := do
  if ← skipIf ['&', '&'] then return some .inter
  else if ← skipIf ['-', '-'] then return some .diff
  else if ← skipIf ['~', '~'] then return some .symmDiff
  else return none

/-- A named class of ASCII, if one is next. -/
def asciiClass? : Reader (Option Ranges) := do
  let here ← get
  if ← skipIf ['[', ':'] then
    let negated ← skipIf ['^']
    let name := (← get).rest.takeWhile (· != ':')
    modify fun r => { r with rest := r.rest.drop name.length }
    if ← skipIf [':', ']'] then
      if let some set := named? (String.ofList name) then
        return some (← complementIf negated (← foldCase set))
  set here
  return none

/-- A character of a class, or an escape. -/
def classAtom : Reader Atom := do
  let c ← need .unclosedClass
  skip
  let atom ← if c = '\\' then escape else pure (.char c)
  if let .char c := atom then
    if (← get).flags.ascii && 0x7f < c.toNat then throw .partOfCharacter
  return atom

/-- Is a hyphen next that makes a range with what comes before it? -/
def atRange? : Reader Bool := do
  let r ← get
  match r.rest with
  | '-' :: s =>
    let s := if r.flags.verbose then dropComments false s else s
    return s.head? != some ']' && s.head? != some '-'
  | _ => return false

/-- A character, a range or an escape of a class. -/
def classItem : Reader Ranges := do
  let first ← classAtom
  pass
  discard (need .unclosedClass)
  if ← atRange? then
    skipOn
    let last ← classAtom
    match first, last with
    | .char first, .char last =>
      if first ≤ last then return between first last else throw .reversedRange
    | _, _ => throw .notInRange
  else
    match first with
    | .char c => return single c
    | .set set => return set
    | .look _ => throw .notInClass

/-- Part of a class: items, of which the last one comes first. -/
def itemsTogether : List (Nested Ranges) → Reader (Nested Ranges)
  | [] => return ⟨[], 0⟩
  | [item] => return item
  | items => nest (.unions (items.map Nested.value)) (deepest items)

/-- What has been read of a class, and a part not yet combined with it. -/
def combined (before : Option (Combination × Nested Ranges)) (items : List (Nested Ranges)) :
    Reader (Nested Ranges) := do
  let last ← itemsTogether items
  match before with
  | none => return last
  | some (combination, first) =>
    let set := combination.apply (← foldCase first.value) (← foldCase last.value)
    nest set (max first.depth last.depth)

/-- The parts of a class up to its closing bracket, which is taken. -/
def classParts (inner : Reader (Nested Ranges)) :
    (bound : Nat) → Option (Combination × Nested Ranges) → List (Nested Ranges) →
      Reader (Nested Ranges)
  | 0, _, _ => throw .unclosedClass
  | bound + 1, before, items => do
    pass
    match ← need .unclosedClass with
    | ']' =>
      skip
      combined before items
    | '[' =>
      match ← asciiClass? with
      | some set => classParts inner bound before (⟨set, 0⟩ :: items)
      | none =>
        skip
        classParts inner bound before ((← inner) :: items)
    | _ =>
      match ← combination? with
      | some combination =>
        classParts inner bound (some (combination, ← combined before items)) []
      | none => classParts inner bound before (⟨← classItem, 0⟩ :: items)

/-- What stands for itself at the front of a class: hyphens, or else a closing bracket. -/
def classFront : Reader (List Char) := do
  let hyphens ← takeOn (· == '-')
  if hyphens.isEmpty && (← need .unclosedClass) = ']' then
    skipOn
    return [']']
  return hyphens

/-- A class behind its opening bracket, with at most so many classes inside each other. -/
def charClass : (levels : Nat) → Reader (Nested Ranges)
  | 0 => throw .tooDeep
  | levels + 1 => do
    pass
    let negated := (← need .unclosedClass) = '^'
    if negated then skipOn
    let front := (← classFront).map fun c => ⟨single c, 0⟩
    let set ← classParts (charClass levels) (← bound) none front
    nest (← complementIf negated (← foldCase set.value)) set.depth

end Stencil.Pattern
