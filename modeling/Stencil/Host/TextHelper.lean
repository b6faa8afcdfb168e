import Stencil.Host.Builtin

/-!
# The text helper

An object of its own, which every engine binds to the name `Text`: it capitalizes texts, joins lists
into a phrase, and matches texts against patterns. What a pattern is the host's engine says.
-/

namespace Stencil.TextHelper

/-- The whole text in upper case, or only its first character, with the rest in lower case. -/
def capitalize (firstOnly : Bool) (s : List Char) : List Char :=
  if firstOnly then Text.capitalize s else Text.upper s

/-- The written forms with commas between them and the word "and" before the last one. An empty list
makes no phrase. -/
def phrase? (items : List Value) : Option String :=
  match items.reverse with
  | [] => none
  | [only] => some only.display
  | last :: before =>
    some (", ".intercalate (Value.displays before.reverse) ++ " and " ++ last.display)

/-- Capitalizes a text. No text stays none. -/
def capitalizeMethod : Method Unit where
  name := "Capitalize"
  params := [{ kind := .text }, { kind := .boolean, default? := some (.boolean false) }]
  body := fun _ args =>
    match args with
    | .text s :: firstOnly =>
      .ok (.ofChars (capitalize ((firstOnly.headD .null).same (.boolean true)) s.toList))
    | _ => .ok .null

/-- Joins a list into a phrase. -/
def enumerateMethod : Method Unit where
  name := "Enumerate"
  params := [{ kind := .list }]
  body := fun _ args =>
    match args with
    | .list items :: _ => .ok (((phrase? items).map .text).getD .null)
    | _ => .ok .null

/-- Matches a text against a pattern. The pattern is looked at first. -/
def matchesMethod (patterns : Patterns) : Method Unit where
  name := "Matches"
  params := [{ kind := .text }, { kind := .text }]
  body := fun _ args => do
    let source ← textAt "Matches" args 1
    match patterns.compile source with
    | .error reason => throw (.invalidPattern reason)
    | .ok pattern => return .boolean (patterns.isMatch pattern (← textAt "Matches" args 0))

/-- The class of the helper. -/
def helperClass (patterns : Patterns) : Class where
  name := ClassRef.textHelper.name
  Data := Unit
  view
    | .object o => if o.classRef = .textHelper then some () else none
    | _ => none
  methods := [capitalizeMethod, enumerateMethod, matchesMethod patterns]

/-- A helper of a given number. -/
def object (number : Nat) : Object := ⟨number, .textHelper, ClassRef.textHelper.name⟩

end Stencil.TextHelper

namespace Stencil.Host

/-- The class that has the members of a value. No value and procedures have none. -/
def class? (host : Host) (v : Value) : Option Class :=
  match v with
  | .object o =>
    match o.classRef with
    | .textHelper => some (TextHelper.helperClass host.patterns)
    | .declared number _ => some (host.classOf number)
  | v => Class.ofKind? v.kind

end Stencil.Host
