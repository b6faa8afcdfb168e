import Stencil.Variables.Written

/-!
# Variables files

A variables file binds names before a template is rendered. Each line is a definition, a name and a
written value with an equals sign between them, or a comment, or blank. A line that defines nothing is
reported and has no effect.
-/

namespace Stencil

namespace Variables

/-- Is this the name of a variable? -/
def isName : List Char → Bool
  | [] => false
  | c :: s =>
    (Unicode.isAlphabetic c || c == '_') && s.all fun c => Unicode.isAlphanumeric c || c == '_'

/-- What stands before the first equals sign and what stands after it. -/
def splitAssignment? (s : List Char) : Option (List Char × List Char) :=
  match s.dropWhile (· != '=') with
  | [] => none
  | _ :: value => some (s.takeWhile (· != '='), value)

/-- Binds the name of a definition to its value. -/
def define (b : Bindings) (definition : List Char) : Except VariableError Bindings :=
  match splitAssignment? definition with
  | none => .error (.noAssignment definition)
  | some (name, value) =>
    let name := Text.trim name
    if !isName name then .error (.badName name)
    else
      match Written.read (Text.trim value) with
      | .error e => .error e
      | .ok v => (b.set (String.ofList name) v).mapError .bind

/-- Is a line one that is passed over? -/
def isPassedOver (line : List Char) : Bool :=
  match line with
  | [] => true
  | c :: _ => c == ';' || c == '#'

/-- A line of a file that defines nothing, by its number from one, and why. -/
structure LineError where
  line : Nat
  cause : VariableError
deriving DecidableEq, Repr

/-- The wording of an error. -/
def LineError.message (e : LineError) : String :=
  let line := e.line
  let cause := e.cause.message
  s!"line {line}: {cause}"

/-- Defines what lines define, of which the first has the given number. -/
def loadLines (b : Bindings) (number : Nat) : List (List Char) → Bindings × List LineError
  | [] => (b, [])
  | raw :: lines =>
    let line := Text.trim raw
    if isPassedOver line then loadLines b (number + 1) lines
    else
      match define b line with
      | .ok b => loadLines b (number + 1) lines
      | .error cause =>
        let (b, errors) := loadLines b (number + 1) lines
        (b, ⟨number, cause⟩ :: errors)

/-- The bindings that a file defines, and the lines that define nothing. -/
def load (text : List Char) : Bindings × List LineError := loadLines [] 1 (Text.lines text)

end Variables

end Stencil
