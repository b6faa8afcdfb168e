import Stencil.Host
import Stencil.Text
import Stencil.Value.Comparison

/-!
# The members of values that belong to no host

Texts, integers, reals, truth values and lists have classes of their own. Their methods find among
their arguments what their parameters promise. Where they are called on anything else, they say so.
-/

namespace Stencil

/-- The text among the arguments of `name` at an index. -/
def textAt (name : String) (args : List Value) (index : Nat) : Except Fault (List Char) :=
  match args[index]? with
  | some (.text s) => .ok s.toList
  | some v => .error (.notText name (index + 1) v.typeName)
  | none => .error (.absent name (index + 1))

/-- The integer among the arguments of `name` at an index. -/
def integerAt (name : String) (args : List Value) (index : Nat) : Except Fault Int64 :=
  match args[index]? with
  | some (.integer n) => .ok n
  | _ => .error (.notInteger name (index + 1))

/-- The text of some characters, as a value. -/
def Value.ofChars (s : List Char) : Value := .text (String.ofList s)

namespace Text

/-- The part of a text that starts after `start` characters and has `length` of them, or goes to the
end where `length` is negative. -/
def substring (s : List Char) (start length : Int64) : Except Fault (List Char) :=
  if start.toInt < 0 || s.length < start.toInt then .error (.startOutside start s.length)
  else
    let rest := s.drop start.toInt.toNat
    if length.toInt < 0 then .ok rest
    else if s.length < start.toInt + length.toInt then .error (.lengthPastEnd length)
    else .ok (rest.take length.toInt.toNat)

end Text

namespace Class

/-- Equality with the argument, which may be of any kind. -/
def equalsMethod {Data : Type} (value : Data → Value) : Method Data where
  name := "Equals"
  params := [{ kind := .any }]
  body := fun data args => .ok (.boolean ((value data).equals (args.headD .null)))

/-- The written form. -/
def toStringMethod {Data : Type} (value : Data → Value) : Method Data where
  name := "ToString"
  params := []
  body := fun data _ => .ok (.text (value data).display)

/-- A test of a text against another one. -/
def testMethod (name : String) (test : (receiver other : List Char) → Bool) : Method (List Char) where
  name := name
  params := [{ kind := .text }]
  body := fun s args => do return .boolean (test s (← textAt name args 0))

/-- A text made of the receiver alone. -/
def mapMethod (name : String) (map : List Char → List Char) : Method (List Char) where
  name := name
  params := []
  body := fun s _ => .ok (.ofChars (map s))

/-- Every occurrence of one text replaced by another. -/
def replaceMethod : Method (List Char) where
  name := "Replace"
  params := [{ kind := .text }, { kind := .text }]
  body := fun s args => do
    match ← textAt "Replace" args 0 with
    | [] => throw .emptySearchText
    | c :: part => return .ofChars (Text.replaceAll c part (← textAt "Replace" args 1) s)

/-- Part of a text. -/
def substringMethod : Method (List Char) where
  name := "Substring"
  params := [{ kind := .integer }, { kind := .integer, default? := some (.integer (-1)) }]
  body := fun s args => do
    let start ← integerAt "Substring" args 0
    let length ← integerAt "Substring" args 1
    return .ofChars (← Text.substring s start length)

/-- The class of texts. -/
def text : Class where
  name := "text"
  Data := List Char
  view
    | .text s => some s.toList
    | _ => none
  properties := [("Length", fun s => .integer (Int64.ofNat s.length))]
  methods := [
    mapMethod "ToLower" Text.lower,
    mapMethod "ToUpper" Text.upper,
    mapMethod "Trim" Text.trim,
    testMethod "StartsWith" fun s part => part.isPrefixOf s,
    testMethod "EndsWith" fun s part => part.isSuffixOf s,
    testMethod "Contains" fun s part => Text.contains part s,
    replaceMethod,
    substringMethod,
    equalsMethod .ofChars,
    toStringMethod .ofChars]

/-- A class whose values are compared and written, and no more. -/
def plain {Data : Type} (kind : ValueKind) (view : Value → Option Data) (value : Data → Value) : Class where
  name := kind.name
  Data := Data
  view := view
  methods := [equalsMethod value, toStringMethod value]

/-- The class of integers. -/
def integer : Class :=
  plain .integer (fun | .integer n => some n | _ => none) .integer

/-- The class of reals. -/
def real : Class :=
  plain .real (fun | .real x => some x | _ => none) .real

/-- The class of truth values. -/
def boolean : Class :=
  plain .boolean (fun | .boolean b => some b | _ => none) .boolean

/-- Is some item equal to the argument? -/
def containsMethod : Method (List Value) where
  name := "Contains"
  params := [{ kind := .any }]
  body := fun items args => .ok (.boolean (items.any fun item => item.equals (args.headD .null)))

/-- The class of lists. -/
def list : Class where
  name := "list"
  Data := List Value
  view
    | .list items => some items
    | _ => none
  properties := [("Count", fun items => .integer (Int64.ofNat items.length))]
  methods := [containsMethod, equalsMethod .list]
  items? := some id

/-- The class of the values of a kind. Those of a host have classes of their own. -/
def ofKind? : ValueKind → Option Class
  | .text => some text
  | .integer => some integer
  | .real => some real
  | .boolean => some boolean
  | .list => some list
  | _ => none

end Class

end Stencil
