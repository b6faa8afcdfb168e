import Stencil.Bindings
import Stencil.Text

/-!
# Written values

Outside of templates values are written in a notation of their own: the words for no value and for the
truth values, numbers, texts in quotes, and lists of these in brackets. Whatever looks like none of
them is a text as it stands.
-/

namespace Stencil

/-- What is wrong with a definition of a variable, or with the value in it. -/
inductive VariableError where
  | noAssignment (text : List Char)
  | badName (name : List Char)
  | unclosedList (text : List Char)
  | nestedList
  | unclosedText (text : List Char)
  | unclosedTextInList (inner : List Char)
  | bind (e : BindError)
deriving DecidableEq, Repr

/-- The wording of an error. -/
def VariableError.message : VariableError → String
  | noAssignment text =>
    let text := String.ofList text
    s!"expected name=value, got '{text}'"
  | badName name =>
    let name := String.ofList name
    s!"'{name}' is not a valid variable name"
  | unclosedList text =>
    let text := String.ofList text
    s!"unterminated list '{text}'"
  | nestedList => "nested lists are not supported"
  | unclosedText text =>
    let text := String.ofList text
    s!"unterminated quoted text {text}"
  | unclosedTextInList inner =>
    let inner := String.ofList inner
    s!"unterminated quoted text in list [{inner}]"
  | bind e => e.message

namespace Written

/-- The text in quotes, behind the opening one. The closing one must be the last character. A quote
behind a backslash does not close. -/
def unquote? : List Char → Option (List Char)
  | [] => none
  | '\\' :: '\'' :: s => (unquote? s).map ('\'' :: ·)
  | '\'' :: s => if s.isEmpty then some [] else none
  | c :: s => (unquote? s).map (c :: ·)

/-- The value of a text without quotes. A real has at least one digit, so that the words for infinity
and for no number are texts. -/
def readBare (s : List Char) : Value :=
  match String.ofList s with
  | "null" => .null
  | "true" => .boolean true
  | "false" => .boolean false
  | text =>
    match Integer.read? s, Real.read? s with
    | some n, _ => .integer n
    | none, some x => if s.any Char.isDigit then .real x else .text text
    | none, none => .text text

/-- The value of a text that is no list. -/
def readScalar (s : List Char) : Except VariableError Value :=
  match s with
  | '\'' :: rest =>
    match unquote? rest with
    | some text => .ok (.text (String.ofList text))
    | none => .error (.unclosedText s)
  | s => .ok (readBare s)

/-- The parts of a text between commas outside quotes, without the blanks around them; `before` holds
the characters of the first part read so far, the last one first. Nothing if a quote is left open.
Inside quotes a backslash keeps the character behind it from closing them. -/
def splitItems? (inQuotes : Bool) (before : List Char) : List Char → Option (List (List Char))
  | [] => if inQuotes then none else some [Text.trim before.reverse]
  | '\'' :: s => splitItems? (!inQuotes) ('\'' :: before) s
  | ',' :: s =>
    if inQuotes then splitItems? true (',' :: before) s
    else (splitItems? false [] s).map (Text.trim before.reverse :: ·)
  | '\\' :: c :: s =>
    if inQuotes then splitItems? true (c :: '\\' :: before) s
    else splitItems? false ('\\' :: before) (c :: s)
  | c :: s => splitItems? inQuotes (c :: before) s
termination_by s => s.length

/-- The value of a text between the commas of a list. -/
def readItem (s : List Char) : Except VariableError Value :=
  if s.head? = some '[' then .error .nestedList else readScalar s

/-- The items of a list, from what stands between its brackets. -/
def readItems (inner : List Char) : Except VariableError (List Value) :=
  if (Text.trim inner).isEmpty then .ok []
  else match splitItems? false [] inner with
    | none => .error (.unclosedTextInList inner)
    | some items => items.mapM readItem

/-- The value of a text. -/
def read (s : List Char) : Except VariableError Value :=
  match s with
  | '[' :: rest =>
    match rest.getLast? with
    | some ']' => (readItems rest.dropLast).map .list
    | _ => .error (.unclosedList s)
  | s => readScalar s

end Written

end Stencil
