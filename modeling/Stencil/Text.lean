import Stencil.Unicode.Letter
import Stencil.Unicode.Case

/-!
# Operations on text

Text is a sequence of characters, and lengths and positions count characters. Each operation is a
function on the list of characters. Case is that of whole texts: one character may become several,
and the capital sigma has its final form where a word ends.
-/

namespace Stencil.Text

/-- Without the blanks at the front. -/
def trimStart (s : List Char) : List Char := s.dropWhile Unicode.isBlank

/-- Without the blanks at either end. -/
def trim (s : List Char) : List Char := (trimStart (trimStart s).reverse).reverse

/-- Is `part` somewhere inside the text? The empty text is inside every text. -/
def contains (part : List Char) : List Char → Bool
  | [] => part.isEmpty
  | c :: rest => part.isPrefixOf (c :: rest) || contains part rest

/-- What follows `part` at the front of a text. -/
def dropPrefix? : (part s : List Char) → Option (List Char)
  | [], s => some s
  | _ :: _, [] => none
  | p :: part, c :: s => if p = c then dropPrefix? part s else none

/-- A part that is taken off is missing from the length. -/
private theorem length_of_dropPrefix? {part s rest : List Char} (h : dropPrefix? part s = some rest) :
    rest.length + part.length = s.length := by
  induction part generalizing s with
  | nil => cases h; simp
  | cons p part ih =>
    cases s with
    | nil => cases h
    | cons c s =>
      simp only [dropPrefix?] at h
      split at h
      · have := ih h; simp only [List.length_cons]; omega
      · cases h

/-- Every occurrence of the non-empty text `p :: part` replaced, from the left and without overlap. -/
def replaceAll (p : Char) (part new : List Char) : List Char → List Char
  | [] => []
  | c :: s =>
    match _h : dropPrefix? (p :: part) (c :: s) with
    | some rest => new ++ replaceAll p part new rest
    | none => c :: replaceAll p part new s
termination_by s => s.length
decreasing_by
  · have := length_of_dropPrefix? _h; simp only [List.length_cons] at this ⊢; omega
  · simp

/-- Is the first character that a search does not step over a cased one? -/
def meetsCased (s : List Char) : Bool :=
  match s.dropWhile Unicode.isCaseIgnorable with
  | c :: _ => Unicode.isCased c
  | [] => false

/-- Lower case of what follows the characters `before` (the nearest one first). A capital sigma ends
a word, and has its final form, when a cased character comes before it and none comes after. -/
def lowerAfter (before : List Char) : List Char → List Char
  | [] => []
  | c :: rest =>
    let small :=
      if c = 'Σ' && meetsCased before && !meetsCased rest then ['ς'] else Unicode.lower c
    small ++ lowerAfter (c :: before) rest

/-- Lower case. -/
def lower (s : List Char) : List Char := lowerAfter [] s

/-- Upper case. -/
def upper (s : List Char) : List Char := s.flatMap Unicode.upper

/-- The first character in upper case and the rest in lower case. -/
def capitalize : List Char → List Char
  | [] => []
  | c :: rest => Unicode.upper c ++ lower rest

/-- The lines of a text: each ends at a line feed, which with one carriage return before it is not
part of the line. After the last line feed there is a line only if something is left. -/
def lines (s : List Char) : List (List Char) :=
  go [] s
where
  /-- `line` holds the characters of the line so far, the latest first. -/
  go (line : List Char) : List Char → List (List Char)
    | [] => if line.isEmpty then [] else [line.reverse]
    | '\n' :: rest => (chomp line).reverse :: go [] rest
    | c :: rest => go (c :: line) rest
  /-- A line, written backwards, without the carriage return at its end. -/
  chomp : List Char → List Char
    | '\r' :: line => line
    | line => line

end Stencil.Text
