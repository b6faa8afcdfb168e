import Stencil.Token
import Stencil.Unicode.Letter

/-!
# Reading tokens off a text

A text is read in one of two modes. Outside the braces everything up to the next brace that opens a
program is one text literal, in which a backslash takes away the meaning of an opening brace or of a
backslash behind it. Inside, there are blanks, numbers, quoted texts, names and operators. An opening
brace enters the inside and a closing one leaves it.

Each scanner says what stands at the front of the remaining characters and how many of them it covers
(`Scan`), and `Cursor.next` moves on by that many. `Cursor.rest_lt_of_next` says that a token other
than the one for the end always takes at least one character, which is why `Cursor.drain` ends.
-/

namespace Stencil

/-- Where a text is being read: outside the braces or inside them. -/
inductive Mode where
  | text | program
deriving DecidableEq, Repr, Inhabited

/-- What can be wrong with the characters of a token. -/
inductive Flaw where
  /-- No token starts with this character. -/
  | unexpected (c : Char)
  /-- The closing quote is missing. -/
  | unterminated
deriving DecidableEq, Repr

/-- A flaw and where the flawed token starts. -/
structure LexError where
  flaw : Flaw
  offset : Nat
deriving DecidableEq, Repr

/-- The wording of an error. -/
def LexError.message (e : LexError) : String :=
  match e.flaw with
  | .unexpected c => s!"invalid character '{c}' at position {e.offset}"
  | .unterminated =>
    s!"unterminated text literal starting at position {e.offset}; missing closing quote (')"

/-- What stands at the front of some characters, and how many of them it covers. -/
structure Scan where
  outcome : Except Flaw (Kind × List Char)
  width : Nat

namespace Scan

/-- Can a name start with this character? -/
def startsName (c : Char) : Bool := Unicode.isAlphabetic c || c == '_'

/-- Can a name go on with this character? -/
def continuesName (c : Char) : Bool := Unicode.isAlphanumeric c || c == '_'

/-- Does this character end a numeral that stands for itself? -/
def endsNumeral (c : Char) : Bool := Unicode.isBlank c || Kind.startsOperator c

/-- A token whose text is exactly the characters it covers. -/
def verbatim (kind : Kind) (text : List Char) : Scan := ⟨.ok (kind, text), text.length⟩

/-- The literal text up to the next opening brace that counts, and its width. -/
def literal : List Char → List Char × Nat
  | [] => ([], 0)
  | '{' :: _ => ([], 0)
  | '\\' :: '{' :: s => let (text, width) := literal s; ('{' :: text, width + 2)
  | '\\' :: '\\' :: s => let (text, width) := literal s; ('\\' :: text, width + 2)
  | c :: s => let (text, width) := literal s; (c :: text, width + 1)

/-- The text up to the closing quote, behind the opening one, and the width with the closing quote. A
quote behind a backslash does not close. -/
def quoted? : List Char → Option (List Char × Nat)
  | [] => none
  | '\'' :: _ => some ([], 1)
  | '\\' :: '\'' :: s => (quoted? s).map fun (text, width) => ('\'' :: text, width + 2)
  | c :: s => (quoted? s).map fun (text, width) => (c :: text, width + 1)

/-- A text literal: the characters `front` and then a quoted text, whose opening quote stands in front
of `s`. -/
def quotedText (front s : List Char) : Scan :=
  match quoted? s with
  | some (text, width) => ⟨.ok (.textLiteral, front ++ text), front.length + 1 + width⟩
  | none => ⟨.error .unterminated, front.length + 1 + s.length⟩

/-- The numeral at the front, with the kind of number it is, and what follows it. -/
def numeral (s : List Char) : Kind × List Char × List Char :=
  let whole := s.takeWhile Unicode.isDecimal
  match s.dropWhile Unicode.isDecimal with
  | '.' :: rest =>
    (.realConst, whole ++ '.' :: rest.takeWhile Unicode.isDecimal, rest.dropWhile Unicode.isDecimal)
  | rest => (.integerConst, whole, rest)

/-- A number; or, where characters that end no numeral follow the digits, a text that starts with
them. -/
def number (s : List Char) : Scan :=
  let (kind, digits, rest) := numeral s
  match rest with
  | [] => verbatim kind digits
  | '\'' :: rest => quotedText digits rest
  | c :: _ =>
    if endsNumeral c then verbatim kind digits
    else
      verbatim .textLiteral (digits ++ rest.takeWhile fun c => !endsNumeral c && c != '\'')

/-- A name, or a reserved word. -/
def word (s : List Char) : Scan :=
  let name := s.takeWhile continuesName
  verbatim ((Kind.ofSpelling? name).getD .identifier) name

/-- `spelled`, extended with characters from the front for as long as that is a spelling. -/
def longestSpelling (spelled : List Char) : List Char → List Char
  | [] => spelled
  | c :: s =>
    if (Kind.ofSpelling? (spelled ++ [c])).isSome then longestSpelling (spelled ++ [c]) s
    else spelled

/-- The operator that starts with `c`. -/
def operator (c : Char) (s : List Char) : Scan :=
  let spelled := longestSpelling [c] s
  match Kind.ofSpelling? spelled with
  | some kind => verbatim kind spelled
  | none => ⟨.error (.unexpected c), spelled.length⟩

/-- The token at the front of `c :: s` inside the braces. A character that starts no token is left
where it is. -/
def inside (c : Char) (s : List Char) : Scan :=
  if Unicode.isBlank c then verbatim .whitespace (c :: s.takeWhile Unicode.isBlank)
  else if Unicode.isDecimal c then number (c :: s)
  else if c = '\'' then quotedText [] s
  else if startsName c then word (c :: s)
  else if Kind.startsOperator c then operator c s
  else ⟨.error (.unexpected c), 0⟩

/-- The token at the front outside the braces. -/
def outside (s : List Char) : Scan :=
  let (text, width) := literal s
  ⟨.ok (.textLiteral, text), width⟩

end Scan

/-- A place in a text that is being read: the mode there, the number of characters before it and the
characters from there on. -/
structure Cursor where
  mode : Mode
  offset : Nat
  rest : List Char

namespace Cursor

/-- The beginning of a text. -/
def start (mode : Mode) (source : List Char) : Cursor := ⟨mode, 0, source⟩

/-- The mode in which the token that starts with `c` is read, which is also the mode after it. -/
def modeAt (mode : Mode) (c : Char) : Mode :=
  if c = '{' then .program
  else if c = '}' then .text
  else mode

/-- The token here, or what is wrong with it, and the place after it. -/
def next (here : Cursor) : Except LexError Token × Cursor :=
  match here.rest with
  | [] => (.ok (.eof here.offset), here)
  | c :: s =>
    let scan :=
      if here.mode = .text && c ≠ '{' then Scan.outside (c :: s) else Scan.inside c s
    let after : Cursor :=
      ⟨modeAt here.mode c, here.offset + scan.width, (c :: s).drop scan.width⟩
    match scan.outcome with
    | .ok (kind, text) => (.ok ⟨kind, String.ofList text, here.offset⟩, after)
    | .error flaw => (.error ⟨flaw, here.offset⟩, after)

end Cursor

namespace Scan

private theorem width_literal_pos {c : Char} {s : List Char} (h : c ≠ '{') :
    0 < (literal (c :: s)).2 := by
  unfold literal
  split <;> simp_all

private theorem width_quotedText_pos (front s : List Char) : 0 < (quotedText front s).width := by
  unfold quotedText
  split <;> simp only <;> omega

private theorem digits_numeral_ne_nil {c : Char} {s : List Char} (h : Unicode.isDecimal c = true) :
    (numeral (c :: s)).2.1 ≠ [] := by
  simp only [numeral]
  split <;> simp [h]

private theorem width_number_pos {c : Char} {s : List Char} (h : Unicode.isDecimal c = true) :
    0 < (number (c :: s)).width := by
  have digits := List.length_pos_iff.mpr (digits_numeral_ne_nil (s := s) h)
  simp only [number]
  split
  · simpa [verbatim] using digits
  · exact width_quotedText_pos _ _
  · split
    · simpa [verbatim] using digits
    · simp only [verbatim, List.length_append]
      exact Nat.add_pos_left digits _

private theorem width_word_pos {c : Char} {s : List Char} (h : startsName c = true) :
    0 < (word (c :: s)).width := by
  have continues : continuesName c = true := by
    simp only [startsName, continuesName, Unicode.isAlphanumeric, Bool.or_eq_true] at h ⊢
    rcases h with h | h
    · exact .inl (.inl h)
    · exact .inr h
  simp [word, verbatim, continues]

/-- A spelling is not made shorter. -/
theorem le_length_longestSpelling (spelled s : List Char) :
    spelled.length ≤ (longestSpelling spelled s).length := by
  induction s generalizing spelled with
  | nil => simp [longestSpelling]
  | cons c s ih =>
    unfold longestSpelling
    split
    · have := ih (spelled ++ [c]); simp only [List.length_append] at this; omega
    · exact Nat.le_refl _

/-- An operator is one character wide at least. -/
theorem width_operator_pos (c : Char) (s : List Char) : 0 < (operator c s).width := by
  have := le_length_longestSpelling [c] s
  simp only [operator]
  split <;> simp_all [verbatim] <;> omega

/-- A token inside the braces covers at least one character. -/
theorem width_inside_pos {c : Char} {s : List Char} {token : Kind × List Char}
    (h : (inside c s).outcome = .ok token) : 0 < (inside c s).width := by
  unfold inside at h ⊢
  split
  · simp [verbatim]
  · split
    · next decimal => exact width_number_pos decimal
    · split
      · exact width_quotedText_pos _ _
      · split
        · next starts => exact width_word_pos starts
        · split
          · exact width_operator_pos _ _
          · simp_all

end Scan

namespace Cursor

/-- A token other than the one for the end takes at least one character. -/
theorem rest_lt_of_next {here after : Cursor} {token : Token}
    (h : here.next = (.ok token, after)) (here_rest : here.rest ≠ []) :
    after.rest.length < here.rest.length := by
  unfold next at h
  split at h
  · contradiction
  · next c s rest =>
    rw [rest]
    simp only at h
    generalize scanned : (if here.mode = .text && c ≠ '{' then Scan.outside (c :: s)
      else Scan.inside c s) = scan at h
    have pos : ∀ token, scan.outcome = .ok token → 0 < scan.width := by
      intro token found
      split at scanned
      · next outside =>
        simp only [Bool.and_eq_true, decide_eq_true_eq] at outside
        subst scanned
        exact Scan.width_literal_pos outside.2
      · subst scanned
        exact Scan.width_inside_pos found
    split at h
    · next found =>
      have := pos _ found
      cases h
      simp only [List.length_drop, List.length_cons]
      omega
    · cases h

/-- The tokens from here to the end, that for the end included, or those before the first flaw and
what is wrong there; and the place where reading stopped. -/
def drain (here : Cursor) : List Token × Option LexError × Cursor :=
  if _h : here.rest = [] then ([.eof here.offset], none, here)
  else
    match _next : here.next with
    | (.ok token, after) =>
      let (tokens, flaw, last) := drain after
      (token :: tokens, flaw, last)
    | (.error e, after) => ([], some e, after)
termination_by here.rest.length
decreasing_by exact rest_lt_of_next _next _h

end Cursor

/-- A text with the place that reading has come to. -/
structure Lexer where
  /-- The mode in which reading starts. -/
  mode : Mode
  source : List Char
  cursor : Cursor := .start mode source

namespace Lexer

/-- Reading a text from its beginning. -/
def start (mode : Mode) (source : List Char) : Lexer := { mode, source }

/-- The next token, or what is wrong with it. -/
def next (lexer : Lexer) : Except LexError Token × Lexer :=
  let (found, after) := lexer.cursor.next
  (found, { lexer with cursor := after })

/-- The tokens up to the end, or up to the first flaw and what is wrong there. -/
def drain (lexer : Lexer) : List Token × Option LexError × Lexer :=
  let (tokens, flaw, after) := lexer.cursor.drain
  (tokens, flaw, { lexer with cursor := after })

/-- Back at the beginning. -/
def rewind (lexer : Lexer) : Lexer := start lexer.mode lexer.source

/-- At the beginning of another text. -/
def reset (lexer : Lexer) (source : List Char) : Lexer := start lexer.mode source

end Lexer

end Stencil
