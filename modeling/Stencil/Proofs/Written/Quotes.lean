import Stencil.Proofs.Scanning.Slices
import Stencil.Variables.Written

/-!
# Texts in quotes

A text is put in quotes with a backslash before each quote in it (`Written.quote`). What is read from
quotes is what was put there, and nothing else is read: a scanner stops behind the closing quote
(`Scan.quoted?_eq_some_iff`), and a written value has to end there (`Written.unquote?_eq_some_iff`). So
the same texts in quotes are read by scripts and outside of them (`Written.read_iff_isOneText`). The
texts that can be put in quotes are those that do not end in a backslash, which would keep the closing
quote from closing.
-/

namespace Stencil

namespace Written

variable {s text rest : List Char} {c : Char}

/-- A text as it stands between quotes, each quote in it behind a backslash. -/
def escape : List Char → List Char
  | [] => []
  | c :: s => if c = '\'' then '\\' :: '\'' :: escape s else c :: escape s

/-- A text in quotes. -/
def quote (text : List Char) : List Char := '\'' :: (escape text ++ ['\''])

/-- A text that can be put in quotes. -/
def Quotable (text : List Char) : Prop := text.getLast? ≠ some '\\'

instance (text : List Char) : Decidable (Quotable text) := inferInstanceAs (Decidable (_ ≠ _))

/-- A quote is put behind a backslash. -/
theorem escape_quote (s : List Char) : escape ('\'' :: s) = '\\' :: '\'' :: escape s :=
  if_pos rfl

/-- Any other character stays. -/
theorem escape_cons (h : c ≠ '\'') : escape (c :: s) = c :: escape s :=
  if_neg h

/-- A text can be put in quotes where the rest of it can, and if that is nothing, unless it is a
backslash. -/
theorem quotable_cons : Quotable (c :: s) ↔ Quotable s ∧ (s = [] → c ≠ '\\') := by
  cases s with
  | nil => simp [Quotable]
  | cons d s => simp [Quotable]

/-- Only backslashes are added. -/
theorem mem_escape {d : Char} (h : d ∈ escape s) : d = '\\' ∨ d ∈ s := by
  induction s with
  | nil => exact .inr h
  | cons c s ih =>
    by_cases hc : c = '\''
    · rw [hc, escape_quote, List.mem_cons, List.mem_cons] at h
      rcases h with hd | hd | hd
      · exact .inl hd
      · exact .inr (List.mem_cons.mpr (.inl (hd.trans hc.symm)))
      · exact (ih hd).imp_right (List.mem_cons_of_mem c)
    · rw [escape_cons hc, List.mem_cons] at h
      rcases h with hd | hd
      · exact .inr (List.mem_cons.mpr (.inl hd))
      · exact (ih hd).imp_right (List.mem_cons_of_mem c)

/-- No closing quote stands at the front of a text in quotes that is not empty. -/
theorem head_escape (h : s ≠ []) : ∀ c ∈ (escape s ++ rest).head?, c ≠ '\'' := by
  intro c hc
  cases s with
  | nil => exact absurd rfl h
  | cons d s =>
    by_cases hd : d = '\''
    · rw [hd, escape_quote] at hc
      rw [← Option.some.inj hc]
      decide
    · rw [escape_cons hd] at hc
      rwa [← Option.some.inj hc]

end Written

/-! ## Up to the closing quote -/

namespace Scan

open Stencil.Written

variable {s text behind : List Char} {width : Nat}

/-- **What was put in quotes is read from them**, whatever follows. -/
theorem quoted?_escape (h : Quotable text) (behind : List Char) :
    quoted? (escape text ++ '\'' :: behind) = some (text, (escape text).length + 1) := by
  induction text with
  | nil => rfl
  | cons c text ih =>
    obtain ⟨htext, hlast⟩ := quotable_cons.mp h
    by_cases hc : c = '\''
    · subst hc
      rw [escape_quote, List.cons_append, List.cons_append, quoted?, ih htext]
      rfl
    · have hescape : ∀ s, c = '\\' → escape text ++ '\'' :: behind = '\'' :: s → False := by
        intro s hbackslash hs
        have hne : text ≠ [] := fun hnil => hlast hnil hbackslash
        exact head_escape hne '\'' (by rw [hs]; rfl) rfl
      rw [escape_cons hc, List.cons_append, quoted?.eq_4 c _ hc hescape, ih htext]
      rfl

/-- Characters in quotes mean the text that they are written for. -/
theorem eq_escape_of_means {inner : List Char}
    (h : Slice.Means '\'' ['\''] ('\'' :: behind) inner text) :
    Quotable text ∧ inner = escape text := by
  induction h with
  | nil => exact ⟨nofun, rfl⟩
  | escape hc _ ih =>
    obtain rfl := List.mem_singleton.mp hc
    obtain ⟨hquotable, rfl⟩ := ih
    exact ⟨quotable_cons.mpr ⟨hquotable, fun _ => by decide⟩, (escape_quote _).symm⟩
  | plain hc hescape _ ih =>
    obtain ⟨hquotable, rfl⟩ := ih
    refine ⟨quotable_cons.mpr ⟨hquotable, ?_⟩, (escape_cons hc).symm⟩
    rintro rfl hbackslash
    exact hescape hbackslash '\'' rfl List.mem_cons_self

/-- **A scanner reads exactly what was put in quotes**, up to the closing one. -/
theorem quoted?_eq_some_iff : quoted? s = some (text, width) ↔
    Quotable text ∧ width = (escape text).length + 1 ∧ ∃ behind, s = escape text ++ '\'' :: behind := by
  constructor
  · intro h
    obtain ⟨inner, behind, rfl, rfl, hmeans⟩ := means_quoted? h
    obtain ⟨hquotable, rfl⟩ := eq_escape_of_means hmeans
    exact ⟨hquotable, rfl, behind, rfl⟩
  · rintro ⟨hquotable, rfl, behind, rfl⟩
    exact quoted?_escape hquotable behind

/-- Up to the closing quote that ends the characters. -/
theorem quoted?_eq_some_length_iff :
    quoted? s = some (text, s.length) ↔ Quotable text ∧ s = escape text ++ ['\''] := by
  rw [quoted?_eq_some_iff]
  constructor
  · rintro ⟨hquotable, hlength, behind, rfl⟩
    rw [List.length_append, List.length_cons] at hlength
    obtain rfl : behind = [] := List.length_eq_zero_iff.mp (by omega)
    exact ⟨hquotable, rfl⟩
  · rintro ⟨hquotable, rfl⟩
    exact ⟨hquotable, List.length_append, [], rfl⟩

/-- A quote inside the braces starts a text in quotes. -/
theorem ahead_quote (s : List Char) : ahead .program '\'' s = quotedText [] s := by
  show inside '\'' s = _
  unfold inside
  rw [if_neg (by decide +kernel), if_neg (by decide +kernel), if_pos rfl]

end Scan

/-! ## Up to the end -/

namespace Written

open Stencil.Scan (quoted? quoted?_eq_some_length_iff)

variable {s text : List Char}

/-- The closing quote of a written value is that of a scanner, and nothing may follow it. -/
theorem unquote?_eq (s : List Char) :
    unquote? s = (quoted? s).bind fun found => if found.2 = s.length then some found.1 else none := by
  induction s using unquote?.induct with
  | case1 => rfl
  | case2 s ih =>
    rw [unquote?, quoted?, ih]
    cases quoted? s with
    | none => rfl
    | some found => simp [apply_ite]
  | case3 s hempty =>
    obtain rfl := List.isEmpty_iff.mp hempty
    rfl
  | case4 s hempty =>
    rw [List.isEmpty_iff] at hempty
    simp [unquote?, quoted?, hempty]
  | case5 c s hescape hquote ih =>
    rw [unquote?.eq_4 c s hescape hquote, quoted?.eq_4 c s hquote hescape, ih]
    cases quoted? s with
    | none => rfl
    | some found => simp [apply_ite]

/-- **A written value is read exactly from what was put in quotes.** -/
theorem unquote?_eq_some_iff :
    unquote? s = some text ↔ Quotable text ∧ s = escape text ++ ['\''] := by
  rw [unquote?_eq, ← quoted?_eq_some_length_iff]
  cases quoted? s with
  | none => simp
  | some found =>
    obtain ⟨text', width⟩ := found
    simp [and_comm]

/-- What begins with a quote is a text or nothing. -/
theorem readScalar_quote_cons (s : List Char) : readScalar ('\'' :: s) =
    match unquote? s with
    | some text => .ok (.text (String.ofList text))
    | none => .error (.unclosedText ('\'' :: s)) := rfl

private theorem read_quote_cons (s : List Char) : read ('\'' :: s) = readScalar ('\'' :: s) := rfl

/-- What starts with a quote is read as a text exactly where it is one in quotes, up to its end. -/
theorem readScalar_quote_cons_eq_ok {v : Value} : readScalar ('\'' :: s) = .ok v ↔
    ∃ text : String, v = .text text ∧ Quotable text.toList ∧ s = escape text.toList ++ ['\''] := by
  simp only [← unquote?_eq_some_iff, readScalar_quote_cons]
  cases unquote? s with
  | none => simp
  | some text =>
    simp only [Except.ok.injEq, Option.some.injEq]
    constructor
    · rintro rfl
      exact ⟨_, rfl, String.toList_ofList.symm⟩
    · rintro ⟨text', rfl, rfl⟩
      rw [String.ofList_toList]

end Written

/-! ## Scripts -/

/-- A quote inside the braces starts a text literal, which ends behind the closing quote. -/
theorem Cursor.next_quote {offset : Nat} {s : List Char} {t : Token} {after : Cursor} :
    next ⟨.program, offset, '\'' :: s⟩ = (.ok t, after) ↔
      ∃ text width, Scan.quoted? s = some (text, width) ∧
        t = ⟨.textLiteral, String.ofList text, offset⟩ ∧
        after = ⟨.program, offset + (width + 1), s.drop width⟩ := by
  have hmode : modeAt .program '\'' = .program := rfl
  rw [next_eq_ok, behind, hmode, Scan.ahead_quote, Scan.quotedText]
  cases Scan.quoted? s with
  | none => simp
  | some found =>
    obtain ⟨text, width⟩ := found
    have hwidth : ([] : List Char).length + 1 + width = width + 1 := by
      rw [List.length_nil, Nat.zero_add, Nat.add_comm]
    simp only [hwidth, List.nil_append, List.drop_succ_cons]
    constructor
    · rintro ⟨kind, text', hfound, rfl, rfl⟩
      cases hfound
      exact ⟨text, width, rfl, rfl, rfl⟩
    · rintro ⟨text', width', hfound, rfl, rfl⟩
      cases hfound
      exact ⟨_, _, rfl, rfl, rfl⟩

namespace Lexer

variable {s : List Char} {text : String}

/-- Read inside the braces the characters are one text literal with this text, and nothing more. -/
def IsOneText (source : List Char) (text : String) : Prop :=
  ∃ first last lexer, (start .program source).drain =
    ([⟨.textLiteral, text, first⟩, ⟨.eof, "", last⟩], none, lexer)

private theorem isOneText_iff_scans {source : List Char} : IsOneText source text ↔ ∃ first after,
    Cursor.Scans (.start .program source) [⟨.textLiteral, text, first⟩] after ∧ after.rest = [] := by
  constructor
  · rintro ⟨first, last, lexer, hdrain⟩
    rcases hfound : (Cursor.start .program source).drain with ⟨tokens, flaw, after⟩
    have hcursor : (start .program source).cursor.drain = (tokens, flaw, after) := hfound
    rw [drain, hcursor] at hdrain
    cases hdrain
    rcases Cursor.scans_of_drain hfound with ⟨-, hend, ts, hts, hscans⟩ | ⟨e, -, hflaw, -⟩
    · have hsplit : [⟨.textLiteral, text, first⟩] ++ [⟨.eof, "", last⟩] = ts ++ [Token.eof after.offset] :=
        hts
      obtain ⟨rfl, -⟩ := List.append_inj' hsplit rfl
      exact ⟨first, after, hscans, hend⟩
    · cases hflaw
  · rintro ⟨first, after, hscans, hend⟩
    have hcursor : (start .program source).cursor.drain = _ := hscans.drain hend
    exact ⟨first, after.offset, _, by rw [drain, hcursor]; rfl⟩

open Stencil.Written in
private theorem isOneText_quote_cons : IsOneText ('\'' :: s) text ↔
    Quotable text.toList ∧ s = escape text.toList ++ ['\''] := by
  rw [isOneText_iff_scans]
  constructor
  · rintro ⟨first, after, hscans, hend⟩
    obtain ⟨mid, -, hnext, hmore⟩ := hscans.cons
    obtain ⟨text', width, hquoted, htext, rfl⟩ := Cursor.next_quote.mp hnext
    obtain ⟨hquotable, rfl, behind, rfl⟩ := Scan.quoted?_eq_some_iff.mp hquoted
    cases hmore
    cases htext
    have hbehind : (escape text' ++ '\'' :: behind).drop ((escape text').length + 1) = [] := hend
    rw [List.drop_append, List.drop_eq_nil_of_le (Nat.le_succ _)] at hbehind
    obtain rfl : behind = [] := by simpa using hbehind
    rw [String.toList_ofList]
    exact ⟨hquotable, rfl⟩
  · intro hquoted
    have hscan := Scan.quoted?_eq_some_length_iff.mpr hquoted
    have hnext : Cursor.next ⟨.program, 0, '\'' :: s⟩ = (.ok ⟨.textLiteral, text, 0⟩, _) :=
      Cursor.next_quote.mpr ⟨_, _, hscan, by rw [String.ofList_toList], rfl⟩
    exact ⟨0, _, .token (List.cons_ne_nil _ _) hnext .refl, List.drop_length⟩

end Lexer

namespace Written

/-- **Texts in quotes are read alike in scripts and outside of them.** What begins with a quote is the
written form of a text exactly if a script has it for one text literal with this text, and is refused
otherwise. The texts that are read from quotes are those that do not end in a backslash. -/
theorem read_iff_isOneText :
    (∀ s text, read ('\'' :: s) = .ok (.text text) ↔ Lexer.IsOneText ('\'' :: s) text) ∧
    (∀ s, (∃ text, read ('\'' :: s) = .ok (.text text)) ∨
      read ('\'' :: s) = .error (.unclosedText ('\'' :: s))) ∧
    ∀ text, (∃ s, read ('\'' :: s) = .ok (.text text)) ↔ text.toList.getLast? ≠ some '\\' := by
  have htext (s : List Char) (text : String) : read ('\'' :: s) = .ok (.text text) ↔
      Quotable text.toList ∧ s = escape text.toList ++ ['\''] := by
    rw [read_quote_cons, readScalar_quote_cons_eq_ok]
    simp
  refine ⟨fun s text => ?_, fun s => ?_, fun text => ?_⟩
  · rw [htext, Lexer.isOneText_quote_cons]
  · rw [read_quote_cons, readScalar_quote_cons]
    cases unquote? s with
    | none => exact .inr rfl
    | some text => exact .inl ⟨_, rfl⟩
  · simp only [htext, exists_and_left, exists_eq, and_true]
    rfl

end Written

end Stencil
