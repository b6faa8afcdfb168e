import Stencil.Proofs.Scanning.ClosingBrace
import Mathlib.Data.List.Basic
import Mathlib.Data.List.TakeWhile

/-!
# What tokens cover

A token covers a slice of its text. What slices there are and what text a token has is said here by its
kind, without the scanners (`Slice.Fits`): blanks and names are runs, neither end of which could be
further out; an operator is as long as it can be; in a literal text some backslashes are left out. What
is scanned fits (`Scan.covers_ahead`). For the front ends of runs this needs what stands in front of
them, which is known since no two tokens meet within a run (`Slice.Fits.parted`).
-/

namespace Stencil

/-! ## Slices -/

/-- A slice of a text: its characters, with those before it and those behind it. -/
structure Slice where
  before : List Char
  chars : List Char
  behind : List Char

/-- The mode behind a token. -/
def Mode.after (mode : Mode) : Kind → Mode
  | .lBrace => .program
  | .rBrace => .text
  | _ => mode

namespace Slice

open Stencil.Scan (startsName continuesName endsNumeral)

/-- The slice from one place to another. -/
def of (source : List Char) (start stop : Nat) : Slice :=
  ⟨source.take start, source.extract start stop, source.drop stop⟩

/-- Characters of one sort, with none of the sort right before or right behind them. -/
structure IsRun (p : Char → Bool) (s : Slice) : Prop where
  ne_nil : s.chars ≠ []
  all : ∀ c ∈ s.chars, p c
  before : ∀ c ∈ s.before.getLast?, p c = false
  behind : ∀ c ∈ s.behind.head?, p c = false

/-- A run of characters of names that starts like a name. -/
structure IsName (s : Slice) : Prop extends IsRun continuesName s where
  starts : ∀ c ∈ s.chars.head?, startsName c

/-- Some digits. -/
def IsWhole (digits : List Char) : Prop :=
  digits ≠ [] ∧ ∀ c ∈ digits, Unicode.isDecimal c

/-- Some digits, a point, and digits or nothing. -/
def IsReal (digits : List Char) : Prop :=
  ∃ whole fraction, digits = whole ++ '.' :: fraction ∧ IsWhole whole ∧
    ∀ c ∈ fraction, Unicode.isDecimal c

/-- A number of one kind or the other. -/
def IsNumeral (digits : List Char) : Prop := IsWhole digits ∨ IsReal digits

/-- No spelling that the text goes on with from here is longer. -/
def IsLongest (s : Slice) : Prop :=
  ∀ entry ∈ Kind.spellings, entry.1 <+: s.chars ++ s.behind → entry.1.length ≤ s.chars.length

/-- **Characters mean a text**: a backslash is left out that stands in front of one of the `escaped`, read
from the left; and so read, none of them is one that stops the text. -/
inductive Means (stop : Char) (escaped behind : List Char) : List Char → List Char → Prop
  | nil : Means stop escaped behind [] []
  | escape {c : Char} {s text : List Char} : c ∈ escaped → Means stop escaped behind s text →
      Means stop escaped behind ('\\' :: c :: s) (c :: text)
  | plain {c : Char} {s text : List Char} : c ≠ stop →
      (c = '\\' → ∀ d ∈ (s ++ behind).head?, d ∉ escaped) → Means stop escaped behind s text →
      Means stop escaped behind (c :: s) (c :: text)

/-- A text outside the braces, up to the next opening one that counts or to the end. -/
def IsLiteral (text : List Char) (s : Slice) : Prop :=
  Means '{' ['{', '\\'] s.behind s.chars text ∧ ∀ c ∈ s.behind.head?, c = '{'

/-- A text in quotes, or a numeral and right behind it a text in quotes. -/
def IsQuoted (text : List Char) (s : Slice) : Prop :=
  ∃ digits inner quoted, s.chars = digits ++ '\'' :: (inner ++ ['\'']) ∧ text = digits ++ quoted ∧
    (digits = [] ∨ IsNumeral digits) ∧ Means '\'' ['\''] ('\'' :: s.behind) inner quoted

/-- A numeral and right behind it more that does not end it. -/
def IsBare (s : Slice) : Prop :=
  ∃ digits more, s.chars = digits ++ more ∧ IsNumeral digits ∧ more ≠ [] ∧
    (∀ c ∈ more, endsNumeral c = false ∧ c ≠ '\'') ∧
    ∀ c ∈ s.behind.head?, endsNumeral c = true ∨ c = '\''

/-- What a slice is that a token of a kind covers, which is also its text unless that is a literal. -/
def Shape (mode : Mode) (kind : Kind) (text : List Char) (s : Slice) : Prop :=
  match kind with
  | .eof => False
  | .whitespace => s.IsRun Unicode.isBlank
  | .integerConst => IsWhole s.chars ∧ ∀ c ∈ s.behind.head?, endsNumeral c
  | .realConst => IsReal s.chars ∧ ∀ c ∈ s.behind.head?, endsNumeral c
  | .textLiteral =>
    match mode with
    | .text => s.IsLiteral text
    | .program => s.IsQuoted text ∨ text = s.chars ∧ s.IsBare
  | .identifier => s.IsName ∧ ∀ kind, (s.chars, kind) ∉ Kind.spellings
  | .null | .false | .true => s.IsName ∧ (s.chars, kind) ∈ Kind.spellings
  | _ => s.IsLongest ∧ (s.chars, kind) ∈ Kind.spellings

/-- **A slice fits a token of this kind with this text.** -/
structure Fits (mode : Mode) (kind : Kind) (text : List Char) (s : Slice) : Prop where
  shape : Shape mode kind text s
  /-- Only in literals is anything left out. -/
  verbatim : kind ≠ .textLiteral → text = s.chars
  /-- Outside the braces there are literal texts, and braces that open. -/
  outside : mode = .text → kind = .textLiteral ∨ kind = .lBrace

end Slice

/-! ## Sorts of characters -/

/-- The code points of the blanks. -/
def Unicode.blankCodes : List Nat :=
  [0x9, 0xA, 0xB, 0xC, 0xD, 0x20, 0x85, 0xA0, 0x1680, 0x2000, 0x2001, 0x2002, 0x2003, 0x2004, 0x2005,
   0x2006, 0x2007, 0x2008, 0x2009, 0x200A, 0x2028, 0x2029, 0x202F, 0x205F, 0x3000]

/-- A blank is one of a few characters. -/
theorem Unicode.toNat_mem_blankCodes {c : Char} (h : isBlank c = true) : c.toNat ∈ blankCodes := by
  unfold isBlank at h
  split at h
  · obtain hspace | hcontrol := Bool.or_eq_true_iff.mp h
    · rw [eq_of_beq hspace]
      decide
    · simp only [Bool.and_eq_true, decide_eq_true_eq] at hcontrol
      simp only [blankCodes, List.mem_cons]
      omega
  · simp only [Ranges.covers, blankRanges, Ranges.has, Bool.or_false] at h
    simp only [blankCodes, List.mem_cons, List.not_mem_nil, or_false]
    grind

namespace Scan

variable {c : Char}

/-- What starts a name goes on with one. -/
theorem continuesName_of_startsName (h : startsName c = true) : continuesName c = true := by
  obtain hletter | hline := Bool.or_eq_true_iff.mp h
  · exact Bool.or_eq_true_iff.mpr (.inl (Bool.or_eq_true_iff.mpr (.inl hletter)))
  · exact Bool.or_eq_true_iff.mpr (.inr hline)

private theorem continuesName_of_isBlank (h : Unicode.isBlank c = true) : continuesName c = false := by
  have hall : ∀ n ∈ Unicode.blankCodes, continuesName (Char.ofNat n) = false := by decide +kernel
  rw [← Char.ofNat_toNat c]
  exact hall _ (Unicode.toNat_mem_blankCodes h)

/-- What goes on with a name is no blank. -/
theorem isBlank_of_continuesName (h : continuesName c = true) : Unicode.isBlank c = false := by
  refine Bool.eq_false_iff.mpr fun hblank => ?_
  exact Bool.false_ne_true ((continuesName_of_isBlank hblank).symm.trans h)

/-- What does not go on with a name does not start one. -/
private theorem startsName_of_continuesName (h : continuesName c = false) : startsName c = false := by
  refine Bool.eq_false_iff.mpr fun hstarts => ?_
  exact Bool.false_ne_true (h.symm.trans (continuesName_of_startsName hstarts))

private theorem startsName_of_startsOperator (h : Kind.startsOperator c = true) :
    startsName c = false := by
  have hall : ∀ entry ∈ Kind.spellings, entry.1.head? ≠ some '_' := by decide
  obtain ⟨entry, hentry, hfront⟩ := List.any_eq_true.mp h
  simp only [Bool.and_eq_true, beq_iff_eq, Bool.not_eq_true'] at hfront
  obtain ⟨hhead, hletter⟩ := hfront
  refine Bool.or_eq_false_iff.mpr ⟨hletter, beq_eq_false_iff_ne.mpr ?_⟩
  rintro rfl
  exact hall entry hentry hhead

/-- No name starts where a numeral ends. -/
theorem startsName_of_endsNumeral (h : endsNumeral c = true) : startsName c = false := by
  obtain hblank | hoperator := Bool.or_eq_true_iff.mp h
  · exact startsName_of_continuesName (continuesName_of_isBlank hblank)
  · exact startsName_of_startsOperator hoperator

/-- A digit is no blank. -/
theorem isBlank_of_isDecimal (h : Unicode.isDecimal c = true) : Unicode.isBlank c = false := by
  refine Bool.eq_false_iff.mpr fun hblank => ?_
  have hall : ∀ n ∈ Unicode.blankCodes, Unicode.isDecimal (Char.ofNat n) = false := by decide +kernel
  have hnone := hall _ (Unicode.toNat_mem_blankCodes hblank)
  rw [Char.ofNat_toNat, h] at hnone
  cases hnone

/-! ## What each scanner covers -/

section
variable {mode : Mode} {before l s digits rest text : List Char} {kind : Kind}

/-- A token at the front covers a slice that fits it. -/
def Covers (mode : Mode) (before l : List Char) (scan : Scan) : Prop :=
  ∀ kind text, scan.outcome = .ok (kind, text) → ∃ chars behind, l = chars ++ behind ∧
    scan.width = chars.length ∧ Slice.Fits mode kind text ⟨before, chars, behind⟩

private theorem covers_verbatim (hsplit : l = text ++ rest)
    (hshape : Slice.Shape .program kind text ⟨before, text, rest⟩) :
    Covers .program before l (verbatim kind text) := by
  intro _ _ h
  cases h
  exact ⟨text, rest, hsplit, rfl, hshape, fun _ => rfl, nofun⟩

/-! ### Literal texts -/

/-- A text outside the braces is what its characters mean, up to the next opening brace or the end. -/
private theorem means_literal (s : List Char) : ∃ chars behind, s = chars ++ behind ∧
    (literal s).2 = chars.length ∧
    Slice.Means '{' ['{', '\\'] behind chars (literal s).1 ∧ ∀ c ∈ behind.head?, c = '{' := by
  induction s using literal.induct with
  | case1 => exact ⟨[], [], rfl, rfl, .nil, fun c hc => absurd hc (Option.not_mem_none c)⟩
  | case2 s => exact ⟨[], '{' :: s, rfl, rfl, .nil, fun c hc => (Option.some.inj hc).symm⟩
  | case3 s _ _ hliteral ih =>
    obtain ⟨chars, behind, rfl, hwidth, hmeans, hbehind⟩ := ih
    rw [hliteral] at hwidth hmeans
    simp only [literal, hliteral]
    exact ⟨'\\' :: '{' :: chars, behind, rfl, congrArg (· + 2) hwidth,
      .escape (by decide) hmeans, hbehind⟩
  | case4 s _ _ hliteral ih =>
    obtain ⟨chars, behind, rfl, hwidth, hmeans, hbehind⟩ := ih
    rw [hliteral] at hwidth hmeans
    simp only [literal, hliteral]
    exact ⟨'\\' :: '\\' :: chars, behind, rfl, congrArg (· + 2) hwidth,
      .escape (by decide) hmeans, hbehind⟩
  | case5 c s hbrace hescaped hescaped' _ _ hliteral ih =>
    obtain ⟨chars, behind, rfl, hwidth, hmeans, hbehind⟩ := ih
    rw [hliteral] at hwidth hmeans
    rw [literal, hliteral]
    · refine ⟨c :: chars, behind, rfl, congrArg (· + 1) hwidth, .plain hbrace ?_ hmeans, hbehind⟩
      rintro hc d hd hmem
      obtain ⟨more, hmore⟩ := List.head?_eq_some_iff.mp hd
      obtain rfl | hd := List.mem_cons.mp hmem
      · exact hescaped more hc hmore
      · rw [List.mem_singleton.mp hd] at hmore
        exact hescaped' more hc hmore
    all_goals assumption

/-- A text outside the braces. -/
theorem covers_outside : Covers .text before s (outside s) := by
  intro _ _ h
  obtain ⟨chars, behind, hsplit, hwidth, hmeans, hbehind⟩ := means_literal s
  cases h
  exact ⟨chars, behind, hsplit, hwidth, ⟨hmeans, hbehind⟩, fun h => absurd rfl h, fun _ => .inl rfl⟩

/-- A text in quotes is what the characters before the closing quote mean. -/
theorem means_quoted? {width : Nat} (h : quoted? s = some (text, width)) :
    ∃ inner behind, s = inner ++ '\'' :: behind ∧ width = inner.length + 1 ∧
      Slice.Means '\'' ['\''] ('\'' :: behind) inner text := by
  induction s using quoted?.induct generalizing text width with
  | case1 => cases h
  | case2 s =>
    cases h
    exact ⟨[], s, rfl, rfl, .nil⟩
  | case3 s ih =>
    rw [quoted?] at h
    obtain ⟨_, hquoted, hfound⟩ := Option.map_eq_some_iff.mp h
    cases hfound
    obtain ⟨inner, behind, rfl, hwidth, hmeans⟩ := ih hquoted
    exact ⟨'\\' :: '\'' :: inner, behind, rfl, congrArg (· + 2) hwidth, .escape (by decide) hmeans⟩
  | case4 c s hquote hescape ih =>
    rw [quoted?.eq_4 c s hquote hescape] at h
    obtain ⟨_, hquoted, hfound⟩ := Option.map_eq_some_iff.mp h
    cases hfound
    obtain ⟨inner, behind, rfl, hwidth, hmeans⟩ := ih hquoted
    refine ⟨c :: inner, behind, rfl, congrArg (· + 1) hwidth, .plain hquote ?_ hmeans⟩
    rintro hc d hd hmem
    obtain ⟨more, hmore⟩ := List.head?_eq_some_iff.mp hd
    rw [List.mem_singleton.mp hmem] at hmore
    exact hescape more hc hmore

private theorem covers_quotedText (hdigits : digits = [] ∨ Slice.IsNumeral digits) :
    Covers .program before (digits ++ '\'' :: s) (quotedText digits s) := by
  intro kind text h
  unfold quotedText at h ⊢
  cases hquoted : quoted? s with
  | none =>
    rw [hquoted] at h
    cases h
  | some found =>
    obtain ⟨quoted, width⟩ := found
    rw [hquoted] at h
    cases h
    obtain ⟨inner, behind, rfl, rfl, hmeans⟩ := means_quoted? hquoted
    refine ⟨digits ++ '\'' :: (inner ++ ['\'']), behind, ?_, ?_, ?_, fun h => absurd rfl h, nofun⟩
    · simp only [List.append_assoc, List.cons_append, List.nil_append]
    · simp only [List.length_append, List.length_cons, List.length_nil]
      omega
    · exact .inl ⟨digits, inner, quoted, rfl, rfl, hdigits, hmeans⟩

/-! ### Numbers -/

/-- What stands behind the front that has a property does not start with it. -/
theorem head_dropWhile {p : Char → Bool} : ∀ c ∈ (l.dropWhile p).head?, p c = false := by
  intro c hc
  have hstop := List.head?_dropWhile_not p l
  rwa [Option.mem_def.mp hc] at hstop

/-- A numeral is of one kind or the other. -/
theorem shape_of_numeral {c : Char} (hc : Unicode.isDecimal c = true)
    (h : numeral (c :: s) = (kind, digits, rest)) :
    kind = .integerConst ∧ Slice.IsWhole digits ∨ kind = .realConst ∧ Slice.IsReal digits := by
  have hwhole : Slice.IsWhole ((c :: s).takeWhile Unicode.isDecimal) := by
    refine ⟨?_, fun _ => List.mem_takeWhile_imp⟩
    rw [List.takeWhile_cons_of_pos hc]
    exact List.cons_ne_nil _ _
  by_cases hpoint : ∃ more, (c :: s).dropWhile Unicode.isDecimal = '.' :: more
  · obtain ⟨more, hpoint⟩ := hpoint
    rw [numeral_of_point hpoint] at h
    cases h
    exact .inr ⟨rfl, _, _, rfl, hwhole, fun _ => List.mem_takeWhile_imp⟩
  · rw [numeral_of_no_point (not_exists.mp hpoint)] at h
    cases h
    exact .inl ⟨rfl, hwhole⟩

/-- A numeral with characters behind it that do not end it. -/
theorem covers_bare {d : Char} (hdigits : Slice.IsNumeral digits) (hends : endsNumeral d = false)
    (hquote : d ≠ '\'') : Covers .program before (digits ++ d :: s) (verbatim .textLiteral
      (digits ++ (d :: s).takeWhile fun c => !endsNumeral c && c != '\'')) := by
  let p : Char → Bool := fun c => !endsNumeral c && c != '\''
  have hp {c : Char} : p c = true ↔ endsNumeral c = false ∧ c ≠ '\'' := by
    simp only [p, Bool.and_eq_true, Bool.not_eq_true', bne_iff_ne]
  have hsplit : digits ++ d :: s = (digits ++ (d :: s).takeWhile p) ++ (d :: s).dropWhile p := by
    rw [List.append_assoc, List.takeWhile_append_dropWhile]
  refine covers_verbatim hsplit (.inr ⟨rfl, digits, _, rfl, hdigits, ?_, ?_, ?_⟩)
  · rw [List.takeWhile_cons_of_pos (hp.mpr ⟨hends, hquote⟩)]
    exact List.cons_ne_nil _ _
  · exact fun c hc => hp.mp (List.mem_takeWhile_imp hc)
  · intro c hc
    have hstop := head_dropWhile c hc
    by_cases hends : endsNumeral c = true
    · exact .inl hends
    · refine .inr (Decidable.byContradiction fun hc => ?_)
      exact Bool.false_ne_true (hstop.symm.trans (hp.mpr ⟨Bool.eq_false_iff.mpr hends, hc⟩))

/-- A number covers the numeral and what belongs to it. -/
private theorem covers_number {c : Char} (hc : Unicode.isDecimal c = true) :
    Covers .program before (c :: s) (number (c :: s)) := by
  rcases hnumeral : numeral (c :: s) with ⟨kind, digits, rest⟩
  have hkind := shape_of_numeral hc hnumeral
  have hdigits : Slice.IsNumeral digits := hkind.imp And.right And.right
  have hsplit := append_of_numeral hnumeral
  have halone (hends : ∀ d ∈ rest.head?, endsNumeral d = true) :
      Covers .program before (c :: s) (verbatim kind digits) := by
    refine covers_verbatim hsplit.symm ?_
    obtain ⟨rfl, hwhole⟩ | ⟨rfl, hreal⟩ := hkind
    · exact ⟨hwhole, hends⟩
    · exact ⟨hreal, hends⟩
  cases rest with
  | nil =>
    have hnumber : number (c :: s) = verbatim kind digits := by
      rw [number, hnumeral]
    rw [hnumber]
    exact halone fun d hd => absurd hd (Option.not_mem_none d)
  | cons d rest =>
    by_cases hquote : d = '\''
    · subst hquote
      rw [number_of_quote hnumeral, ← hsplit]
      exact covers_quotedText (.inr hdigits)
    rw [number_of_cons hnumeral hquote]
    by_cases hends : endsNumeral d = true
    · rw [if_pos hends]
      exact halone fun _ hd => Option.some.inj hd ▸ hends
    rw [if_neg hends, ← hsplit]
    exact covers_bare hdigits (Bool.eq_false_iff.mpr hends) hquote

/-! ### Runs -/

/-- Characters that are taken as long as they are of a sort are a run of it. -/
private theorem isRun_takeWhile {p : Char → Bool} {c : Char} (hc : p c = true)
    (hbefore : ∀ a ∈ before.getLast?, p a = false) :
    Slice.IsRun p ⟨before, (c :: s).takeWhile p, (c :: s).dropWhile p⟩ where
  ne_nil := by
    rw [List.takeWhile_cons_of_pos hc]
    exact List.cons_ne_nil _ _
  all _ := List.mem_takeWhile_imp
  before := hbefore
  behind := head_dropWhile

private theorem covers_whitespace {c : Char} (hc : Unicode.isBlank c = true)
    (hbefore : ∀ a ∈ before.getLast?, Unicode.isBlank a = false) :
    Covers .program before (c :: s) (verbatim .whitespace (c :: s.takeWhile Unicode.isBlank)) := by
  rw [← List.takeWhile_cons_of_pos hc]
  exact covers_verbatim List.takeWhile_append_dropWhile.symm (isRun_takeWhile hc hbefore)

private theorem covers_word {c : Char} (hc : startsName c = true)
    (hbefore : ∀ a ∈ before.getLast?, continuesName a = false) :
    Covers .program before (c :: s) (word (c :: s)) := by
  have hname : Slice.IsName
      ⟨before, (c :: s).takeWhile continuesName, (c :: s).dropWhile continuesName⟩ := by
    refine ⟨isRun_takeWhile (continuesName_of_startsName hc) hbefore, ?_⟩
    rw [List.takeWhile_cons_of_pos (continuesName_of_startsName hc)]
    exact fun _ hd => Option.some.inj hd ▸ hc
  have hstarts := hname.starts
  refine covers_verbatim List.takeWhile_append_dropWhile.symm ?_
  cases hspelling : Kind.ofSpelling? ((c :: s).takeWhile continuesName) with
  | none =>
    refine ⟨hname, fun kind hkind => ?_⟩
    have hother := List.lookup_eq_none_iff.mp hspelling _ hkind
    exact (bne_iff_ne.mp hother) rfl
  | some kind =>
    have hword : ∀ entry ∈ Kind.spellings, entry.1.head?.all startsName = true →
        entry.2 = .null ∨ entry.2 = .false ∨ entry.2 = .true := by decide +kernel
    have hmem := Kind.mem_spellings hspelling
    obtain hkind | hkind | hkind := hword _ hmem ((Option.all_eq_true _ _).mpr hstarts)
    all_goals
      obtain rfl : kind = _ := hkind
      exact ⟨hname, hmem⟩

/-! ### Operators -/

/-- Every spelling in the table is found there. -/
theorem isSome_of_mem {entry : List Char × Kind} (h : entry ∈ Kind.spellings) :
    (Kind.ofSpelling? entry.1).isSome = true := by
  refine Option.isSome_iff_ne_none.mpr fun hnone => ?_
  exact bne_iff_ne.mp (List.lookup_eq_none_iff.mp hnone _ h) rfl

/-- The spelling with which the text goes on is found, if it has no more than two characters. -/
theorem length_le_longestSpelling {c : Char} {entry : List Char × Kind} (hentry : entry ∈ Kind.spellings)
    (hshort : entry.1.length ≤ 2) (hfront : entry.1 <+: c :: s) :
    entry.1.length ≤ (longestSpelling [c] s).length := by
  by_cases hone : entry.1.length ≤ 1
  · exact Nat.le_trans hone (le_length_longestSpelling [c] s)
  obtain ⟨more, hmore⟩ := hfront
  obtain ⟨_ | ⟨_, _ | ⟨d, _ | ⟨_, _⟩⟩⟩, kind⟩ := entry
  · exact absurd (Nat.zero_le 1) hone
  · exact absurd (Nat.le_refl 1) hone
  · cases hmore
    have hspelled : (Kind.ofSpelling? ([c] ++ [d])).isSome = true := isSome_of_mem hentry
    show 2 ≤ (longestSpelling [c] (d :: more)).length
    rw [longestSpelling, if_pos hspelled]
    exact le_length_longestSpelling ([c] ++ [d]) more
  · exact absurd hshort (by simp only [List.length_cons]; omega)

/-- The longest spelling is at the front. -/
theorem longestSpelling_front (spelled : List Char) : longestSpelling spelled s <+: spelled ++ s := by
  induction s generalizing spelled with
  | nil => exact List.prefix_append _ _
  | cons c s ih =>
    rw [longestSpelling]
    split
    · have hprefix := ih (spelled ++ [c])
      rwa [List.append_assoc] at hprefix
    · exact List.prefix_append _ _

/-- What is spelled without starting like a name is an operator. -/
theorem shape_of_operator {slice : Slice} (hmem : (slice.chars, kind) ∈ Kind.spellings)
    (hstarts : ∀ c ∈ slice.chars.head?, startsName c = false) (hlongest : slice.IsLongest) :
    slice.Shape mode kind text := by
  have hkinds : ∀ entry ∈ Kind.spellings, entry.1.head?.any startsName = false →
      entry.2 ∉ [.eof, .whitespace, .integerConst, .realConst, .textLiteral, .identifier, .null,
        .false, .true] := by decide +kernel
  have hkind : kind ∉ _ := hkinds _ hmem ((Option.any_eq_false _ _).mpr hstarts)
  cases kind
  case eof | whitespace | integerConst | realConst | textLiteral | identifier | null | false | true =>
    exact absurd (by decide) hkind
  all_goals exact ⟨hlongest, hmem⟩

/-- What is at the front starts with the first character. -/
theorem head_of_front {c : Char} (h : l <+: c :: s) : ∀ a ∈ l.head?, a = c := by
  obtain ⟨more, hmore⟩ := h
  cases l with
  | nil => exact nofun
  | cons b l =>
    intro a ha
    exact (Option.some.inj ha).symm.trans (List.cons.inj hmore).1

/-- No spelling is longer than the one that is found. -/
theorem length_le_of_front {c : Char} (hc : Kind.startsOperator c = true)
    {entry : List Char × Kind} (hentry : entry ∈ Kind.spellings) (hfront : entry.1 <+: c :: s) :
    entry.1.length ≤ (longestSpelling [c] s).length := by
  have hshort : ∀ entry ∈ Kind.spellings, entry.1.head?.any startsName = false →
      entry.1.length ≤ 2 := by decide +kernel
  refine length_le_longestSpelling hentry (hshort entry hentry ?_) hfront
  refine (Option.any_eq_false _ _).mpr fun a ha => ?_
  rw [head_of_front hfront a ha]
  exact startsName_of_startsOperator hc

private theorem covers_operator {c : Char} (hc : Kind.startsOperator c = true) :
    Covers .program before (c :: s) (operator c s) := by
  obtain ⟨behind, hbehind⟩ := longestSpelling_front (s := s) [c]
  unfold operator
  cases hspelling : Kind.ofSpelling? (longestSpelling [c] s) with
  | none =>
    intro _ _ h
    simp only [hspelling] at h
    cases h
  | some kind =>
    simp only [hspelling]
    refine covers_verbatim hbehind.symm (shape_of_operator (Kind.mem_spellings hspelling) ?_ ?_)
    · intro a ha
      rw [head_of_front ⟨behind, hbehind⟩ a ha]
      exact startsName_of_startsOperator hc
    · intro entry hentry hfront
      rw [hbehind] at hfront
      exact length_le_of_front hc hentry hfront

/-! ### The front -/

/-- No run goes on from some characters to those behind them. -/
def Parted (before behind : List Char) : Prop :=
  ∀ a ∈ before.getLast?, ∀ c ∈ behind.head?,
    (Unicode.isBlank a = true → Unicode.isBlank c = false) ∧
      (continuesName a = true → startsName c = false)

/-- At the beginning of a text no run goes on. -/
theorem parted_nil : Parted [] s := fun a ha => absurd ha (Option.not_mem_none a)

/-- Every token inside the braces covers a slice that fits it. -/
private theorem covers_inside {c : Char} (hparted : Parted before (c :: s)) :
    Covers .program before (c :: s) (inside c s) := by
  unfold inside
  by_cases hblank : Unicode.isBlank c = true
  · rw [if_pos hblank]
    refine covers_whitespace hblank fun a ha => Bool.eq_false_iff.mpr fun hbefore => ?_
    exact Bool.false_ne_true (((hparted a ha c rfl).1 hbefore).symm.trans hblank)
  rw [if_neg hblank]
  by_cases hdecimal : Unicode.isDecimal c = true
  · rw [if_pos hdecimal]
    exact covers_number hdecimal
  rw [if_neg hdecimal]
  by_cases hquote : c = '\''
  · rw [if_pos hquote, hquote]
    exact covers_quotedText (.inl rfl)
  rw [if_neg hquote]
  by_cases hname : startsName c = true
  · rw [if_pos hname]
    refine covers_word hname fun a ha => Bool.eq_false_iff.mpr fun hbefore => ?_
    exact Bool.false_ne_true (((hparted a ha c rfl).2 hbefore).symm.trans hname)
  rw [if_neg hname]
  by_cases hoperator : Kind.startsOperator c = true
  · rw [if_pos hoperator]
    exact covers_operator hoperator
  · rw [if_neg hoperator]
    exact nofun

/-- **What stands at the front covers a slice that fits it.** -/
theorem covers_ahead {c : Char} (hparted : Parted before (c :: s)) :
    Covers mode before (c :: s) (Scan.ahead mode c s) := by
  unfold Scan.ahead
  cases mode with
  | program =>
    rw [if_neg (by simp)]
    exact covers_inside hparted
  | text =>
    by_cases hc : c = '{'
    · subst hc
      rw [if_neg (by simp)]
      intro kind text h
      obtain ⟨chars, behind, hsplit, hwidth, hshape, hverbatim, -⟩ := covers_inside hparted kind text h
      rw [inside_opening] at h
      cases h
      exact ⟨chars, behind, hsplit, hwidth, hshape, hverbatim, fun _ => .inr rfl⟩
    · rw [if_pos (by simp [hc])]
      exact covers_outside

end

end Scan

/-! ## Behind a token -/

section
variable {mode : Mode} {kind : Kind} {text : List Char} {c : Char} {s : List Char} {slice : Slice}

/-- The last character of an operator is neither blank nor part of a name. -/
theorem Scan.last_of_operator {spelled : List Char} (hmem : (spelled, kind) ∈ Kind.spellings)
    (hkind : kind ∉ [.null, .false, .true]) {a : Char} (ha : a ∈ spelled.getLast?) :
    Unicode.isBlank a = false ∧ continuesName a = false := by
  have hall : ∀ entry ∈ Kind.spellings, entry.2 ∉ [.null, .false, .true] →
      (entry.1.getLast?.any fun a => Unicode.isBlank a || continuesName a) = false := by
    decide +kernel
  have hlast := (Option.any_eq_false _ _).mp (hall _ hmem hkind) a ha
  exact Bool.or_eq_false_iff.mp hlast

/-- **No two tokens meet within a run.** -/
theorem Slice.Fits.parted (h : slice.Fits mode kind text) (hne : slice.chars ≠ []) :
    Scan.Parted (slice.before ++ slice.chars) slice.behind := by
  intro a ha c hc
  rw [List.getLast?_append_of_ne_nil _ hne] at ha
  have hmem : a ∈ slice.chars := List.mem_of_getLast? ha
  -- most often it is known of the last character, or of the next one
  have hother (hblank : Unicode.isBlank a = false)
      (hname : Scan.continuesName a = false ∨ Scan.startsName c = false) :
      (Unicode.isBlank a = true → Unicode.isBlank c = false) ∧
        (Scan.continuesName a = true → Scan.startsName c = false) := by
    refine ⟨fun h => absurd (h.symm.trans hblank) nofun, fun h => ?_⟩
    exact hname.resolve_left fun hname => absurd (h.symm.trans hname) nofun
  have hnumeral (hdigits : Unicode.isDecimal a = true ∨ a = '.')
      (hends : Scan.endsNumeral c = true) := by
    refine hother ?_ (.inr (Scan.startsName_of_endsNumeral hends))
    obtain hdigit | rfl := hdigits
    · exact Scan.isBlank_of_isDecimal hdigit
    · decide +kernel
  have hname (h : slice.IsName) := hother (Scan.isBlank_of_continuesName (h.all a hmem))
    (.inr (Scan.startsName_of_continuesName (h.behind c hc)))
  have hshape := h.shape
  cases kind
  case eof => exact hshape.elim
  case whitespace =>
    refine ⟨fun _ => hshape.behind c hc, fun hname => ?_⟩
    exact absurd ((Scan.continuesName_of_isBlank (hshape.all a hmem)).symm.trans hname) nofun
  case integerConst => exact hnumeral (.inl (hshape.1.2 a hmem)) (hshape.2 c hc)
  case realConst =>
    refine hnumeral ?_ (hshape.2 c hc)
    obtain ⟨whole, fraction, hchars, hwhole, hfraction⟩ := hshape.1
    rw [hchars] at hmem
    obtain hmem | hmem := List.mem_append.mp hmem
    · exact .inl (hwhole.2 a hmem)
    · exact (List.mem_cons.mp hmem).symm.imp_left (hfraction a)
  case textLiteral =>
    cases mode with
    | text =>
      rw [hshape.2 c hc]
      exact ⟨fun _ => by decide +kernel, fun _ => by decide +kernel⟩
    | program =>
      obtain ⟨digits, inner, quoted, hchars, -⟩ | ⟨-, digits, more, hchars, -, hmore, hall, hbehind⟩ :=
        hshape
      · rw [hchars, List.getLast?_append_of_ne_nil _ (List.cons_ne_nil _ _), ← List.cons_append,
          List.getLast?_concat] at ha
        cases ha
        exact hother (by decide +kernel) (.inl (by decide +kernel))
      · rw [hchars, List.getLast?_append_of_ne_nil _ hmore] at ha
        obtain ⟨hends, -⟩ := hall a (List.mem_of_getLast? ha)
        refine hother (Bool.or_eq_false_iff.mp hends).1 (.inr ?_)
        obtain hends | rfl := hbehind c hc
        · exact Scan.startsName_of_endsNumeral hends
        · decide +kernel
  case identifier | null | false | true => exact hname hshape.1
  all_goals
    obtain ⟨hblank, hnone⟩ := Scan.last_of_operator hshape.2 (by decide) ha
    exact hother hblank (.inl hnone)

/-- A token other than a brace keeps the mode. -/
theorem Mode.after_of_ne (hopening : kind ≠ .lBrace) (hclosing : kind ≠ .rBrace) :
    mode.after kind = mode := by
  cases kind <;> first | rfl | contradiction

/-- The mode changes with the tokens for braces, and only with those. -/
theorem Cursor.modeAt_of_ahead (h : (Scan.ahead mode c s).outcome = .ok (kind, text)) :
    modeAt mode c = mode.after kind := by
  by_cases hopening : c = '{'
  · subst hopening
    have hahead : Scan.ahead mode '{' s = Scan.verbatim .lBrace ['{'] := by
      rw [Scan.ahead, if_neg (by simp), Scan.inside_opening]
    rw [hahead] at h
    cases h
    rfl
  cases mode with
  | text =>
    rw [Scan.ahead, if_pos (by simp [hopening])] at h
    cases h
    rw [modeAt, if_neg hopening, ite_self]
    rfl
  | program =>
    by_cases hclosing : c = '}'
    · subst hclosing
      have hahead : Scan.ahead .program '}' s = Scan.verbatim .rBrace ['}'] := Scan.inside_closing
      rw [hahead] at h
      cases h
      rfl
    · have hbraces : ∀ entry ∈ Kind.spellings, (entry.2 = .lBrace → entry.1 = ['{']) ∧
          (entry.2 = .rBrace → entry.1 = ['}']) := by decide
      obtain ⟨chars, behind, hsplit, -, hfits⟩ := Scan.covers_ahead Scan.parted_nil kind text h
      rw [modeAt, if_neg hopening, if_neg hclosing, Mode.after_of_ne]
      · rintro rfl
        obtain rfl : chars = _ := (hbraces _ hfits.shape.2).1 rfl
        exact hopening (List.cons.inj hsplit).1
      · rintro rfl
        obtain rfl : chars = _ := (hbraces _ hfits.shape.2).2 rfl
        exact hclosing (List.cons.inj hsplit).1

end

end Stencil
