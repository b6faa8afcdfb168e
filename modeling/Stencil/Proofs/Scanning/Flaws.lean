import Stencil.Proofs.Scanning.Slices

/-!
# Where there is no token

Where nothing can be scanned no token of a program is at the front, for one of two reasons: none starts
like this, or a quote is not closed (`Scan.flaw_of_ahead`). Both are said without the scanners
(`Flaw.Fits`).
-/

namespace Stencil

/-- **What is wrong with some characters**, so that no token of a program is at their front: none starts
like this, or a quote is not closed. -/
def Flaw.Fits (rest : List Char) : Flaw → Prop
  | .unexpected c => rest.head? = some c ∧ Unicode.isBlank c = false ∧ Unicode.isDecimal c = false ∧
      c ≠ '\'' ∧ Scan.startsName c = false ∧ ∀ entry ∈ Kind.spellings, ¬ entry.1 <+: rest
  | .unterminated => ∃ digits inner text, rest = digits ++ '\'' :: inner ∧
      (digits = [] ∨ Slice.IsNumeral digits) ∧ Slice.Means '\'' ['\''] [] inner text

namespace Scan

variable {mode : Mode} {s digits : List Char} {flaw : Flaw}

/-! ## Quotes -/

/-- Where quoted text is not closed, all that is left means some text. -/
private theorem means_unterminated (h : quoted? s = none) :
    ∃ text, Slice.Means '\'' ['\''] [] s text := by
  induction s using quoted?.induct with
  | case1 => exact ⟨[], .nil⟩
  | case2 => cases h
  | case3 s ih =>
    rw [quoted?] at h
    obtain ⟨text, hmeans⟩ := ih (Option.map_eq_none_iff.mp h)
    exact ⟨_, .escape (by decide) hmeans⟩
  | case4 c s hquote hescape ih =>
    rw [quoted?.eq_4 c s hquote hescape] at h
    obtain ⟨text, hmeans⟩ := ih (Option.map_eq_none_iff.mp h)
    refine ⟨_, .plain hquote ?_ hmeans⟩
    rintro hc d hd hmem
    rw [List.append_nil] at hd
    obtain ⟨more, hmore⟩ := List.head?_eq_some_iff.mp hd
    rw [List.mem_singleton.mp hmem] at hmore
    exact hescape more hc hmore

/-- Of quoted text it is the closing quote that is missing. -/
private theorem flaw_of_quotedText (hdigits : digits = [] ∨ Slice.IsNumeral digits)
    (h : (quotedText digits s).outcome = .error flaw) : flaw.Fits (digits ++ '\'' :: s) := by
  unfold quotedText at h
  cases hquoted : quoted? s with
  | none =>
    rw [hquoted] at h
    cases h
    obtain ⟨text, hmeans⟩ := means_unterminated hquoted
    exact ⟨digits, s, text, rfl, hdigits, hmeans⟩
  | some found =>
    rw [hquoted] at h
    cases h

/-- A number can be wrong only in the quoted text behind it. -/
private theorem flaw_of_number {c : Char} (hc : Unicode.isDecimal c = true)
    (h : (number (c :: s)).outcome = .error flaw) : flaw.Fits (c :: s) := by
  rcases hnumeral : numeral (c :: s) with ⟨kind, digits, rest⟩
  have hdigits := (shape_of_numeral hc hnumeral).imp And.right And.right
  have hsplit := append_of_numeral hnumeral
  cases rest with
  | nil =>
    rw [number, hnumeral] at h
    cases h
  | cons d rest =>
    by_cases hquote : d = '\''
    · subst hquote
      rw [number_of_quote hnumeral] at h
      rw [← hsplit]
      exact flaw_of_quotedText (.inr hdigits) h
    · rw [number_of_cons hnumeral hquote] at h
      split at h <;> cases h

/-! ## First characters -/

/-- What has been extended is spelled. -/
theorem longestSpelling_cases (spelled s : List Char) : longestSpelling spelled s = spelled ∨
    (Kind.ofSpelling? (longestSpelling spelled s)).isSome = true := by
  induction s generalizing spelled with
  | nil => exact .inl rfl
  | cons c s ih =>
    rw [longestSpelling]
    by_cases hmore : (Kind.ofSpelling? (spelled ++ [c])).isSome = true
    · rw [if_pos hmore]
      obtain hsame | hspelled := ih (spelled ++ [c])
      · rw [hsame]
        exact .inr hmore
      · exact .inr hspelled
    · rw [if_neg hmore]
      exact .inl rfl

/-- A spelling at the front starts with the first character. -/
theorem exists_cons_of_front {c : Char} {entry : List Char × Kind} (hentry : entry ∈ Kind.spellings)
    (hfront : entry.1 <+: c :: s) : ∃ more, entry.1 = c :: more := by
  have hnonempty : ∀ entry ∈ Kind.spellings, entry.1 ≠ [] := by decide
  obtain ⟨a, more, hchars⟩ := List.exists_cons_of_ne_nil (hnonempty entry hentry)
  obtain rfl : a = c := head_of_front hfront a (by rw [hchars]; rfl)
  exact ⟨more, hchars⟩

/-- Where no operator is found, none is at the front. -/
theorem flaw_of_operator {c : Char} (hc : Kind.startsOperator c = true)
    (h : (operator c s).outcome = .error flaw) :
    flaw = .unexpected c ∧ ∀ entry ∈ Kind.spellings, ¬ entry.1 <+: c :: s := by
  unfold operator at h
  cases hspelling : Kind.ofSpelling? (longestSpelling [c] s) with
  | some kind =>
    simp only [hspelling] at h
    cases h
  | none =>
    simp only [hspelling] at h
    cases h
    refine ⟨rfl, fun entry hentry hfront => ?_⟩
    obtain hsame | hspelled := longestSpelling_cases [c] s
    · have hlength := length_le_of_front hc hentry hfront
      obtain ⟨more, hchars⟩ := exists_cons_of_front hentry hfront
      rw [hsame, hchars] at hlength
      obtain rfl : more = [] :=
        List.eq_nil_of_length_eq_zero (Nat.le_zero.mp (Nat.le_of_succ_le_succ hlength))
      have hsome := isSome_of_mem hentry
      rw [hchars, ← hsame, hspelling] at hsome
      cases hsome
    · rw [hspelling] at hspelled
      cases hspelled

/-- What starts a spelling but no name starts an operator. -/
private theorem startsOperator_of_front {c : Char} (hname : startsName c = false)
    {entry : List Char × Kind} (hentry : entry ∈ Kind.spellings) (hfront : entry.1 <+: c :: s) :
    Kind.startsOperator c = true := by
  obtain ⟨more, hchars⟩ := exists_cons_of_front hentry hfront
  refine List.any_eq_true.mpr ⟨entry, hentry, ?_⟩
  show (entry.1.head? == some c && !Unicode.isAlphabetic c) = true
  rw [hchars, (Bool.or_eq_false_iff.mp hname).1]
  simp

/-- What is reported inside the braces is what is wrong there. -/
private theorem flaw_of_inside {c : Char} (h : (inside c s).outcome = .error flaw) :
    flaw.Fits (c :: s) := by
  unfold inside at h
  by_cases hblank : Unicode.isBlank c = true
  · rw [if_pos hblank] at h
    cases h
  rw [if_neg hblank] at h
  by_cases hdecimal : Unicode.isDecimal c = true
  · rw [if_pos hdecimal] at h
    exact flaw_of_number hdecimal h
  rw [if_neg hdecimal] at h
  by_cases hquote : c = '\''
  · rw [if_pos hquote] at h
    rw [hquote]
    exact flaw_of_quotedText (.inl rfl) h
  rw [if_neg hquote] at h
  by_cases hname : startsName c = true
  · rw [if_pos hname] at h
    cases h
  rw [if_neg hname] at h
  have hunexpected (hnone : ∀ entry ∈ Kind.spellings, ¬ entry.1 <+: c :: s) :
      (Flaw.unexpected c).Fits (c :: s) :=
    ⟨rfl, Bool.eq_false_iff.mpr hblank, Bool.eq_false_iff.mpr hdecimal, hquote,
      Bool.eq_false_iff.mpr hname, hnone⟩
  by_cases hoperator : Kind.startsOperator c = true
  · rw [if_pos hoperator] at h
    obtain ⟨rfl, hnone⟩ := flaw_of_operator hoperator h
    exact hunexpected hnone
  · rw [if_neg hoperator] at h
    cases h
    exact hunexpected fun entry hentry hfront =>
      hoperator (startsOperator_of_front (Bool.eq_false_iff.mpr hname) hentry hfront)

/-- **Where no token can be made out, there is a reason**, and it is inside the braces. -/
theorem flaw_of_ahead {c : Char} (h : (Scan.ahead mode c s).outcome = .error flaw) :
    mode = .program ∧ flaw.Fits (c :: s) := by
  unfold Scan.ahead at h
  cases mode with
  | program =>
    rw [if_neg (by simp)] at h
    exact ⟨rfl, flaw_of_inside h⟩
  | text =>
    by_cases hc : c = '{'
    · subst hc
      rw [if_neg (by simp), inside_opening] at h
      cases h
    · rw [if_pos (by simp [hc])] at h
      cases h

end Scan

end Stencil
