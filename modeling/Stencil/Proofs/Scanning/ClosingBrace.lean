import Stencil.Proofs.Scanning.Scans

/-!
# In front of a closing brace

Inside the braces a closing brace ends every token, just as the end of the text does: none goes on
with it (`Scan.inside_append`), and where a quote is not closed at the end, it is not closed by the
brace. So a text without closing braces has the same tokens whether it ends or a closing brace follows
(`Cursor.Scans.followedBy`, `Cursor.Scans.of_followedBy`). And since no token reaches further than
the text does, the place where reading stops is known from what is left (`Cursor.Scans.offset_add_length`).
-/

namespace Stencil

namespace Scan

variable {c : Char} {digits s tail text : List Char} {found : Kind × List Char}

/-! ## Characters up to one of another sort -/

section
variable {α : Type} {p : α → Bool} {a : α} {l m : List α}

/-- Where a character stops the search, it is the same with more behind it. -/
private theorem takeWhile_append_cons (h : p a = false) :
    (l ++ a :: m).takeWhile p = l.takeWhile p := by
  induction l with
  | nil =>
    rw [List.nil_append, List.takeWhile_cons_of_neg (by rw [h]; exact nofun), List.takeWhile_nil]
  | cons b l ih => rw [List.cons_append, List.takeWhile_cons, List.takeWhile_cons, ih]

/-- And what is left is what was left, and more. -/
theorem dropWhile_append_cons (h : p a = false) :
    (l ++ a :: m).dropWhile p = l.dropWhile p ++ a :: m := by
  induction l with
  | nil =>
    rw [List.nil_append, List.dropWhile_cons_of_neg (by rw [h]; exact nofun)]
    rfl
  | cons b l ih =>
    rw [List.cons_append, List.dropWhile_cons, List.dropWhile_cons, ih]
    split <;> rfl

private theorem length_takeWhile_le : (l.takeWhile p).length ≤ l.length :=
  (List.takeWhile_sublist p).length_le

end

private theorem isBlank_brace : Unicode.isBlank '}' = false := by decide +kernel

private theorem isDecimal_brace : Unicode.isDecimal '}' = false := by decide +kernel

private theorem continuesName_brace : continuesName '}' = false := by decide +kernel

private theorem endsNumeral_brace : endsNumeral '}' = true := by decide +kernel

/-! ## Literal texts -/

/-- A text outside the braces is no wider than what there is. -/
private theorem width_literal_le (s : List Char) : (literal s).2 ≤ s.length := by
  induction s using literal.induct with
  | case1 => exact Nat.le_refl 0
  | case2 s => exact Nat.zero_le _
  | case3 s _ _ hliteral ih =>
    rw [hliteral] at ih
    simp only [literal, hliteral]
    exact Nat.add_le_add_right ih 2
  | case4 s _ _ hliteral ih =>
    rw [hliteral] at ih
    simp only [literal, hliteral]
    exact Nat.add_le_add_right ih 2
  | case5 c s hbrace hescaped hescaped' _ _ hliteral ih =>
    rw [hliteral] at ih
    rw [literal, hliteral]
    · exact Nat.add_le_add_right ih 1
    all_goals assumption

/-! ## Quoted texts -/

/-- What is closed is closed, whatever follows. -/
theorem quoted?_append (tail : List Char) {width : Nat} (h : quoted? s = some (text, width)) :
    quoted? (s ++ tail) = some (text, width) ∧ width ≤ s.length := by
  induction s using quoted?.induct generalizing text width with
  | case1 => cases h
  | case2 s =>
    cases h
    exact ⟨rfl, Nat.le_add_left 1 _⟩
  | case3 s ih =>
    rw [quoted?] at h
    obtain ⟨⟨text', width'⟩, hquoted, hfound⟩ := Option.map_eq_some_iff.mp h
    obtain ⟨hmore, hwidth⟩ := ih hquoted
    cases hfound
    refine ⟨?_, Nat.add_le_add_right hwidth 2⟩
    rw [List.cons_append, List.cons_append, quoted?, hmore]
    rfl
  | case4 c s hquote hescape ih =>
    rw [quoted?.eq_4 c s hquote hescape] at h
    obtain ⟨⟨text', width'⟩, hquoted, hfound⟩ := Option.map_eq_some_iff.mp h
    obtain ⟨hmore, hwidth⟩ := ih hquoted
    cases hfound
    refine ⟨?_, Nat.add_le_add_right hwidth 1⟩
    cases s with
    | nil => cases hquoted
    | cons d s =>
      rw [List.cons_append, quoted?.eq_4 c _ hquote, hmore]
      · rfl
      · rintro _ hc hd
        exact hescape s hc (congrArg (· :: s) (List.cons.inj hd).1)

/-- What is not closed is not closed by a brace. -/
theorem quoted?_append_brace (h : quoted? s = none) : quoted? (s ++ ['}']) = none := by
  induction s using quoted?.induct with
  | case1 => rfl
  | case2 => cases h
  | case3 s ih =>
    rw [quoted?] at h
    rw [List.cons_append, List.cons_append, quoted?, ih (Option.map_eq_none_iff.mp h)]
    rfl
  | case4 c s hquote hescape ih =>
    rw [quoted?.eq_4 c s hquote hescape] at h
    rw [List.cons_append, quoted?.eq_4 c _ hquote, ih (Option.map_eq_none_iff.mp h)]
    · rfl
    · rintro _ hc hd
      cases s with
      | nil => cases hd
      | cons d s => exact hescape s hc (congrArg (· :: s) (List.cons.inj hd).1)

/-- A quoted text that is closed is the same with more behind it. -/
private theorem quotedText_append (tail : List Char) (h : (quotedText digits s).outcome = .ok found) :
    quotedText digits (s ++ tail) = quotedText digits s ∧
      (quotedText digits s).width ≤ digits.length + 1 + s.length := by
  unfold quotedText at h ⊢
  cases hquoted : quoted? s with
  | none =>
    rw [hquoted] at h
    cases h
  | some closed =>
    obtain ⟨hmore, hwidth⟩ := quoted?_append tail hquoted
    rw [hmore]
    exact ⟨rfl, Nat.add_le_add_left hwidth _⟩

private theorem quotedText_append_brace {flaw : Flaw}
    (h : (quotedText digits s).outcome = .error flaw) :
    (quotedText digits (s ++ ['}'])).outcome = .error flaw := by
  unfold quotedText at h ⊢
  cases hquoted : quoted? s with
  | none =>
    rw [hquoted] at h
    rw [quoted?_append_brace hquoted]
    exact h
  | some closed =>
    rw [hquoted] at h
    cases h

/-! ## Numbers -/

/-- Digits with a point behind them, and the digits behind that. -/
theorem numeral_of_point {rest : List Char} (h : s.dropWhile Unicode.isDecimal = '.' :: rest) :
    numeral s = (.realConst, s.takeWhile Unicode.isDecimal ++ '.' :: rest.takeWhile Unicode.isDecimal,
      rest.dropWhile Unicode.isDecimal) := by
  unfold numeral
  rw [h]
  rfl

/-- A numeral without a point is an integer. -/
theorem numeral_of_no_point (h : ∀ rest, s.dropWhile Unicode.isDecimal ≠ '.' :: rest) :
    numeral s = (.integerConst, s.takeWhile Unicode.isDecimal, s.dropWhile Unicode.isDecimal) := by
  unfold numeral
  split
  · next rest hrest => exact absurd hrest (h rest)
  · rfl

variable {kind : Kind} {rest : List Char}

/-- A closing brace is no part of a numeral. -/
theorem numeral_append (tail : List Char) (h : numeral s = (kind, digits, rest)) :
    numeral (s ++ '}' :: tail) = (kind, digits, rest ++ '}' :: tail) := by
  have hrest := dropWhile_append_cons (l := s) (m := tail) isDecimal_brace
  have hwhole := takeWhile_append_cons (l := s) (m := tail) isDecimal_brace
  by_cases hpoint : ∃ more, s.dropWhile Unicode.isDecimal = '.' :: more
  · obtain ⟨more, hpoint⟩ := hpoint
    rw [numeral_of_point hpoint] at h
    cases h
    rw [hpoint, List.cons_append] at hrest
    rw [numeral_of_point hrest, hwhole, takeWhile_append_cons isDecimal_brace,
      dropWhile_append_cons isDecimal_brace]
  · have hnone := not_exists.mp hpoint
    rw [numeral_of_no_point hnone] at h
    cases h
    rw [numeral_of_no_point, hwhole, hrest]
    intro more
    rw [hrest]
    cases hdigits : s.dropWhile Unicode.isDecimal with
    | nil => exact nofun
    | cons d ds =>
      intro heq
      exact hnone ds (hdigits.trans (congrArg (· :: ds) (List.cons.inj heq).1))

/-- A numeral is the front of the text. -/
theorem append_of_numeral (h : numeral s = (kind, digits, rest)) : digits ++ rest = s := by
  have hsplit := List.takeWhile_append_dropWhile (p := Unicode.isDecimal) (l := s)
  by_cases hpoint : ∃ more, s.dropWhile Unicode.isDecimal = '.' :: more
  · obtain ⟨more, hpoint⟩ := hpoint
    rw [numeral_of_point hpoint] at h
    cases h
    rw [List.append_assoc, List.cons_append, List.takeWhile_append_dropWhile, ← hpoint, hsplit]
  · rw [numeral_of_no_point (not_exists.mp hpoint)] at h
    cases h
    exact hsplit

/-- What a number is made of, when more than its numeral is left. -/
theorem number_of_quote (h : numeral s = (kind, digits, '\'' :: rest)) :
    number s = quotedText digits rest := by
  rw [number, h]
  rfl

/-- A number is told by the character behind the numeral. -/
theorem number_of_cons {d : Char}
    (h : numeral s = (kind, digits, d :: rest)) (hd : d ≠ '\'') :
    number s = if endsNumeral d then verbatim kind digits
      else verbatim .textLiteral
        (digits ++ (d :: rest).takeWhile fun c => !endsNumeral c && c != '\'') := by
  rw [number, h]
  simp only

/-- A closing brace ends a number, and a text that starts with one. -/
theorem number_append (tail : List Char) (h : (number s).outcome = .ok found) :
    number (s ++ '}' :: tail) = number s ∧ (number s).width ≤ s.length := by
  rcases hnumeral : numeral s with ⟨kind, digits, rest⟩
  have happend := numeral_append tail hnumeral
  have hlength := congrArg List.length (append_of_numeral hnumeral)
  rw [List.length_append] at hlength
  -- the numeral ends the text, a text in quotes goes on behind it, or something else does
  cases rest with
  | nil =>
    have hnumber : number s = verbatim kind digits := by
      rw [number, hnumeral]
    rw [List.nil_append] at happend
    rw [number_of_cons happend (by decide), if_pos endsNumeral_brace, hnumber]
    exact ⟨rfl, Nat.le_of_eq hlength⟩
  | cons d rest =>
    rw [List.cons_append] at happend
    rw [List.length_cons] at hlength
    by_cases hquote : d = '\''
    · subst hquote
      have hnumber := number_of_quote hnumeral
      rw [hnumber] at h
      obtain ⟨hmore, hwidth⟩ := quotedText_append ('}' :: tail) h
      rw [number_of_quote happend, hnumber, hmore]
      exact ⟨rfl, by omega⟩
    · rw [number_of_cons happend hquote, number_of_cons hnumeral hquote]
      by_cases hends : endsNumeral d = true
      · rw [if_pos hends, if_pos hends]
        exact ⟨rfl, Nat.le_trans (Nat.le_add_right _ _) (Nat.le_of_eq hlength)⟩
      · let p : Char → Bool := fun c => !endsNumeral c && c != '\''
        have hbrace : p '}' = false := by
          show (!endsNumeral '}' && '}' != '\'') = false
          rw [endsNumeral_brace]
          rfl
        have hmore := takeWhile_append_cons (l := d :: rest) (m := tail) hbrace
        have hle := length_takeWhile_le (p := p) (l := d :: rest)
        rw [if_neg hends, if_neg hends, ← List.cons_append, hmore]
        refine ⟨rfl, ?_⟩
        show (digits ++ (d :: rest).takeWhile p).length ≤ _
        rw [List.length_append]
        rw [List.length_cons] at hle
        omega

/-- What is wrong with a number stays wrong before a closing brace. -/
private theorem number_append_brace {flaw : Flaw} (h : (number s).outcome = .error flaw) :
    (number (s ++ ['}'])).outcome = .error flaw := by
  rcases hnumeral : numeral s with ⟨kind, digits, rest⟩
  have happend := numeral_append [] hnumeral
  cases rest with
  | nil =>
    rw [number, hnumeral] at h
    cases h
  | cons d rest =>
    rw [List.cons_append] at happend
    by_cases hquote : d = '\''
    · subst hquote
      rw [number_of_quote hnumeral] at h
      rw [number_of_quote happend]
      exact quotedText_append_brace h
    · rw [number_of_cons hnumeral hquote] at h
      split at h <;> cases h

/-! ## Names and operators -/

private theorem word_append : word (s ++ '}' :: tail) = word s := by
  unfold word
  rw [takeWhile_append_cons continuesName_brace]

/-- No operator ends with a closing brace but the brace itself. -/
theorem ofSpelling?_append_brace {spelled : List Char} (h : spelled ≠ []) :
    Kind.ofSpelling? (spelled ++ ['}']) = none := by
  have hall : ∀ entry ∈ Kind.spellings, entry.1.getLast? = some '}' → entry.1.length = 1 := by decide
  cases hspelling : Kind.ofSpelling? (spelled ++ ['}']) with
  | none => rfl
  | some kind =>
    have hlength := hall _ (Kind.mem_spellings hspelling) (List.getLast?_concat)
    rw [List.length_append] at hlength
    exact absurd (List.eq_nil_of_length_eq_zero (Nat.succ.inj hlength)) h

private theorem longestSpelling_append (tail : List Char) {spelled : List Char} (h : spelled ≠ []) :
    longestSpelling spelled (s ++ '}' :: tail) = longestSpelling spelled s ∧
      (longestSpelling spelled s).length ≤ spelled.length + s.length := by
  induction s generalizing spelled with
  | nil =>
    refine ⟨?_, Nat.le_refl _⟩
    show (if (Kind.ofSpelling? (spelled ++ ['}'])).isSome then _ else _) = spelled
    rw [ofSpelling?_append_brace h, Option.isSome_none, if_neg Bool.false_ne_true]
  | cons d s ih =>
    rw [List.cons_append, longestSpelling, longestSpelling]
    by_cases hmore : (Kind.ofSpelling? (spelled ++ [d])).isSome
    · rw [if_pos hmore, if_pos hmore]
      have hne := List.append_ne_nil_of_right_ne_nil spelled (List.cons_ne_nil d [])
      obtain ⟨happend, hlength⟩ := ih hne
      rw [List.length_append] at hlength
      refine ⟨happend, Nat.le_trans hlength (Nat.le_of_eq ?_)⟩
      rw [Nat.add_right_comm]
      rfl
    · rw [if_neg hmore, if_neg hmore]
      exact ⟨rfl, Nat.le_add_right _ _⟩

private theorem operator_append (tail : List Char) : operator c (s ++ '}' :: tail) = operator c s ∧
    (operator c s).width ≤ s.length + 1 := by
  obtain ⟨happend, hlength⟩ := longestSpelling_append tail (List.cons_ne_nil c [])
  unfold operator
  rw [happend]
  refine ⟨rfl, ?_⟩
  rw [Nat.add_comm] at hlength
  simp only
  split <;> exact hlength

/-! ## Tokens inside the braces -/

/-- **A closing brace ends every token.** -/
theorem inside_append (tail : List Char) (h : (inside c s).outcome = .ok found) :
    inside c (s ++ '}' :: tail) = inside c s ∧ (inside c s).width ≤ s.length + 1 := by
  obtain hblank | hnumber | hquote | hword | hoperator | hnone := inside_cases c
  · rw [hblank, hblank, takeWhile_append_cons isBlank_brace]
    exact ⟨rfl, Nat.succ_le_succ length_takeWhile_le⟩
  · rw [hnumber] at h
    rw [hnumber, hnumber, ← List.cons_append]
    exact number_append tail h
  · rw [hquote] at h
    rw [hquote, hquote]
    obtain ⟨happend, hwidth⟩ := quotedText_append ('}' :: tail) h
    exact ⟨happend, Nat.le_trans hwidth (Nat.le_of_eq (Nat.add_comm _ _))⟩
  · rw [hword, hword, ← List.cons_append]
    exact ⟨word_append, length_takeWhile_le⟩
  · rw [hoperator, hoperator]
    exact operator_append tail
  · rw [hnone] at h
    cases h

/-- And a closing brace alone makes no token of what is none. -/
theorem inside_append_brace {flaw : Flaw} (h : (inside c s).outcome = .error flaw) :
    (inside c (s ++ ['}'])).outcome = .error flaw := by
  obtain hblank | hnumber | hquote | hword | hoperator | hnone := inside_cases c
  · rw [hblank] at h
    cases h
  · rw [hnumber] at h ⊢
    exact number_append_brace h
  · rw [hquote] at h ⊢
    exact quotedText_append_brace h
  · rw [hword] at h
    cases h
  · rw [hoperator] at h ⊢
    rw [(operator_append []).1]
    exact h
  · rw [hnone] at h ⊢
    exact h

/-- What starts no longer spelling is an operator by itself. -/
theorem longestSpelling_of_alone
    (h : ∀ entry ∈ Kind.spellings, entry.1.head? = some c → entry.1.length = 1) :
    longestSpelling [c] s = [c] := by
  cases s with
  | nil => rfl
  | cons d s =>
    have hnone : Kind.ofSpelling? ([c] ++ [d]) = none := by
      cases hspelling : Kind.ofSpelling? ([c] ++ [d]) with
      | none => rfl
      | some kind =>
        have hlength := h _ (Kind.mem_spellings hspelling) rfl
        cases hlength
    rw [longestSpelling, hnone, Option.isSome_none, if_neg Bool.false_ne_true]

/-- An operator that starts no longer one is what it is by itself. -/
theorem inside_of_alone {kind : Kind}
    (h : Unicode.isBlank c = false ∧ Unicode.isDecimal c = false ∧ c ≠ '\'' ∧ startsName c = false ∧
      Kind.startsOperator c = true ∧ Kind.ofSpelling? [c] = some kind)
    (halone : ∀ entry ∈ Kind.spellings, entry.1.head? = some c → entry.1.length = 1) :
    inside c s = verbatim kind [c] := by
  obtain ⟨hblank, hdecimal, hquote, hname, hoperator, hkind⟩ := h
  simp only [inside, hblank, hdecimal, hquote, hname, hoperator, Bool.false_eq_true, ↓reduceIte]
  rw [operator, longestSpelling_of_alone halone]
  simp only [hkind]

/-- An opening brace is a token by itself. -/
theorem inside_opening : inside '{' s = verbatim .lBrace ['{'] :=
  inside_of_alone (by decide +kernel) (by decide)

/-- And so is a closing one. -/
theorem inside_closing : inside '}' s = verbatim .rBrace ['}'] :=
  inside_of_alone (by decide +kernel) (by decide)

end Scan

namespace Cursor

variable {here mid after : Cursor} {t closing : Token} {ts : List Token} {mode : Mode} {c : Char}
  {s tail : List Char} {offset : Nat}

/-- At an opening brace a program starts, in both modes. -/
theorem next_opening :
    next ⟨mode, offset, '{' :: s⟩ = (.ok ⟨.lBrace, "\x7b", offset⟩, ⟨.program, offset + 1, s⟩) := by
  have hahead : Scan.ahead mode '{' s = Scan.verbatim .lBrace ['{'] := by
    rw [Scan.ahead, if_neg (by simp), Scan.inside_opening]
  rw [next_cons, behind, hahead]
  rfl

/-- At a closing one it ends. -/
theorem next_closing :
    next ⟨.program, offset, '}' :: s⟩ = (.ok ⟨.rBrace, "\x7d", offset⟩, ⟨.text, offset + 1, s⟩) := by
  have hahead : Scan.ahead .program '}' s = Scan.verbatim .rBrace ['}'] := Scan.inside_closing
  rw [next_cons, behind, hahead]
  rfl

/-- The same place in a text that goes on. -/
def followedBy (more : List Char) (here : Cursor) : Cursor :=
  { here with rest := here.rest ++ more }

/-- Another token than a closing brace starts with another character. -/
theorem head_ne_closing (hmode : here.mode = .program) (hnext : here.next = (.ok t, mid))
    (ht : t.kind ≠ .rBrace) : here.rest.head? ≠ some '}' := by
  obtain ⟨_, offset, _ | ⟨c, s⟩⟩ := here
  · exact nofun
  · obtain rfl : _ = Mode.program := hmode
    intro hc
    obtain rfl : c = '}' := Option.some.inj hc
    cases next_closing.symm.trans hnext
    exact ht rfl

/-- The next token inside the braces is the same where a closing brace follows. -/
theorem next_followedBy (tail : List Char) (hmode : here.mode = .program) (hrest : here.rest ≠ [])
    (hhead : here.rest.head? ≠ some '}') (hnext : here.next = (.ok t, mid)) :
    mid.mode = .program ∧
      (here.followedBy ('}' :: tail)).next = (.ok t, mid.followedBy ('}' :: tail)) := by
  obtain ⟨_, offset, _ | ⟨c, s⟩⟩ := here
  · exact absurd rfl hrest
  obtain rfl : _ = Mode.program := hmode
  have hmode' : modeAt .program c = .program := by
    unfold modeAt
    rw [if_neg fun hc => hhead (congrArg some hc)]
    split <;> rfl
  obtain ⟨kind, text, hfound, rfl, rfl⟩ := next_eq_ok.mp hnext
  obtain ⟨happend, hwidth⟩ := Scan.inside_append tail hfound
  refine ⟨hmode', next_eq_ok.mpr ⟨kind, text, ?_, rfl, ?_⟩⟩
  · show (Scan.inside c (s ++ '}' :: tail)).outcome = _
    rw [happend]
    exact hfound
  · show _ = (⟨_, offset + (Scan.inside c (s ++ '}' :: tail)).width,
      (c :: s ++ '}' :: tail).drop (Scan.inside c (s ++ '}' :: tail)).width⟩ : Cursor)
    rw [happend, List.drop_append_of_le_length hwidth]
    rfl

/-- And there is none that would not be there without the brace. -/
theorem next_of_followedBy (hmode : here.mode = .program) (hrest : here.rest ≠ [])
    (hnext : (here.followedBy ['}']).next = (.ok t, after)) : ∃ mid, here.next = (.ok t, mid) := by
  obtain ⟨_, offset, _ | ⟨c, s⟩⟩ := here
  · exact absurd rfl hrest
  obtain rfl : _ = Mode.program := hmode
  obtain ⟨kind, text, hfound, rfl, -⟩ := next_eq_ok.mp hnext
  cases hinside : (Scan.inside c s).outcome with
  | ok found =>
    have happend := (Scan.inside_append [] hinside).1
    have hfound' : (Scan.inside c (s ++ ['}'])).outcome = .ok (kind, text) := hfound
    rw [happend] at hfound'
    exact ⟨_, next_eq_ok.mpr ⟨kind, text, hfound', rfl, rfl⟩⟩
  | error flaw => cases (Scan.inside_append_brace hinside).symm.trans hfound

namespace Scans

/-- **Up to a closing brace there are the tokens that there are up to the end.** -/
theorem followedBy (tail : List Char) (h : Scans here ts after) (hmode : here.mode = .program)
    (hts : ∀ t ∈ ts, t.kind ≠ .rBrace) :
    after.mode = .program ∧
      Scans (here.followedBy ('}' :: tail)) ts (after.followedBy ('}' :: tail)) := by
  induction h with
  | refl => exact ⟨hmode, .refl⟩
  | token hrest hnext _ ih =>
    obtain ⟨ht, hts⟩ := List.forall_mem_cons.mp hts
    obtain ⟨hmode', hnext'⟩ := next_followedBy tail hmode hrest (head_ne_closing hmode hnext ht) hnext
    obtain ⟨hafter, hscans⟩ := ih hmode' hts
    exact ⟨hafter, .token (List.append_ne_nil_of_left_ne_nil hrest _) hnext' hscans⟩

/-- **And there are no others**, if the brace is the end and the only one that closes. -/
theorem of_followedBy (h : Scans (here.followedBy ['}']) (ts ++ [closing]) after)
    (hmode : here.mode = .program) (hend : after.rest = []) (hts : ∀ t ∈ ts, t.kind ≠ .rBrace) :
    ∃ stop, Scans here ts stop ∧ stop.rest = [] := by
  induction ts generalizing here with
  | nil =>
    obtain ⟨mid, -, hnext, hmore⟩ := h.cons
    cases hmore
    obtain ⟨_, offset, _ | ⟨c, s⟩⟩ := here
    · exact ⟨_, .refl, rfl⟩
    · obtain rfl : _ = Mode.program := hmode
      -- more than the brace is left, so that one token does not lead to the end
      by_cases hc : c = '}'
      · subst hc
        cases next_closing.symm.trans hnext
        exact absurd hend (List.append_ne_nil_of_right_ne_nil s (List.cons_ne_nil _ _))
      · obtain ⟨mid, hnext'⟩ := next_of_followedBy rfl (List.cons_ne_nil c s) hnext
        have hhead : (c :: s).head? ≠ some '}' := fun h => hc (Option.some.inj h)
        obtain ⟨-, hnext''⟩ := next_followedBy [] rfl (List.cons_ne_nil c s) hhead hnext'
        cases hnext''.symm.trans hnext
        exact absurd hend (List.append_ne_nil_of_right_ne_nil _ (List.cons_ne_nil _ _))
  | cons t ts ih =>
    obtain ⟨mid, -, hnext, hmore⟩ := h.cons
    obtain ⟨ht, hts⟩ := List.forall_mem_cons.mp hts
    have hthere : (here.followedBy ['}']).mode = .program := hmode
    have hhead := head_ne_closing hthere hnext ht
    cases hrest : here.rest with
    | nil =>
      rw [Cursor.followedBy, hrest] at hhead
      exact absurd rfl hhead
    | cons c s =>
      have hne : here.rest ≠ [] := hrest ▸ List.cons_ne_nil c s
      have hhead' : here.rest.head? ≠ some '}' := by
        rw [Cursor.followedBy, hrest] at hhead
        rw [hrest]
        exact hhead
      obtain ⟨mid', hnext'⟩ := next_of_followedBy hmode hne hnext
      obtain ⟨hmode', hnext''⟩ := next_followedBy [] hmode hne hhead' hnext'
      cases hnext''.symm.trans hnext
      obtain ⟨stop, hscans, hstop⟩ := ih hmore hmode' hts
      exact ⟨stop, .token hne hnext' hscans, hstop⟩

end Scans

/-! ## How far a token reaches -/

/-- What stands at the front reaches no further than the text does. -/
theorem width_ahead_le {found : Kind × List Char} (h : (Scan.ahead mode c s).outcome = .ok found) :
    (Scan.ahead mode c s).width ≤ (c :: s).length := by
  unfold Scan.ahead at h ⊢
  split at h
  · next houtside =>
    rw [if_pos houtside]
    exact Scan.width_literal_le (c :: s)
  · next hinside =>
    rw [if_neg hinside]
    exact (Scan.inside_append [] h).2

/-- What a token covers is taken from what is left. -/
theorem offset_of_next (h : here.next = (.ok t, after)) :
    after.offset + after.rest.length = here.offset + here.rest.length := by
  obtain ⟨mode, offset, _ | ⟨c, s⟩⟩ := here
  · cases h
    rfl
  · obtain ⟨kind, text, hfound, -, rfl⟩ := next_eq_ok.mp h
    have hwidth := width_ahead_le hfound
    simp only [behind, List.length_drop]
    omega

/-- **Places are counted in characters.** -/
theorem Scans.offset_add_length (h : Scans here ts after) :
    after.offset + after.rest.length = here.offset + here.rest.length := by
  induction h with
  | refl => rfl
  | token _ hnext _ ih => exact ih.trans (offset_of_next hnext)

end Cursor

end Stencil
