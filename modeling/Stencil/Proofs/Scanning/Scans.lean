import Stencil.Proofs.Reading.Whole

/-!
# Scanning texts

The tokens between two places in a text, as a relation (`Cursor.Scans`). A supply made of a text comes
to an end exactly if the whole text is scanned, and the tokens in front of the end are then the tokens
of the text (`Token.Supply.ends_ofText`). Nothing of this depends on where a text stands: further on
the tokens are the same, only further on (`Cursor.Scans.moved`).
-/

namespace Stencil

/-! ## Kinds of tokens -/

/-- A spelling that is found is in the table. -/
theorem Kind.mem_spellings {text : List Char} {kind : Kind} (h : ofSpelling? text = some kind) :
    (text, kind) ∈ spellings := by
  obtain ⟨before, behind, hsplit, -⟩ := List.lookup_eq_some_iff.mp h
  rw [hsplit]
  exact List.mem_append_right _ List.mem_cons_self

/-- Nothing spells the end. -/
theorem Kind.ne_eof_of_ofSpelling? {text : List Char} {kind : Kind}
    (h : ofSpelling? text = some kind) : kind ≠ .eof := by
  have hall : ∀ entry ∈ spellings, entry.2 ≠ eof := by decide
  exact hall _ (mem_spellings h)

namespace Scan

variable {c : Char} {front s text : List Char} {kind : Kind}

private theorem kind_of_quotedText (h : (quotedText front s).outcome = .ok (kind, text)) :
    kind = .textLiteral := by
  unfold quotedText at h
  cases hquoted : quoted? s with
  | none =>
    rw [hquoted] at h
    cases h
  | some found =>
    rw [hquoted] at h
    cases h
    rfl

private theorem kind_numeral_ne_eof : (numeral s).1 ≠ .eof := by
  unfold numeral
  split <;> exact nofun

private theorem kind_number_ne_eof (h : (number s).outcome = .ok (kind, text)) : kind ≠ .eof := by
  have hnumeral := kind_numeral_ne_eof (s := s)
  unfold number at h
  split at h
  next digits rest hscan =>
  rw [hscan] at hnumeral
  split at h
  · cases h
    exact hnumeral
  · rw [kind_of_quotedText h]
    exact nofun
  · split at h
    · cases h
      exact hnumeral
    · cases h
      exact nofun

private theorem kind_word_ne_eof (h : (word s).outcome = .ok (kind, text)) : kind ≠ .eof := by
  simp only [word, verbatim, Except.ok.injEq, Prod.mk.injEq] at h
  obtain ⟨rfl, -⟩ := h
  cases hspelling : Kind.ofSpelling? (s.takeWhile continuesName) with
  | none =>
    show Kind.identifier ≠ .eof
    decide
  | some found => exact Kind.ne_eof_of_ofSpelling? hspelling

private theorem kind_operator_ne_eof (h : (operator c s).outcome = .ok (kind, text)) : kind ≠ .eof := by
  unfold operator verbatim at h
  cases hspelling : Kind.ofSpelling? (longestSpelling [c] s) with
  | none =>
    simp only [hspelling, reduceCtorEq] at h
  | some found =>
    simp only [hspelling, Except.ok.injEq, Prod.mk.injEq] at h
    exact h.1 ▸ Kind.ne_eof_of_ofSpelling? hspelling

/-- The first character decides what kind of token there is inside the braces. -/
theorem inside_cases (c : Char) :
    (∀ s, inside c s = verbatim .whitespace (c :: s.takeWhile Unicode.isBlank)) ∨
    (∀ s, inside c s = number (c :: s)) ∨ (∀ s, inside c s = quotedText [] s) ∨
    (∀ s, inside c s = word (c :: s)) ∨ (∀ s, inside c s = operator c s) ∨
    ∀ s, inside c s = ⟨.error (.unexpected c), 0⟩ := by
  unfold inside
  by_cases hblank : Unicode.isBlank c = true
  · exact .inl fun s => if_pos hblank
  by_cases hdecimal : Unicode.isDecimal c = true
  · exact .inr (.inl fun s => by rw [if_neg hblank, if_pos hdecimal])
  by_cases hquote : c = '\''
  · exact .inr (.inr (.inl fun s => by rw [if_neg hblank, if_neg hdecimal, if_pos hquote]))
  simp only [if_neg hblank, if_neg hdecimal, if_neg hquote]
  by_cases hname : startsName c = true
  · exact .inr (.inr (.inr (.inl fun s => if_pos hname)))
  by_cases hoperator : Kind.startsOperator c = true
  · exact .inr (.inr (.inr (.inr (.inl fun s => by rw [if_neg hname, if_pos hoperator]))))
  · exact .inr (.inr (.inr (.inr (.inr fun s => by rw [if_neg hname, if_neg hoperator]))))

/-- No token inside the braces is one for the end. -/
theorem kind_inside_ne_eof (h : (inside c s).outcome = .ok (kind, text)) : kind ≠ .eof := by
  obtain hblank | hnumber | hquote | hword | hoperator | hnone := inside_cases c
  · rw [hblank] at h
    cases h
    exact nofun
  · exact kind_number_ne_eof (hnumber s ▸ h)
  · rw [hquote] at h
    rw [kind_of_quotedText h]
    exact nofun
  · exact kind_word_ne_eof (hword s ▸ h)
  · exact kind_operator_ne_eof (hoperator s ▸ h)
  · rw [hnone] at h
    cases h

/-- What stands at the front, in one mode or the other. -/
def ahead (mode : Mode) (c : Char) (s : List Char) : Scan :=
  if mode = .text && c ≠ '{' then outside (c :: s) else inside c s

private theorem kind_ahead_ne_eof {mode : Mode} (h : (Scan.ahead mode c s).outcome = .ok (kind, text)) :
    kind ≠ .eof := by
  unfold Scan.ahead at h
  split at h
  · cases h
    exact nofun
  · exact kind_inside_ne_eof h

end Scan

namespace Cursor

variable {here mid after : Cursor} {t : Token} {ts us : List Token} {mode : Mode} {offset : Nat}
  {c : Char} {s : List Char}

/-- The place behind what stands at the front of some characters. -/
def behind (mode : Mode) (offset : Nat) (c : Char) (s : List Char) : Cursor :=
  ⟨modeAt mode c, offset + (Scan.ahead mode c s).width, (c :: s).drop (Scan.ahead mode c s).width⟩

/-- A token is what stands at the front. -/
theorem next_cons : next ⟨mode, offset, c :: s⟩ =
    ((match (Scan.ahead mode c s).outcome with
      | .ok (kind, text) => .ok ⟨kind, String.ofList text, offset⟩
      | .error flaw => .error ⟨flaw, offset⟩), behind mode offset c s) := by
  show (match (Scan.ahead mode c s).outcome with
    | .ok (kind, text) => _
    | .error flaw => _) = _
  cases (Scan.ahead mode c s).outcome <;> rfl

/-- The token at a place is what stands at the front there, and the next place is behind it. -/
theorem next_eq_ok : next ⟨mode, offset, c :: s⟩ = (.ok t, after) ↔
    ∃ kind text, (Scan.ahead mode c s).outcome = .ok (kind, text) ∧
      t = ⟨kind, String.ofList text, offset⟩ ∧ after = behind mode offset c s := by
  rw [next_cons]
  cases (Scan.ahead mode c s).outcome with
  | ok found =>
    constructor
    · intro h
      cases h
      exact ⟨_, _, rfl, rfl, rfl⟩
    · rintro ⟨_, _, hfound, rfl, rfl⟩
      cases hfound
      rfl
  | error flaw =>
    constructor
    · intro h
      cases h
    · rintro ⟨_, _, hfound, -⟩
      cases hfound

/-- Where characters are left, there is no token for the end. -/
theorem kind_of_next (hrest : here.rest ≠ []) (h : here.next = (.ok t, after)) : t.kind ≠ .eof := by
  obtain ⟨mode, offset, _ | ⟨c, s⟩⟩ := here
  · exact absurd rfl hrest
  · obtain ⟨kind, text, hfound, rfl, -⟩ := next_eq_ok.mp h
    exact Scan.kind_ahead_ne_eof hfound

/-! ## From one place to another -/

/-- **Between two places in a text there are these tokens.** -/
inductive Scans : Cursor → List Token → Cursor → Prop
  | refl {here : Cursor} : Scans here [] here
  | token {here mid after : Cursor} {t : Token} {ts : List Token} :
      here.rest ≠ [] → here.next = (.ok t, mid) → Scans mid ts after → Scans here (t :: ts) after

namespace Scans

private theorem kind_ne_eof (h : Scans here ts after) : ∀ t ∈ ts, t.kind ≠ .eof := by
  induction h with
  | refl => exact List.forall_mem_nil _
  | token hrest hnext _ ih => exact List.forall_mem_cons.mpr ⟨kind_of_next hrest hnext, ih⟩

/-- Tokens up to a place and from it on are tokens in sequence. -/
theorem append (h : Scans here ts mid) (h' : Scans mid us after) : Scans here (ts ++ us) after := by
  induction h with
  | refl => exact h'
  | token hrest hnext _ ih => exact .token hrest hnext (ih h')

/-- The first of the tokens is the next one. -/
theorem cons (h : Scans here (t :: ts) after) :
    ∃ mid, here.rest ≠ [] ∧ here.next = (.ok t, mid) ∧ Scans mid ts after := by
  cases h with
  | token hrest hnext hmore => exact ⟨_, hrest, hnext, hmore⟩

end Scans

/-- What is scanned to the end is what there is. -/
theorem Scans.drain (h : Scans here ts after) (hend : after.rest = []) :
    here.drain = (ts ++ [.eof after.offset], none, after) := by
  induction h with
  | refl => rw [Cursor.drain, dif_pos hend, List.nil_append]
  | token hrest hnext _ ih =>
    rw [Cursor.drain, dif_neg hrest]
    split
    · next hnext' =>
      cases hnext.symm.trans hnext'
      rw [ih hend]
      rfl
    · next hnext' => cases hnext.symm.trans hnext'

/-- What there is leads to the end, or to a place where no token can be made out. -/
theorem scans_of_drain {tokens : List Token} {flaw : Option LexError}
    (h : here.drain = (tokens, flaw, after)) :
    (flaw = none ∧ after.rest = [] ∧ ∃ ts, tokens = ts ++ [.eof after.offset] ∧ Scans here ts after) ∨
    ∃ e mid, flaw = some e ∧ Scans here tokens mid ∧ mid.next = (.error e, after) := by
  induction here using drain.induct generalizing tokens with
  | case1 here hrest =>
    rw [Cursor.drain, dif_pos hrest] at h
    cases h
    exact .inl ⟨rfl, hrest, [], rfl, .refl⟩
  | case2 here hrest t mid hnext _ _ _ _ ih =>
    rw [Cursor.drain, dif_neg hrest] at h
    split at h
    · next hnext' =>
      cases hnext.symm.trans hnext'
      cases h
      obtain ⟨hflaw, hend, us, hus, hscans⟩ | ⟨e, stop, hflaw, hscans, hstop⟩ := ih rfl
      · exact .inl ⟨hflaw, hend, t :: us, congrArg (t :: ·) hus, .token hrest hnext hscans⟩
      · exact .inr ⟨e, stop, hflaw, .token hrest hnext hscans, hstop⟩
    · next hnext' => cases hnext.symm.trans hnext'
  | case3 here hrest e stop hnext =>
    rw [Cursor.drain, dif_neg hrest] at h
    split at h
    · next hnext' => cases hnext.symm.trans hnext'
    · next hnext' =>
      cases hnext.symm.trans hnext'
      cases h
      exact .inr ⟨e, here, rfl, .refl, hnext⟩

end Cursor

/-! ## Further on -/

/-- The same token further on. -/
def Token.moved (distance : Nat) (t : Token) : Token :=
  { t with offset := t.offset + distance }

/-- The same characters further on. -/
def Cursor.moved (distance : Nat) (here : Cursor) : Cursor :=
  { here with offset := here.offset + distance }

namespace Cursor

variable {here after : Cursor} {t : Token} {ts : List Token} {k : Nat}

/-- The next token is the same further on. -/
theorem next_moved (hrest : here.rest ≠ []) : (here.moved k).next = (.ok t, after) ↔
    ∃ u mid, here.next = (.ok u, mid) ∧ t = u.moved k ∧ after = mid.moved k := by
  obtain ⟨mode, offset, _ | ⟨c, s⟩⟩ := here
  · exact absurd rfl hrest
  · have hbehind : behind mode (offset + k) c s = (behind mode offset c s).moved k := by
      unfold behind moved
      rw [Nat.add_right_comm]
    show next ⟨mode, offset + k, c :: s⟩ = _ ↔ _
    rw [next_eq_ok, hbehind]
    constructor
    · rintro ⟨kind, text, hfound, rfl, rfl⟩
      exact ⟨_, _, next_eq_ok.mpr ⟨kind, text, hfound, rfl, rfl⟩, rfl, rfl⟩
    · rintro ⟨u, mid, hnext, rfl, rfl⟩
      obtain ⟨kind, text, hfound, rfl, rfl⟩ := next_eq_ok.mp hnext
      exact ⟨kind, text, hfound, rfl, rfl⟩

namespace Scans

/-- **Further on there are the same tokens, further on.** -/
theorem moved (h : Scans here ts after) :
    Scans (here.moved k) (ts.map (Token.moved k)) (after.moved k) := by
  induction h with
  | refl => exact .refl
  | token hrest hnext _ ih =>
    exact .token hrest ((next_moved hrest).mpr ⟨_, _, hnext, rfl, rfl⟩) ih

/-- And there are no others. -/
theorem of_moved (h : Scans (here.moved k) ts after) :
    ∃ us mid, Scans here us mid ∧ ts = us.map (Token.moved k) ∧ after = mid.moved k := by
  generalize hhere : here.moved k = place at h
  induction h generalizing here with
  | refl => exact ⟨[], here, .refl, rfl, hhere.symm⟩
  | token hrest hnext _ ih =>
    subst hhere
    have hrest : here.rest ≠ [] := hrest
    obtain ⟨u, mid, hnext', rfl, hmid⟩ := (next_moved hrest).mp hnext
    obtain ⟨us, mid', hscans, rfl, rfl⟩ := ih hmid.symm
    exact ⟨u :: us, mid', .token hrest hnext' hscans, rfl, rfl⟩

end Scans

end Cursor

/-! ## Whole texts -/

namespace Token.Supply

variable {mode : Mode} {source : List Char} {tokens : List Token} {t : Token} {after : Cursor}

/-- Where the tokens reach the end of the text, they are its supply. -/
theorem ofText_of_scans (h : Cursor.Scans (.start mode source) tokens after) (hend : after.rest = []) :
    ofText mode source = { ahead := tokens ++ [.eof after.offset], last := .ok after.offset } := by
  rw [ofText, h.drain hend]

/-- **A supply made of a text comes to an end exactly if the whole text is scanned**, and its tokens
are then those in front of the end. -/
theorem ends_ofText : (ofText mode source).Ends ∧ (ofText mode source).front = tokens ↔
    ∃ after, Cursor.Scans (.start mode source) tokens after ∧ after.rest = [] := by
  have hfront {ts : List Token} {stop : Nat} (hts : ∀ t ∈ ts, t.kind ≠ .eof) :
      Token.front (ts ++ [.eof stop]) = ts := by
    induction ts with
    | nil => exact Token.front_of_eof rfl
    | cons t ts ih =>
      obtain ⟨ht, hts⟩ := List.forall_mem_cons.mp hts
      rw [List.cons_append, Token.front_cons ht, ih hts]
  constructor
  · rintro ⟨hends, rfl⟩
    cases hdrain : (Cursor.start mode source).drain with
    | mk found rest =>
      obtain ⟨flaw, stop⟩ := rest
      obtain ⟨rfl, hend, ts, rfl, hscans⟩ | ⟨e, mid, rfl, hscans, -⟩ := Cursor.scans_of_drain hdrain
      · refine ⟨stop, ?_, hend⟩
        rw [front, ofText_of_scans hscans hend, hfront hscans.kind_ne_eof]
        exact hscans
      · rw [Ends, ofText, hdrain] at hends
        obtain ⟨t, ht, heof⟩ | ⟨stop, hstop⟩ := hends
        · exact absurd heof (hscans.kind_ne_eof t ht)
        · cases hstop
  · rintro ⟨after, hscans, hend⟩
    rw [front, ofText_of_scans hscans hend]
    exact ⟨.inr ⟨_, rfl⟩, hfront hscans.kind_ne_eof⟩

end Token.Supply

end Stencil
