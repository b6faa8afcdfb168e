import Stencil.Proofs.Scanning.Flaws

/-!
# Lexers over time

A lexer is asked for tokens one at a time, and can be put back to the beginning of its text or of another
one, also where it has found a flaw. Whatever it has been asked before, it stands within its text, and
asking it for a token moves it forward (`Lexer.Advances`): it stays where it is only at the end, which it
answers there and nowhere else, and at a character that no token starts with. Back at a beginning it goes
on as a new lexer does (`Lexer.advances_and_restarts`).
-/

namespace Stencil

/-! ## What is wrong covers characters -/

namespace Scan

variable {mode : Mode} {c : Char} {s digits : List Char} {flaw : Flaw}

/-- A quote that is not closed covers all the text. -/
theorem width_of_unclosed (h : (quotedText digits s).outcome = .error flaw) :
    (quotedText digits s).width = (digits ++ '\'' :: s).length := by
  unfold quotedText at h ⊢
  cases hquoted : quoted? s with
  | some found =>
    rw [hquoted] at h
    cases h
  | none =>
    simp only [List.length_append, List.length_cons]
    omega

private theorem width_of_flawed_number (h : (number s).outcome = .error flaw) :
    (number s).width = s.length := by
  rcases hnumeral : numeral s with ⟨kind, digits, rest⟩
  have hsplit := append_of_numeral hnumeral
  cases rest with
  | nil =>
    rw [number, hnumeral] at h
    cases h
  | cons d rest =>
    by_cases hquote : d = '\''
    · subst hquote
      rw [number_of_quote hnumeral] at h ⊢
      rw [width_of_unclosed h, hsplit]
    · rw [number_of_cons hnumeral hquote] at h
      split at h <;> cases h

private theorem width_operator_le (c : Char) (s : List Char) :
    (operator c s).width ≤ (c :: s).length := by
  have hle : (longestSpelling [c] s).length ≤ (c :: s).length := (longestSpelling_front [c]).length_le
  cases hspelling : Kind.ofSpelling? (longestSpelling [c] s) <;> simp only [operator, hspelling] <;>
    exact hle

/-- **Something wrong covers characters of the text**, unless no token starts like this whatever
follows. -/
theorem width_of_flaw (h : (inside c s).outcome = .error flaw) :
    (0 < (inside c s).width ∧ (inside c s).width ≤ (c :: s).length) ∨
      ∀ s, inside c s = ⟨.error (.unexpected c), 0⟩ := by
  obtain hblank | hnumber | hquote | hword | hoperator | hnone := inside_cases c
  · rw [hblank] at h
    cases h
  · rw [hnumber] at h ⊢
    rw [width_of_flawed_number h]
    exact .inl ⟨Nat.succ_pos _, Nat.le_refl _⟩
  · rw [hquote] at h ⊢
    rw [width_of_unclosed h]
    exact .inl ⟨Nat.succ_pos _, Nat.le_refl _⟩
  · rw [hword] at h
    cases h
  · rw [hoperator]
    exact .inl ⟨width_operator_pos c s, width_operator_le c s⟩
  · exact .inr hnone

/-- Some token inside the braces starts with this character. -/
def Starts (c : Char) : Prop := ∃ s found, (inside c s).outcome = .ok found

/-- **A character that starts no token is left where it is**, whatever follows. -/
theorem starts_or_unexpected (c : Char) :
    Starts c ∨ ∀ s, inside c s = ⟨.error (.unexpected c), 0⟩ := by
  unfold Starts inside
  by_cases hblank : Unicode.isBlank c = true
  · exact .inl ⟨[], _, by rw [if_pos hblank]; rfl⟩
  simp only [if_neg hblank]
  by_cases hdecimal : Unicode.isDecimal c = true
  · refine .inl ⟨[], (.integerConst, [c]), ?_⟩
    simp [hdecimal, number, numeral, verbatim]
  simp only [if_neg hdecimal]
  by_cases hquote : c = '\''
  · exact .inl ⟨['\''], _, by rw [if_pos hquote]; rfl⟩
  simp only [if_neg hquote]
  by_cases hname : startsName c = true
  · exact .inl ⟨[], _, by rw [if_pos hname]; rfl⟩
  simp only [if_neg hname]
  by_cases hoperator : Kind.startsOperator c = true
  · -- the character is the first one of a spelling, of which the rest can follow
    obtain ⟨entry, hentry, hfront⟩ := List.any_eq_true.mp hoperator
    simp only [Bool.and_eq_true, beq_iff_eq, Bool.not_eq_true'] at hfront
    obtain ⟨more, hmore⟩ := List.head?_eq_some_iff.mp hfront.1
    cases houtcome : (operator c more).outcome with
    | ok found => exact .inl ⟨more, found, by rw [if_pos hoperator, houtcome]⟩
    | error flaw =>
      obtain ⟨-, hnone⟩ := flaw_of_operator hoperator houtcome
      exact absurd (hmore ▸ List.prefix_refl entry.1) (hnone entry hentry)
  · exact .inr fun _ => if_neg hoperator

/-- What stands at the front reaches no further than the text does, also where something is wrong. -/
theorem width_le (mode : Mode) (c : Char) (s : List Char) :
    (Scan.ahead mode c s).width ≤ (c :: s).length := by
  cases hfound : (Scan.ahead mode c s).outcome with
  | ok found => exact Cursor.width_ahead_le hfound
  | error flaw =>
    obtain ⟨rfl, -⟩ := flaw_of_ahead hfound
    show (inside c s).width ≤ _
    obtain ⟨-, hle⟩ | hnone := width_of_flaw hfound
    · exact hle
    · rw [hnone]
      exact Nat.zero_le _

end Scan

/-! ## One token -/

namespace Cursor

variable {here : Cursor} {source : List Char}

/-- **The place is one in the text**, and what is left is the text from there on. -/
structure Within (source : List Char) (here : Cursor) : Prop where
  offset_le : here.offset ≤ source.length
  rest_eq : here.rest = source.drop here.offset

private theorem within_start (mode : Mode) (source : List Char) : (start mode source).Within source :=
  ⟨Nat.zero_le _, rfl⟩

/-- Behind a place in the text is another one, whatever is found in between. -/
theorem Within.next (h : here.Within source) : here.next.2.Within source := by
  obtain ⟨mode, offset, _ | ⟨c, s⟩⟩ := here
  · exact h
  obtain ⟨hoffset, hrest⟩ := h
  simp only at hoffset hrest
  have hlength := congrArg List.length hrest
  have hwidth := Scan.width_le mode c s
  rw [List.length_drop] at hlength
  rw [next_cons]
  refine ⟨?_, ?_⟩
  · show offset + (Scan.ahead mode c s).width ≤ source.length
    omega
  · show (c :: s).drop _ = source.drop (offset + (Scan.ahead mode c s).width)
    rw [hrest, List.drop_drop]

/-- **What is found at a place**: the end, where nothing is left; a token, or something wrong, that goes on
from there; or a character with which no token starts, which is not passed. -/
theorem next_cases (here : Cursor) :
    (here.rest = [] ∧ here.next = (.ok (.eof here.offset), here)) ∨
    (∃ t, here.next.1 = .ok t ∧ t.kind ≠ .eof ∧ here.offset < here.next.2.offset) ∨
    (∃ e, here.next.1 = .error e ∧ here.offset < here.next.2.offset ∧
      ∀ c ∈ here.rest.head?, Scan.Starts c) ∨
    ∃ e c, here.next = (.error e, here) ∧ here.rest.head? = some c ∧ ¬ Scan.Starts c := by
  obtain ⟨mode, offset, _ | ⟨c, s⟩⟩ := here
  · exact .inl ⟨rfl, rfl⟩
  right
  cases hfound : (Scan.ahead mode c s).outcome with
  | ok found =>
    obtain ⟨kind, text⟩ := found
    have hnext : next ⟨mode, offset, c :: s⟩ = _ := next_eq_ok.mpr ⟨kind, text, hfound, rfl, rfl⟩
    have hless := rest_lt_of_next hnext (List.cons_ne_nil c s)
    have hplaces := offset_of_next hnext
    rw [hnext]
    refine .inl ⟨_, rfl, kind_of_next (List.cons_ne_nil c s) hnext, ?_⟩
    simp only at hless hplaces ⊢
    omega
  | error flaw =>
    right
    obtain ⟨rfl, -⟩ := Scan.flaw_of_ahead hfound
    have hnext : next ⟨.program, offset, c :: s⟩ =
        (.error ⟨flaw, offset⟩, behind .program offset c s) := by
      rw [next_cons, hfound]
    rw [hnext]
    -- what is wrong with a token that starts here takes up some characters; a character that starts
    -- none is left where it is
    by_cases hstarts : Scan.Starts c
    · refine .inl ⟨_, rfl, ?_, fun d hd => Option.some.inj hd ▸ hstarts⟩
      show offset < offset + (Scan.inside c s).width
      obtain ⟨hpos, -⟩ | hnone := Scan.width_of_flaw hfound
      · exact Nat.lt_add_of_pos_right hpos
      · obtain ⟨s', found, hsome⟩ := hstarts
        rw [hnone] at hsome
        cases hsome
    · refine .inr ⟨⟨flaw, offset⟩, c, ?_, rfl, hstarts⟩
      have hclosing : c ≠ '}' := by
        rintro rfl
        exact hstarts ⟨[], _, congrArg Scan.outcome Scan.inside_closing⟩
      have hmode : modeAt .program c = .program := by
        rw [modeAt, if_neg hclosing, ite_self]
      have hinside : Scan.ahead .program c s = ⟨.error (.unexpected c), 0⟩ :=
        (Scan.starts_or_unexpected c).resolve_left hstarts s
      rw [behind, hinside, hmode]
      rfl

end Cursor

/-! ## One request after the other -/

namespace Lexer

/-- What a lexer can be asked for. -/
inductive Request where
  /-- The next token. -/
  | next
  /-- To go back to the beginning. -/
  | rewind
  /-- To go to the beginning of another text. -/
  | reset (source : List Char)
deriving DecidableEq, Repr

/-- The text that a lexer is put to. -/
def Request.source? : Request → Option (List Char)
  | next | rewind => none
  | reset source => some source

/-- A lexer after a request. -/
def serve (lexer : Lexer) : Request → Lexer
  | .next => lexer.next.2
  | .rewind => lexer.rewind
  | .reset source => lexer.reset source

/-- A lexer after requests. -/
def after (lexer : Lexer) (requests : List Request) : Lexer := requests.foldl serve lexer

/-- What the calls for a token among requests return, in order. -/
def answers (lexer : Lexer) : List Request → List (Except LexError Token)
  | [] => []
  | .next :: requests => lexer.next.1 :: answers lexer.next.2 requests
  | request :: requests => answers (lexer.serve request) requests

variable {lexer : Lexer} {requests more : List Request} {mode : Mode} {source : List Char}

private theorem answers_append (lexer : Lexer) (requests more : List Request) :
    lexer.answers (requests ++ more) = lexer.answers requests ++ (lexer.after requests).answers more := by
  induction requests generalizing lexer with
  | nil => rfl
  | cons request requests ih =>
    cases request with
    | next => exact congrArg (lexer.next.1 :: ·) (ih lexer.next.2)
    | rewind => exact ih lexer.rewind
    | reset source => exact ih (lexer.reset source)

/-- **What a lexer keeps**: the mode that it started in, and a place in its text. -/
structure Kept (mode : Mode) (lexer : Lexer) : Prop where
  mode_eq : lexer.mode = mode
  within : lexer.cursor.Within lexer.source

/-- A lexer that has just been made keeps its mode and a place in its text. -/
private theorem kept_start (mode : Mode) (source : List Char) : (start mode source).Kept mode :=
  ⟨rfl, Cursor.within_start mode source⟩

private theorem Kept.serve (h : lexer.Kept mode) (request : Request) :
    (lexer.serve request).Kept mode := by
  obtain ⟨rfl, hwithin⟩ := h
  cases request with
  | next => exact ⟨rfl, hwithin.next⟩
  | rewind => exact kept_start lexer.mode lexer.source
  | reset source => exact kept_start lexer.mode source

/-- After any number of requests a lexer keeps its mode and a place in its text. -/
theorem Kept.after (h : lexer.Kept mode) (requests : List Request) : (lexer.after requests).Kept mode := by
  induction requests generalizing lexer with
  | nil => exact h
  | cons request requests ih => exact ih (h.serve request)

/-- The text of a lexer is the last one that it was put to. -/
theorem source_after (lexer : Lexer) (requests : List Request) : (lexer.after requests).source =
    (requests.filterMap Request.source?).getLast?.getD lexer.source := by
  induction requests generalizing lexer with
  | nil => rfl
  | cons request requests ih =>
    cases request with
    | next => exact ih lexer.next.2
    | rewind => exact ih lexer.rewind
    | reset source =>
      have hsources : (Request.reset source :: requests).filterMap Request.source? =
          source :: requests.filterMap Request.source? := rfl
      rw [hsources, List.getLast?_cons]
      exact ih (lexer.reset source)

/-- Where nothing is left, every call returns the end. -/
theorem answers_replicate (h : lexer.cursor.rest = []) (n : Nat) :
    lexer.answers (.replicate n .next) = .replicate n (.ok (.eof lexer.cursor.offset)) := by
  have hcursor : lexer.cursor.next = (.ok (.eof lexer.cursor.offset), lexer.cursor) := by
    rw [Cursor.next, h]
  have hnext : lexer.next = (.ok (.eof lexer.cursor.offset), lexer) := by
    rw [Lexer.next, hcursor]
  induction n with
  | zero => rfl
  | succ n ih => rw [List.replicate_succ, List.replicate_succ, answers, hnext, ih]

/-- **A call for a token moves on.** A token other than the end does; the end comes exactly where nothing of
the text is left, and then again and again; something wrong does, or it leaves the lexer as it is, exactly
if no token starts with the character there. -/
structure Advances (lexer : Lexer) : Prop where
  token : ∀ t, lexer.next.1 = .ok t → t.kind ≠ .eof →
    lexer.cursor.offset < lexer.next.2.cursor.offset
  eof : ∀ t, lexer.next.1 = .ok t → t.kind = .eof →
    lexer.cursor.offset = lexer.source.length ∧ t = .eof lexer.source.length ∧
      ∀ n, lexer.next.2.answers (.replicate n .next) = .replicate n (.ok t)
  atEnd : lexer.cursor.offset = lexer.source.length → lexer.next.1 = .ok (.eof lexer.source.length)
  error : ∀ e, lexer.next.1 = .error e →
    lexer.cursor.offset < lexer.next.2.cursor.offset ∨ lexer.next.2 = lexer
  stays : ∀ e, lexer.next.1 = .error e →
    (lexer.next.2 = lexer ↔ ∃ c ∈ lexer.cursor.rest.head?, ¬ Scan.Starts c)

/-- Nothing is left of the text exactly if the place is its end. -/
theorem Kept.rest_eq_nil_iff (h : lexer.Kept mode) :
    lexer.cursor.rest = [] ↔ lexer.cursor.offset = lexer.source.length := by
  rw [h.within.rest_eq, List.drop_eq_nil_iff]
  exact ⟨Nat.le_antisymm h.within.offset_le, fun hoffset => Nat.le_of_eq hoffset.symm⟩

/-- Where something else than the end is found, something is left. -/
theorem Kept.not_atEnd (h : lexer.Kept mode)
    (hnext : lexer.cursor.next.1 ≠ .ok (.eof lexer.cursor.offset)) :
    lexer.cursor.offset ≠ lexer.source.length := by
  intro hoffset
  rw [Cursor.next, h.rest_eq_nil_iff.mpr hoffset] at hnext
  exact hnext rfl

private theorem Kept.advances (h : lexer.Kept mode) : lexer.Advances := by
  have hfirst : lexer.next.1 = lexer.cursor.next.1 := rfl
  have hafter : lexer.next.2 = { lexer with cursor := lexer.cursor.next.2 } := rfl
  -- one case for each thing that can be found at a place, and in each of them most fields are about
  -- another one
  obtain ⟨hrest, hnext⟩ | ⟨t, hnext, hkind, hlt⟩ | ⟨e, hnext, hlt, hstarts⟩ | ⟨e, c, hnext, hc, hstarts⟩ :=
    lexer.cursor.next_cases
  · rw [hnext] at hfirst hafter
    have hoffset := h.rest_eq_nil_iff.mp hrest
    have hagain := answers_replicate hrest
    have hsame : lexer.next.2 = lexer := hafter
    rw [hoffset] at hfirst hagain
    exact {
      token := fun t ht hkind => absurd (Except.ok.inj (hfirst.symm.trans ht) ▸ rfl) hkind
      eof := fun t ht _ => by
        obtain rfl := Except.ok.inj (hfirst.symm.trans ht)
        exact ⟨hoffset, rfl, by rw [hsame]; exact hagain⟩
      atEnd := fun _ => hfirst
      error := fun e he => nomatch hfirst.symm.trans he
      stays := fun e he => nomatch hfirst.symm.trans he }
  · have hleft := h.not_atEnd fun hend => hkind (Except.ok.inj (hnext.symm.trans hend) ▸ rfl)
    rw [hnext] at hfirst
    exact {
      token := fun _ _ _ => hlt
      atEnd := fun hend => absurd hend hleft
      eof := fun t' ht' heof => absurd (Except.ok.inj (hfirst.symm.trans ht') ▸ heof) hkind
      error := fun e he => nomatch hfirst.symm.trans he
      stays := fun e he => nomatch hfirst.symm.trans he }
  · have hleft := h.not_atEnd fun hend => nomatch hnext.symm.trans hend
    rw [hnext] at hfirst
    exact {
      token := fun t ht => nomatch hfirst.symm.trans ht
      eof := fun t ht => nomatch hfirst.symm.trans ht
      atEnd := fun hend => absurd hend hleft
      error := fun _ _ => .inl hlt
      stays := fun _ _ => by
        refine iff_of_false (fun hsame => ?_) fun ⟨c, hc, hnone⟩ => hnone (hstarts c hc)
        rw [hafter] at hsame
        exact absurd (congrArg (·.cursor.offset) hsame) (Nat.ne_of_gt hlt) }
  · have hleft := h.not_atEnd fun hend => nomatch (congrArg Prod.fst hnext).symm.trans hend
    rw [hnext] at hfirst hafter
    exact {
      token := fun t ht => nomatch hfirst.symm.trans ht
      eof := fun t ht => nomatch hfirst.symm.trans ht
      atEnd := fun hend => absurd hend hleft
      error := fun _ _ => .inr hafter
      stays := fun _ _ => iff_of_true hafter ⟨c, hc, hstarts⟩ }

/-- **A lexer always moves forward, and starts over cleanly.** Whatever a lexer has been asked for, it stands
within its text and the next call for a token moves on. Gone back to the beginning, or put to another
text, it answers what a new lexer answers that starts in the same mode. -/
theorem advances_and_restarts (mode : Mode) (source : List Char) (requests : List Request) :
    let lexer := (start mode source).after requests
    let current := (requests.filterMap Request.source?).getLast?.getD source
    lexer.source = current ∧ lexer.cursor.offset ≤ current.length ∧ lexer.Advances ∧
    ∀ more, ((start mode source).answers (requests ++ .rewind :: more) =
        (start mode source).answers requests ++ (start mode current).answers more) ∧
      ∀ other, (start mode source).answers (requests ++ .reset other :: more) =
        (start mode source).answers requests ++ (start mode other).answers more := by
  intro lexer current
  have hkept : lexer.Kept mode := (kept_start mode source).after requests
  have hsource : lexer.source = current := source_after (start mode source) requests
  refine ⟨hsource, hsource ▸ hkept.within.offset_le, hkept.advances, fun more => ⟨?_, fun other => ?_⟩⟩
  · rw [answers_append]
    show _ ++ (start lexer.mode lexer.source).answers more = _
    rw [hkept.mode_eq, hsource]
  · rw [answers_append]
    show _ ++ (start lexer.mode other).answers more = _
    rw [hkept.mode_eq]

end Lexer

end Stencil
