import Stencil.Proofs.Reading.Sound
import Stencil.Proofs.Reading.Complete

/-!
# Whole texts

A program without braces is read as exactly that tree which its significant tokens derive, if the
levels of the derivation are not too many (`Node.ofSupply_program_eq_ok`); if they are, that is what the
error says (`Node.ofSupply_program_of_tooDeep`). The significant tokens are those in front of the
first token for the end, without the blanks. A template that is read has fragments that are derived,
each from its own tokens (`Node.ofSupply_text_eq_ok`).
-/

namespace Stencil

/-! ## The tokens in front of the end -/

namespace Token

/-- The tokens in front of the first one for the end. -/
def front (tokens : List Token) : List Token := tokens.takeWhile fun t => decide (t.kind ≠ .eof)

/-- The tokens that are no blanks. -/
def solid (tokens : List Token) : List Token := tokens.filter fun t => decide (t.kind ≠ .whitespace)

variable {t : Token} {ts us : List Token}

/-- Nothing counts from the end on. -/
theorem front_of_eof (h : t.kind = .eof) : front (t :: ts) = [] := by
  rw [front, List.takeWhile_cons_of_neg (by simp [h])]

/-- Any other token counts. -/
theorem front_cons (h : t.kind ≠ .eof) : front (t :: ts) = t :: front ts := by
  rw [front, List.takeWhile_cons_of_pos (by simp [h]), front]

/-- A blank is left out. -/
theorem solid_of_blank (h : t.kind = .whitespace) : solid (t :: ts) = solid ts := by
  rw [solid, List.filter_cons_of_neg (by simp [h]), solid]

/-- Any other token is kept. -/
theorem solid_cons (h : t.kind ≠ .whitespace) : solid (t :: ts) = t :: solid ts := by
  rw [solid, List.filter_cons_of_pos (by simp [h]), solid]

/-- Blanks are left out part by part. -/
theorem solid_append : solid (ts ++ us) = solid ts ++ solid us :=
  List.filter_append _ _

/-- Tokens without an end all count. -/
theorem front_eq_self (h : ∀ t ∈ ts, t.kind ≠ .eof) : front ts = ts := by
  induction ts with
  | nil => rfl
  | cons t ts ih =>
    obtain ⟨ht, hts⟩ := List.forall_mem_cons.mp h
    rw [front_cons ht, ih hts]

/-- What leaves every end where it is leaves the tokens in front of the first one in front. -/
theorem front_filter {p : Token → Bool} (h : ∀ t, t.kind = .eof → p t = true) (tokens : List Token) :
    front (tokens.filter p) = (front tokens).filter p := by
  have hstops : (fun t : Token => !p t || decide (t.kind ≠ .eof)) =
      fun t => decide (t.kind ≠ .eof) := by
    funext t
    by_cases hend : t.kind = .eof
    · simp [hend, h t hend]
    · simp [hend]
  rw [front, List.takeWhile_filter, hstops, front]

/-- Tokens without blanks are all kept. -/
theorem solid_eq_self (h : ∀ t ∈ ts, t.kind ≠ .whitespace) : solid ts = ts :=
  List.filter_eq_self.mpr fun t ht => decide_eq_true (h t ht)

namespace Supply

/-- The tokens of a supply in front of the end. -/
def front (supply : Supply) : List Token := Token.front supply.ahead

/-- Those of them that are no blanks. -/
def significant (supply : Supply) : List Token := Token.solid supply.front

/-- The supply comes to an end, rather than to an error. -/
def Ends (supply : Supply) : Prop :=
  (∃ t ∈ supply.ahead, t.kind = .eof) ∨ ∃ stop, supply.last = .ok stop

end Supply

end Token

namespace Parser

/-- The token looked at and those ahead of it, in front of the end. -/
def State.front (s : State) : List Token := Token.front (s.current :: s.supply.ahead)

/-- The reader looks at the end, or there is one ahead. -/
def State.Ends (s : State) : Prop := s.current.kind = .eof ∨ s.supply.Ends

section
variable {s m s' : State} {tokens raw more : List Token}

/-- A step leaves what is behind the token that it takes. -/
theorem State.Steps.front (h : s.Steps m) : m.front = s.supply.front := by
  unfold Token.Supply.front
  cases hahead : s.supply.ahead with
  | nil => exact Token.front_of_eof (h.kind_of_nil hahead)
  | cons next ahead =>
    obtain ⟨hcurrent, hrest⟩ := h.of_cons hahead
    rw [State.front, hcurrent, hrest]

/-- A step passes the first of the tokens ahead. -/
theorem State.Steps.front_eq (h : s.Steps m) (hend : s.current.kind ≠ .eof) :
    s.front = s.current :: m.front := by
  rw [h.front, State.front, Token.front_cons hend]
  rfl

/-- A step leads neither to an end nor away from it. -/
theorem State.Steps.ends_iff (h : s.Steps m) : s.supply.Ends ↔ m.Ends := by
  unfold State.Ends
  cases hahead : s.supply.ahead with
  | nil =>
    have hend := h.kind_of_nil hahead
    unfold State.Steps Token.Supply.pull at h
    rw [hahead] at h
    cases hlast : s.supply.last with
    | error e => simp [hlast, Except.map] at h
    | ok stop => exact iff_of_true (.inr ⟨stop, hlast⟩) (.inl hend)
  | cons next ahead =>
    obtain ⟨hcurrent, hrest⟩ := h.of_cons hahead
    rw [Token.Supply.Ends, Token.Supply.Ends, hahead, hrest, h.last, hcurrent]
    simp only [List.mem_cons, exists_eq_or_imp, or_assoc]

/-- Where there is an end, the next token is there. -/
theorem exists_steps (h : s.supply.Ends) : ∃ m, s.Steps m ∧ m.depth = s.depth := by
  unfold State.Steps Token.Supply.pull
  cases hahead : s.supply.ahead with
  | nil =>
    obtain ⟨t, ht, -⟩ | ⟨stop, hlast⟩ := h
    · rw [hahead] at ht
      cases ht
    · exact ⟨⟨.eof stop, _, s.depth⟩, by rw [hlast]; rfl, rfl⟩
  | cons next ahead => exact ⟨⟨next, _, s.depth⟩, rfl, rfl⟩

/-- What is passed stands in front, with blanks in between. -/
theorem Passes.front (h : Passes s tokens s') (htokens : ∀ t ∈ tokens, t.kind ≠ .eof) :
    ∃ raw, s.front = raw ++ s'.front ∧ Token.solid raw = tokens := by
  induction h with
  | refl hc hs => exact ⟨[], by rw [State.front, State.front, hc, hs, List.nil_append], rfl⟩
  | blank hstep hblank _ ih =>
    obtain ⟨raw, hfront, hsolid⟩ := ih htokens
    refine ⟨_ :: raw, ?_, (Token.solid_of_blank hblank).trans hsolid⟩
    rw [hstep.front_eq (by rw [hblank]; decide), hfront, List.cons_append]
  | @token s _ _ _ hstep hsettled _ ih =>
    obtain ⟨hfirst, hrest⟩ := List.forall_mem_cons.mp htokens
    obtain ⟨raw, hfront, hsolid⟩ := ih hrest
    refine ⟨s.current :: raw, ?_, ?_⟩
    · rw [hstep.front_eq hfirst, hfront, List.cons_append]
    · rw [Token.solid_cons hsettled, hsolid]

/-- Passing leads to no end that was not there. -/
theorem Passes.ends (h : Passes s tokens s') (hends : s'.Ends) : s.Ends := by
  induction h with
  | refl hc hs => rwa [State.Ends, hc, hs]
  | blank hstep _ _ ih => exact .inr (hstep.ends_iff.mpr (ih hends))
  | token hstep _ _ ih => exact .inr (hstep.ends_iff.mpr (ih hends))

/-- In front of nothing is the end. -/
theorem State.kind_of_front (h : s.front = []) : s.current.kind = .eof := by
  by_cases hend : s.current.kind = .eof
  · exact hend
  · rw [State.front, Token.front_cons hend] at h
    cases h

/-- The first token in front of the end is the one looked at, and it can be taken. -/
theorem exists_steps_of_front {t : Token} (hends : s.Ends) (h : s.front = t :: more) :
    s.current = t ∧ t.kind ≠ .eof ∧ ∃ m, s.Steps m ∧ m.depth = s.depth ∧ m.front = more ∧ m.Ends := by
  have hend : s.current.kind ≠ .eof := by
    intro hend
    rw [State.front, Token.front_of_eof hend] at h
    cases h
  have hahead := hends.resolve_left hend
  obtain ⟨m, hstep, hdepth⟩ := exists_steps hahead
  rw [hstep.front_eq hend] at h
  obtain ⟨hfirst, hrest⟩ := List.cons.inj h
  exact ⟨hfirst, hfirst ▸ hend, m, hstep, hdepth, hrest, hstep.ends_iff.mp hahead⟩

/-- **Where there is an end, whatever stands in front of it can be passed.** -/
theorem exists_passes (hends : s.Ends) (h : s.front = raw ++ more) :
    ∃ m, Passes s (Token.solid raw) m ∧ m.front = more ∧ m.depth = s.depth ∧ m.Ends := by
  induction raw generalizing s with
  | nil => exact ⟨s, .refl rfl rfl, h, rfl, hends⟩
  | cons t raw ih =>
    obtain ⟨rfl, -, m, hstep, hdepth, hrest, hends'⟩ := exists_steps_of_front hends h
    obtain ⟨m', hpasses, hfront, hdepth', hends''⟩ := ih hends' hrest
    refine ⟨m', ?_, hfront, hdepth'.trans hdepth, hends''⟩
    by_cases hblank : s.current.kind = .whitespace
    · rw [Token.solid_of_blank hblank]
      exact .blank hstep hblank hpasses
    · rw [Token.solid_cons hblank]
      exact .token hstep hblank hpasses

end

/-! ## Reading from a supply -/

section
variable {α : Type} {p : Parser α} {supply : Token.Supply} {s s' : State} {a : α}

/-- Before the first token is looked at. -/
def State.before (supply : Token.Supply) : State := ⟨default, supply, 0⟩

/-- What a reader answers is what it answers from the first token. -/
theorem run_eq_ok : (p.run supply).1 = .ok a ↔
    ∃ s s', (State.before supply).Steps s ∧ s.depth = 0 ∧ p s = .ok a s' := by
  unfold run State.Steps State.before
  constructor
  · intro h
    cases hpull : supply.pull with
    | mk found rest =>
      cases found with
      | error e =>
        rw [hpull] at h
        cases h
      | ok current =>
        rw [hpull] at h
        refine ⟨⟨current, rest, 0⟩, ?_⟩
        cases hp : p ⟨current, rest, 0⟩ with
        | ok a' s' =>
          simp only [hp, Except.ok.injEq] at h
          exact ⟨s', rfl, rfl, by rw [h]⟩
        | error e s' => simp only [hp, reduceCtorEq] at h
  · rintro ⟨⟨current, rest, depth⟩, s', hpull, rfl, hp⟩
    rw [show supply.pull = (.ok current, rest) from hpull]
    simp only [hp]

/-- A reader that fails from the first token fails. -/
theorem run_of_error {e : ParseError} (h : (State.before supply).Steps s) (hdepth : s.depth = 0)
    (hp : p s = .error e s') : (p.run supply).1 = .error e := by
  obtain ⟨current, rest, depth⟩ := s
  obtain rfl : depth = 0 := hdepth
  unfold run
  rw [show supply.pull = (.ok current, rest) from h]
  simp only [hp]

end

/-! ## A program without braces -/

section
variable {s s' : State} {node : Node} {n : Nat}

/-- A program by itself, with the blanks that are passed. -/
theorem programBody_eq : programBody = (do
    let node ← settled (statement maxDepth)
    if ← at? .eof then return node else fail .endOfInput) := by
  simp only [programBody, settled, bind_assoc, pure_bind]

/-- What is read as a program is derived from all there is. -/
theorem derived_programBody (hdepth : s.depth = 0) (h : programBody s = .ok node s') :
    s.Ends ∧ ∃ n ≤ maxDepth, Reads .eof n (Token.solid s.front) (.statement node) := by
  rw [programBody_eq] at h
  obtain ⟨node', m, hrun, h⟩ := bind_eq_ok.mp h
  obtain ⟨n, tokens, hspan, hle, hreads⟩ :=
    (sound_readers maxDepth).1 (by rw [hdepth]; exact Nat.zero_le _) hrun
  rw [hdepth, Nat.zero_add] at hle
  rw [bind_of_ok (at?_run .eof m)] at h
  by_cases hend : m.current.kind = .eof
  · simp only [hend, BEq.rfl, ↓reduceIte] at h
    obtain ⟨rfl, rfl⟩ := pure_eq_ok.mp h
    have htokens : ∀ t ∈ tokens, t.kind ≠ .eof := fun t ht => (hreads.insideProgram t ht).not_eof
    obtain ⟨raw, hfront, rfl⟩ := hspan.passes.front htokens
    have hnone : m.front = [] := Token.front_of_eof hend
    rw [hnone, List.append_nil] at hfront
    rw [hend, ← hfront] at hreads
    exact ⟨hspan.passes.ends (.inl hend), n, hle, hreads⟩
  · simp only [beq_eq_false_iff_ne.mpr hend, Bool.false_eq_true, ↓reduceIte, fail_run,
      reduceCtorEq] at h

/-- What is derived from all there is is read as a program. -/
theorem leads_programBody {supply : Token.Supply} (hends : supply.Ends)
    (hreads : Reads .eof n supply.significant (.statement node)) :
    ∃ s s', (State.before supply).Steps s ∧ s.depth = 0 ∧ Leads n (programBody s) (.ok node s') := by
  obtain ⟨s, hstep, hdepth⟩ := exists_steps (s := State.before supply) hends
  have hall : s.front = supply.front := hstep.front
  obtain ⟨s', hpasses, hfront, hdepth', -⟩ :=
    exists_passes (hstep.ends_iff.mp hends) (List.append_nil s.front).symm
  have hend : s'.current.kind = .eof := State.kind_of_front hfront
  have hspan : Spans s (Token.solid s.front) s' :=
    ⟨hpasses, by rw [State.Settled, hend]; decide, hdepth'⟩
  rw [hall] at hspan
  have hd : s.depth ≤ maxDepth := hdepth.symm ▸ Nat.zero_le _
  have hanswer := ((complete_readers maxDepth).1 trivial hd (Nat.le_add_left _ _) (hend ▸ hreads)
    hspan).settled
  rw [show s.depth + n = n from hdepth.symm ▸ Nat.zero_add n] at hanswer
  refine ⟨s, s', hstep, hdepth, ?_⟩
  rw [programBody_eq]
  refine .cast (n := max n 0) (.bind hanswer (.bind_ok (at?_run .eof s') ?_)) (Nat.max_zero n)
  rw [hend]
  exact .of_eq rfl (Nat.zero_le _)

end

end Parser

/-! ## Tokens that are already there -/

/-- Tokens that are already there come to an end. -/
theorem Token.Supply.ends_ofTokens (tokens : List Token) : (ofTokens tokens).Ends :=
  .inr ⟨_, rfl⟩

/-- Of tokens that are derived none is left out. -/
theorem Parser.Reads.significant_ofTokens {next : Kind} {n : Nat} {tokens : List Token}
    {phrase : Phrase} (h : Reads next n tokens phrase) :
    (Token.Supply.ofTokens tokens).significant = tokens := by
  have hfront : (Token.Supply.ofTokens tokens).front = tokens :=
    Token.front_eq_self fun t ht => (h.insideProgram t ht).not_eof
  rw [Token.Supply.significant, hfront]
  exact Token.solid_eq_self fun t ht => (h.insideProgram t ht).not_blank

namespace Node

open Stencil.Parser

variable {supply : Token.Supply} {node : Node}

/-- **A program is read as the tree that its significant tokens derive.** -/
theorem ofSupply_program_eq_ok : ofSupply .program supply = .ok node ↔
    supply.Ends ∧ ∃ n ≤ maxDepth, Reads .eof n supply.significant (.statement node) := by
  show (programBody.run supply).1 = .ok node ↔ _
  rw [run_eq_ok]
  constructor
  · rintro ⟨s, s', hstep, hdepth, hp⟩
    obtain ⟨hends, n, hle, hreads⟩ := derived_programBody hdepth hp
    rw [hstep.front] at hreads
    exact ⟨hstep.ends_iff.mpr hends, n, hle, hreads⟩
  · rintro ⟨hends, n, hle, hreads⟩
    obtain ⟨s, s', hstep, hdepth, hlead⟩ := leads_programBody hends hreads
    exact ⟨s, s', hstep, hdepth, hlead.within hle⟩

/-- Where the derivation has too many levels, the error asks for fewer. -/
theorem ofSupply_program_of_tooDeep {n : Nat} (hends : supply.Ends)
    (hreads : Reads .eof n supply.significant (.statement node)) (hn : maxDepth < n) :
    ∃ found, ofSupply .program supply = .error (.grammatical ⟨found, .fewerLevels⟩) := by
  obtain ⟨s, s', hstep, hdepth, hlead⟩ := leads_programBody hends hreads
  obtain ⟨found, r, hdeep⟩ := hlead.beyond hn
  exact ⟨found, run_of_error hstep hdepth hdeep⟩

end Node

end Stencil
