import Stencil.Proofs.Reading.Derivation
import Stencil.Proofs.Steps

/-!
# Runs of a reader

What the steps of a reader do to its state, stated so that no later proof opens them. A state
**passes** tokens when the reader comes from it to another state by taking them; blanks are passed
as well but not counted, and the number of levels plays no part. `skipBlanks_eq_ok` says that
skipping blanks is passing no token and then looking at one that is no blank.

A reader can be short of levels. `Leads n r r'` is how a run `r` that enters as many as `n` levels
stands to its outcome `r'`: it is `r'` where there are that many levels, and else it ends with the
error that asks for fewer. Outcomes put together in a row need as many levels as the hungriest of
them (`Leads.bind`).
-/

namespace Stencil.Parser

/-! ## One step after the other -/

section
variable {α : Type} {p : Parser α} {s s' : State}

/-- To discard an answer is to go on without it. -/
theorem discard_eq (p : Parser α) : (discard p : Parser Unit) = p >>= fun _ => pure () := by
  funext s
  show EStateM.map _ p s = EStateM.bind p _ s
  unfold EStateM.map EStateM.bind
  cases p s <;> rfl

/-- What is discarded is read all the same. -/
theorem discard_eq_ok : discard p s = .ok () s' ↔ ∃ a, p s = .ok a s' := by
  rw [discard_eq, bind_eq_ok]
  constructor
  · rintro ⟨a, m, hp, hm⟩
    obtain ⟨-, rfl⟩ := pure_eq_ok.mp hm
    exact ⟨a, hp⟩
  · rintro ⟨a, hp⟩
    exact ⟨a, s', hp, rfl⟩

end

/-! ## Looking at a token -/

/-- A look at the kind of the token leaves the state as it is. -/
theorem at?_run (kind : Kind) (s : State) : at? kind s = .ok (s.current.kind == kind) s := rfl

/-- And so does one for several kinds. -/
theorem atAny?_run (kinds : List Kind) (s : State) :
    atAny? kinds s = .ok (kinds.contains s.current.kind) s := rfl

/-- And one for a word. -/
theorem atWord?_run (word : String) (s : State) :
    atWord? word s = .ok (decide (s.current.IsWord word)) s := by
  have hsame : (s.current.kind == .identifier && s.current.text == word) =
      decide (s.current.IsWord word) := by
    rw [Bool.eq_iff_iff, Bool.and_eq_true, beq_iff_eq, beq_iff_eq, decide_eq_true_iff, Token.IsWord]
  rw [← hsame]
  rfl

/-- A refusal tells what was looked for, and where. -/
theorem fail_run {α : Type} (expected : Expected) (s : State) :
    (fail expected : Parser α) s = .error (.grammatical ⟨s.current, expected⟩) s := rfl

/-! ## Passing tokens -/

/-- The state looks at a token that is no blank. -/
def State.Settled (s : State) : Prop := s.current.kind ≠ .whitespace

/-- The state on another level. -/
def State.atDepth (s : State) (depth : Nat) : State := { s with depth }

/-- States are the same if token, supply and level are. -/
theorem State.ext {s s' : State} (hcurrent : s.current = s'.current) (hsupply : s.supply = s'.supply)
    (hdepth : s.depth = s'.depth) : s = s' := by
  cases s
  cases s'
  simp only at hcurrent hsupply hdepth
  rw [hcurrent, hsupply, hdepth]

/-- The token looked at is taken and the next one looked at. -/
def State.Steps (s s' : State) : Prop := s.supply.pull = (.ok s'.current, s'.supply)

/-- A step depends on the supply alone. -/
theorem State.Steps.of_place {s s' m : State} (hsupply : s.supply = m.supply)
    (h : m.Steps s') : s.Steps s' := by
  unfold State.Steps at *
  rw [hsupply, h]

/-- Behind the last token the reader looks at the end. -/
theorem State.Steps.kind_of_nil {s m : State} (h : s.Steps m) (hahead : s.supply.ahead = []) :
    m.current.kind = .eof := by
  unfold State.Steps Token.Supply.pull at h
  rw [hahead] at h
  cases hlast : s.supply.last with
  | error e => simp only [hlast, Except.map, Prod.mk.injEq, reduceCtorEq, false_and] at h
  | ok stop =>
    simp only [hlast, Except.map, Prod.mk.injEq, Except.ok.injEq] at h
    rw [← h.1]
    rfl

private theorem State.Steps.ahead_of_nil {s m : State} (h : s.Steps m) (hahead : s.supply.ahead = []) :
    m.supply.ahead = [] := by
  unfold State.Steps Token.Supply.pull at h
  rw [hahead] at h
  rw [← (Prod.mk.inj h).2]

/-- A step leaves the last answer of the supply. -/
theorem State.Steps.last {s m : State} (h : s.Steps m) : m.supply.last = s.supply.last := by
  unfold State.Steps Token.Supply.pull at h
  cases hahead : s.supply.ahead <;>
  · rw [hahead] at h
    rw [← (Prod.mk.inj h).2]

/-- A step brings the next of the tokens ahead. -/
theorem State.Steps.of_cons {s m : State} {next : Token} {ahead : List Token} (h : s.Steps m)
    (hahead : s.supply.ahead = next :: ahead) : m.current = next ∧ m.supply.ahead = ahead := by
  unfold State.Steps Token.Supply.pull at h
  rw [hahead] at h
  obtain ⟨hcurrent, hsupply⟩ := Prod.mk.inj h
  exact ⟨(Except.ok.inj hcurrent).symm, by rw [← hsupply]⟩

/-- The token looked at is taken where another one is pulled. -/
theorem advance_of_pull {s : State} {next : Token} {supply : Token.Supply}
    (h : s.supply.pull = (.ok next, supply)) :
    advance s = .ok s.current { s with current := next, supply } := by
  unfold advance
  rw [bind_of_ok (get_run s), h]
  rfl

/-- And where none is, the reader fails as the supply does. -/
theorem advance_of_pull_error {s : State} {e : LexError} {supply : Token.Supply}
    (h : s.supply.pull = (.error e, supply)) :
    advance s = .error (.lexical e) { s with supply } := by
  unfold advance
  rw [bind_of_ok (get_run s), h]
  rfl

/-- Taking a token is a step, and keeps the level. -/
theorem advance_eq_ok {s s' : State} {token : Token} :
    advance s = .ok token s' ↔ token = s.current ∧ s.Steps s' ∧ s'.depth = s.depth := by
  obtain ⟨current, supply, depth⟩ := s'
  unfold State.Steps
  cases hpull : s.supply.pull with
  | mk found rest =>
    cases found with
    | ok next =>
      rw [advance_of_pull hpull]
      simp only [EStateM.Result.ok.injEq, State.mk.injEq, Prod.mk.injEq, Except.ok.injEq]
      grind
    | error e =>
      rw [advance_of_pull_error hpull]
      simp only [reduceCtorEq, Prod.mk.injEq, false_and, and_false]

/-- A token of a certain kind is taken when it is there. -/
theorem eat_eq_ok {kind : Kind} {expected : Expected} {s s' : State} {token : Token} :
    eat kind expected s = .ok token s' ↔
      s.current.kind = kind ∧ token = s.current ∧ s.Steps s' ∧ s'.depth = s.depth := by
  unfold eat
  rw [bind_of_ok (at?_run kind s)]
  by_cases hkind : s.current.kind = kind
  · simp only [hkind, BEq.rfl, ↓reduceIte, advance_eq_ok, true_and]
  · simp only [hkind, beq_eq_false_iff_ne.mpr hkind, Bool.false_eq_true, ↓reduceIte, fail_run,
      reduceCtorEq, false_and]

/-- **From a state the reader passes over tokens to another state.** Blanks are passed uncounted, and
levels are left out of it. -/
inductive Passes : State → List Token → State → Prop
  | refl {s s' : State} : s.current = s'.current → s.supply = s'.supply → Passes s [] s'
  | blank {s m s' : State} {tokens : List Token} : s.Steps m → s.current.kind = .whitespace →
      Passes m tokens s' → Passes s tokens s'
  | token {s m s' : State} {tokens : List Token} : s.Steps m → s.Settled →
      Passes m tokens s' → Passes s (s.current :: tokens) s'

namespace Passes

variable {s m s' s'' : State} {token : Token} {tokens more : List Token}

/-- Levels make no difference to where passing starts. -/
theorem of_place (hc : s.current = m.current) (hs : s.supply = m.supply)
    (h : Passes m tokens s') : Passes s tokens s' := by
  cases h with
  | refl hc' hs' => exact .refl (hc.trans hc') (hs.trans hs')
  | blank step blank rest => exact .blank (step.of_place hs) (by rw [hc, blank]) rest
  | token step settled rest =>
    rw [← hc]
    exact .token (step.of_place hs) (by rwa [State.Settled, hc]) rest

/-- Passing goes on where it stopped. -/
theorem trans (h : Passes s tokens m) (h' : Passes m more s') : Passes s (tokens ++ more) s' := by
  induction h with
  | refl hc hs => exact of_place hc hs h'
  | blank step blank _ ih => exact .blank step blank (ih h')
  | token step settled _ ih => exact .token step settled (ih h')

/-- Levels make no difference to where passing ends. -/
theorem to_place (h : Passes s tokens m) (hc : m.current = s'.current) (hs : m.supply = s'.supply) :
    Passes s tokens s' := by
  have hall := h.trans (.refl hc hs)
  rwa [List.append_nil] at hall

/-- Tokens are passed from a state on whatever level it is. -/
theorem atDepth_left {d : Nat} : Passes (s.atDepth d) tokens s' ↔ Passes s tokens s' :=
  ⟨fun h => h.of_place (m := s.atDepth d) rfl rfl, fun h => h.of_place (m := s) rfl rfl⟩

/-- And up to a state on whatever level it is. -/
theorem atDepth_right {d : Nat} : Passes s tokens (s'.atDepth d) ↔ Passes s tokens s' :=
  ⟨fun h => h.to_place rfl rfl, fun h => h.to_place rfl rfl⟩

/-- Passing a first token is skipping blanks up to it, taking it, and passing the rest. -/
theorem cons_iff :
    Passes s (token :: tokens) s' ↔
      ∃ m m', Passes s [] m ∧ m.Settled ∧ m.current = token ∧ m.Steps m' ∧ Passes m' tokens s' := by
  constructor
  · intro h
    generalize hall : token :: tokens = all at h
    induction h with
    | refl => cases hall
    | blank step blank _ ih =>
      obtain ⟨m, m', hskip, rest⟩ := ih hall
      exact ⟨m, m', .blank step blank hskip, rest⟩
    | @token s m s' _ step settled rest =>
      cases hall
      exact ⟨s, m, .refl rfl rfl, settled, rfl, step, rest⟩
  · rintro ⟨m, m', hskip, settled, rfl, step, rest⟩
    exact hskip.trans (.token step settled rest)

/-- The first of the tokens passed is the one looked at, unless that is a blank. -/
theorem current_eq (h : Passes s (token :: tokens) s') (hs : s.Settled) : s.current = token := by
  obtain ⟨m, -, hskip, -, rfl, -, -⟩ := cons_iff.mp h
  cases hskip with
  | refl hc _ => exact hc
  | blank _ blank _ => exact absurd blank hs

/-- Passing can be interrupted between any two tokens, and then behind the blanks there. -/
theorem split (h : Passes s (tokens ++ more) s') (hs : s'.Settled) :
    ∃ m, Passes s tokens m ∧ m.Settled ∧ m.depth = s.depth ∧ Passes m more s' := by
  suffices hplace : ∃ m, Passes s tokens m ∧ m.Settled ∧ Passes m more s' by
    obtain ⟨m, hpasses, hm, hmore⟩ := hplace
    exact ⟨m.atDepth s.depth, hpasses.to_place rfl rfl, hm, rfl, hmore.of_place (m := m) rfl rfl⟩
  induction tokens generalizing s with
  | nil =>
    cases more with
    | nil => exact ⟨s', h, hs, .refl rfl rfl⟩
    | cons token more =>
      obtain ⟨m, m', hskip, hm, rfl, hstep, hrest⟩ := cons_iff.mp h
      exact ⟨m, hskip, hm, .token hstep hm hrest⟩
  | cons token tokens ih =>
    obtain ⟨m, m', hskip, hm, rfl, hstep, hrest⟩ := cons_iff.mp h
    obtain ⟨r, hpasses, hr, hmore⟩ := ih hrest
    exact ⟨r, hskip.trans (.token hstep hm hpasses), hr, hmore⟩

/-- From a token that is no blank nothing is passed but by taking it. -/
theorem eq_of_settled (h : Passes s [] s') (hs : s.Settled) :
    s.current = s'.current ∧ s.supply = s'.supply := by
  cases h with
  | refl hc hs' => exact ⟨hc, hs'⟩
  | blank _ blank _ => exact absurd blank hs

/-- At the end there is nothing but the end. -/
theorem kind_eq_eof (h : Passes s tokens s') (hahead : s.supply.ahead = [])
    (hend : s.current.kind = .eof) : s'.current.kind = .eof := by
  induction h with
  | refl hc _ => rw [← hc, hend]
  | blank hstep _ _ ih => exact ih (hstep.ahead_of_nil hahead) (hstep.kind_of_nil hahead)
  | token hstep _ _ ih => exact ih (hstep.ahead_of_nil hahead) (hstep.kind_of_nil hahead)

/-- A step that leads anywhere but to the end takes one of the tokens ahead. -/
theorem ahead_of_steps (hstep : s.Steps m) (h : Passes m tokens s') (hend : s'.current.kind ≠ .eof) :
    s.supply.ahead.length = m.supply.ahead.length + 1 := by
  cases hahead : s.supply.ahead with
  | nil =>
    exact absurd (h.kind_eq_eof (hstep.ahead_of_nil hahead) (hstep.kind_of_nil hahead)) hend
  | cons next ahead => rw [(hstep.of_cons hahead).2, List.length_cons]

/-- Short of the end, no more tokens are passed than there are ahead. -/
theorem length_le (h : Passes s tokens s') (hend : s'.current.kind ≠ .eof) :
    tokens.length ≤ s.supply.ahead.length := by
  induction h with
  | refl => exact Nat.zero_le _
  | blank hstep _ hrest ih =>
    rw [ahead_of_steps hstep hrest hend]
    exact Nat.le_succ_of_le (ih hend)
  | token hstep _ hrest ih =>
    rw [ahead_of_steps hstep hrest hend]
    exact Nat.succ_le_succ (ih hend)

end Passes

/-- From `s` the tokens are passed up to `s'`, which looks at no blank and is on the same level. -/
structure Spans (s : State) (tokens : List Token) (s' : State) : Prop where
  passes : Passes s tokens s'
  settled : s'.Settled
  depth : s'.depth = s.depth

namespace Spans

variable {s m s' : State} {token : Token} {tokens more : List Token}

/-- A settled state spans nothing to itself. -/
theorem refl (h : s.Settled) : Spans s [] s := ⟨.refl rfl rfl, h, rfl⟩

/-- A span and one from its end on are one span. -/
theorem trans (h : Spans s tokens m) (h' : Spans m more s') : Spans s (tokens ++ more) s' :=
  ⟨h.passes.trans h'.passes, h'.settled, h'.depth.trans h.depth⟩

/-- A span can be split anywhere. -/
theorem split (h : Spans s (tokens ++ more) s') : ∃ m, Spans s tokens m ∧ Spans m more s' := by
  obtain ⟨m, hpasses, hsettled, hdepth, hmore⟩ := h.passes.split h.settled
  exact ⟨m, ⟨hpasses, hsettled, hdepth⟩, ⟨hmore, h.settled, h.depth.trans hdepth.symm⟩⟩

/-- A span from behind a token is one from that token. -/
theorem of_step (h : Spans m tokens s') (hstep : s.Steps m) (hs : s.Settled)
    (hdepth : m.depth = s.depth) : Spans s (s.current :: tokens) s' :=
  ⟨.token hstep hs h.passes, h.settled, h.depth.trans hdepth⟩

/-- The first token of a span can be taken off. -/
theorem cons (h : Spans s (token :: tokens) s') : ∃ m, Spans s [token] m ∧ Spans m tokens s' :=
  split h

/-- A state looks at the first token that is spanned from it. -/
theorem current_eq (h : Spans s (token :: tokens) s') (hs : s.Settled) : s.current = token :=
  h.passes.current_eq hs

/-- A span is one on any level. -/
theorem atDepth (h : Spans s tokens s') (d : Nat) : Spans (s.atDepth d) tokens (s'.atDepth d) :=
  ⟨Passes.atDepth_left.mpr (Passes.atDepth_right.mpr h.passes), h.settled, rfl⟩

/-- The blanks in front come first. -/
theorem skip (h : Spans s tokens s') : ∃ m, Spans s [] m ∧ Spans m tokens s' :=
  split (show Spans s ([] ++ tokens) s' from h)

/-- Where nothing is spanned, nothing happens. -/
theorem eq_of_nil (h : Spans s [] s') (hs : s.Settled) : s = s' := by
  obtain ⟨hcurrent, hsupply⟩ := h.passes.eq_of_settled hs
  exact State.ext hcurrent hsupply h.depth.symm

end Spans

/-! ## Skipping blanks -/

/-- A settled state has no blanks to pass. -/
theorem skipBlanks_of_settled {s : State} (h : s.Settled) : skipBlanks s = .ok () s := by
  show skipBlanksOver s.supply.ahead s = _
  cases s.supply.ahead <;>
  · unfold skipBlanksOver
    rw [bind_of_ok (at?_run _ s), beq_eq_false_iff_ne.mpr h]
    rfl

/-- A blank is skipped, and then those behind it. -/
theorem skipBlanks_of_steps {s m : State} (hblank : s.current.kind = .whitespace)
    (hstep : s.Steps m) (hdepth : m.depth = s.depth) : skipBlanks s = skipBlanks m := by
  have hadvance : advance s = .ok s.current m := advance_eq_ok.mpr ⟨rfl, hstep, hdepth⟩
  show skipBlanksOver s.supply.ahead s = skipBlanksOver m.supply.ahead m
  cases hahead : s.supply.ahead with
  | nil =>
    have hsettled : m.Settled := by
      rw [State.Settled, hstep.kind_of_nil hahead]
      decide
    show _ = skipBlanks m
    rw [skipBlanks_of_settled hsettled, skipBlanksOver, bind_of_ok (at?_run _ s), hblank]
    exact discard_eq_ok.mpr ⟨_, hadvance⟩
  | cons next ahead =>
    rw [skipBlanksOver, bind_of_ok (at?_run _ s), hblank, (hstep.of_cons hahead).2]
    exact bind_of_ok (discard_eq_ok.mpr ⟨_, hadvance⟩)

/-- Where the token behind a blank cannot be read, blanks cannot be skipped. -/
theorem skipBlanks_of_error {s m : State} {e : ParseError} (hblank : s.current.kind = .whitespace)
    (hadvance : advance s = .error e m) : skipBlanks s = .error e m := by
  have hdiscard : discard advance s = .error e m := by
    rw [discard_eq]
    exact bind_of_error hadvance
  show skipBlanksOver s.supply.ahead s = _
  cases s.supply.ahead with
  | nil =>
    rw [skipBlanksOver, bind_of_ok (at?_run _ s), hblank]
    exact hdiscard
  | cons next ahead =>
    rw [skipBlanksOver, bind_of_ok (at?_run _ s), hblank]
    exact bind_of_error hdiscard

/-- Blanks are skipped by not being there, or by taking one and skipping the rest. -/
theorem skipBlanks_cases {s s' : State} (h : skipBlanks s = .ok () s') :
    s.Settled ∧ s = s' ∨ s.current.kind = .whitespace ∧
      ∃ m, s.Steps m ∧ m.depth = s.depth ∧ skipBlanks m = .ok () s' := by
  by_cases hsettled : s.Settled
  · rw [skipBlanks_of_settled hsettled] at h
    exact .inl ⟨hsettled, (EStateM.Result.ok.inj h).2⟩
  · have hblank : s.current.kind = .whitespace := Decidable.not_not.mp hsettled
    cases hadvance : advance s with
    | error e m =>
      rw [skipBlanks_of_error hblank hadvance] at h
      cases h
    | ok token m =>
      obtain ⟨-, hstep, hdepth⟩ := advance_eq_ok.mp hadvance
      rw [skipBlanks_of_steps hblank hstep hdepth] at h
      exact .inr ⟨hblank, m, hstep, hdepth, h⟩

/-- Only blanks are passed, and then none is looked at. -/
private theorem spans_of_skipBlanks {s s' : State} (h : skipBlanks s = .ok () s') : Spans s [] s' := by
  -- along the tokens ahead, of which each blank takes one
  generalize hahead : s.supply.ahead = ahead
  induction ahead generalizing s with
  | nil =>
    obtain ⟨hsettled, rfl⟩ | ⟨hblank, m, hstep, hdepth, h⟩ := skipBlanks_cases h
    · exact .refl hsettled
    · have hend : m.Settled := by
        rw [State.Settled, hstep.kind_of_nil hahead]
        decide
      rw [skipBlanks_of_settled hend] at h
      obtain ⟨-, rfl⟩ := EStateM.Result.ok.inj h
      exact ⟨.blank hstep hblank (.refl rfl rfl), hend, hdepth⟩
  | cons next ahead ih =>
    obtain ⟨hsettled, rfl⟩ | ⟨hblank, m, hstep, hdepth, h⟩ := skipBlanks_cases h
    · exact .refl hsettled
    · have hrest := ih h (hstep.of_cons hahead).2
      exact ⟨.blank hstep hblank hrest.passes, hrest.settled, hrest.depth.trans hdepth⟩

/-- Where nothing but blanks lies between, they are passed. -/
private theorem skipBlanks_of_passes {s s' : State} (h : Passes s [] s') (hsettled : s'.Settled)
    (hdepth : s'.depth = s.depth) : skipBlanks s = .ok () s' := by
  -- the states in between may be at any level, so the one to start from is left open
  suffices hall : ∀ {s₀ : State}, s₀.current = s.current → s₀.supply = s.supply →
      s'.depth = s₀.depth → skipBlanks s₀ = .ok () s' from hall rfl rfl hdepth
  clear hdepth
  generalize hnone : ([] : List Token) = none at h
  induction h with
  | @refl s s' hc hs =>
    intro s₀ hc₀ hs₀ hdepth
    have hsame : s₀ = s' := State.ext (hc₀.trans hc) (hs₀.trans hs) hdepth.symm
    rw [hsame]
    exact skipBlanks_of_settled hsettled
  | @blank s m s' _ step blank rest ih =>
    intro s₀ hc₀ hs₀ hdepth
    let m₀ : State := { m with depth := s₀.depth }
    rw [skipBlanks_of_steps (m := m₀) (hc₀ ▸ blank) (step.of_place hs₀) rfl]
    exact ih hsettled hnone rfl rfl hdepth
  | token => cases hnone

/-- **Skipping blanks is passing no token** until one is looked at that is no blank. -/
theorem skipBlanks_eq_ok {s s' : State} : skipBlanks s = .ok () s' ↔ Spans s [] s' :=
  ⟨spans_of_skipBlanks, fun h => skipBlanks_of_passes h.passes h.settled h.depth⟩

/-- What `p` reads, together with the blanks behind it. -/
def settled {α : Type} (p : Parser α) : Parser α := do
  let a ← p
  skipBlanks
  return a

/-- A reader and then the blanks behind it. -/
theorem settled_eq_ok {α : Type} {p : Parser α} {s s' : State} {a : α} :
    settled p s = .ok a s' ↔ ∃ m, p s = .ok a m ∧ skipBlanks m = .ok () s' := by
  unfold settled
  rw [bind_eq_ok]
  constructor
  · rintro ⟨a, m, hp, hrest⟩
    obtain ⟨_, m', hskip, hpure⟩ := bind_eq_ok.mp hrest
    obtain ⟨rfl, rfl⟩ := pure_eq_ok.mp hpure
    exact ⟨m, hp, hskip⟩
  · rintro ⟨m, hp, hskip⟩
    exact ⟨a, m, hp, bind_eq_ok.mpr ⟨_, s', hskip, rfl⟩⟩

/-- A token ahead is taken, with the blanks behind it left. -/
theorem Spans.advance {s s' : State} {token : Token} {tokens : List Token}
    (h : Spans s (token :: tokens) s') (hs : s.Settled) :
    ∃ m, advance s = .ok token m ∧ m.depth = s.depth ∧ Spans m tokens s' := by
  obtain ⟨m, m', hskip, -, htoken, hstep, hrest⟩ := Passes.cons_iff.mp h.passes
  obtain ⟨hcurrent, hsupply⟩ := hskip.eq_of_settled hs
  refine ⟨m'.atDepth s.depth, ?_, rfl, Passes.atDepth_left.mpr hrest, h.settled, h.depth⟩
  exact advance_eq_ok.mpr ⟨(hcurrent.trans htoken).symm, hstep.of_place hsupply, rfl⟩

/-- From a token that is no blank, taking it and the blanks behind it is passing it. -/
theorem settled_advance_eq_ok {s s' : State} {token : Token} (hs : s.Settled) :
    settled advance s = .ok token s' ↔ s.current = token ∧ Spans s [token] s' := by
  rw [settled_eq_ok]
  constructor
  · rintro ⟨m, hadvance, hskip⟩
    obtain ⟨rfl, hstep, hdepth⟩ := advance_eq_ok.mp hadvance
    have hblanks := skipBlanks_eq_ok.mp hskip
    exact ⟨rfl, .token hstep hs hblanks.passes, hblanks.settled, hblanks.depth.trans hdepth⟩
  · rintro ⟨rfl, hspan⟩
    obtain ⟨m, hadvance, -, hblanks⟩ := hspan.advance hs
    exact ⟨m, hadvance, skipBlanks_eq_ok.mpr hblanks⟩

/-- The same with a token that must be of a certain kind. -/
theorem settled_eat_eq_ok {kind : Kind} {expected : Expected} {s s' : State} {token : Token}
    (hkind : kind ≠ .whitespace) :
    settled (eat kind expected) s = .ok token s' ↔
      s.current.kind = kind ∧ s.current = token ∧ Spans s [token] s' := by
  unfold eat settled
  rw [bind_assoc, bind_of_ok (at?_run kind s)]
  by_cases hhere : s.current.kind = kind
  · have hs : s.Settled := by rwa [State.Settled, hhere]
    simp only [hhere, BEq.rfl, ↓reduceIte, true_and]
    exact settled_advance_eq_ok hs
  · simp only [hhere, beq_eq_false_iff_ne.mpr hhere, Bool.false_eq_true, ↓reduceIte, false_and,
      iff_false]
    rw [bind_of_error (fail_run expected s)]
    exact fun h => nomatch h

/-- A token ahead is taken together with the blanks behind it. -/
theorem settled_advance {s s' : State} {token : Token} (hs : s.Settled) (h : Spans s [token] s') :
    settled advance s = .ok token s' :=
  (settled_advance_eq_ok hs).mpr ⟨h.current_eq hs, h⟩

/-- A token is taken, and the blanks behind it are passed. -/
theorem settled_eat {kind : Kind} {expected : Expected} {s s' : State} {token : Token}
    (hs : s.Settled) (hkind : token.kind = kind) (h : Spans s [token] s') :
    settled (eat kind expected) s = .ok token s' := by
  have hcurrent : s.current = token := h.current_eq hs
  have hhere : s.current.kind = kind := hcurrent ▸ hkind
  exact (settled_eat_eq_ok (hhere ▸ hs)).mpr ⟨hhere, hcurrent, h⟩

/-! ## Levels -/

/-- Another level is entered while there are fewer than there may be. -/
theorem deepen_of_lt {s : State} (h : s.depth < maxDepth) :
    deepen s = .ok () (s.atDepth (s.depth + 1)) := by
  unfold deepen
  rw [bind_of_ok (get_run s), if_pos h]
  rfl

/-- Else it is refused. -/
theorem deepen_of_le {s : State} (h : maxDepth ≤ s.depth) :
    deepen s = .error (.grammatical ⟨s.current, .fewerLevels⟩) s := by
  unfold deepen
  rw [bind_of_ok (get_run s), if_neg (Nat.not_lt.mpr h)]
  rfl

/-- An error on a level of its own is one level up. -/
theorem nested_of_error {α : Type} {p : Parser α} {s m : State} {e : ParseError}
    (hlt : s.depth < maxDepth) (h : p (s.atDepth (s.depth + 1)) = .error e m) :
    nested p s = .error e m.shallower := by
  unfold nested
  rw [deepen_of_lt hlt]
  simp only [h]

/-- On the last level there is no further one. -/
theorem nested_of_le {α : Type} {p : Parser α} {s : State} (h : maxDepth ≤ s.depth) :
    nested p s = .error (.grammatical ⟨s.current, .fewerLevels⟩) s := by
  unfold nested
  rw [deepen_of_le h]

/-- Reading on a level of its own succeeds when there is one more level and reading succeeds there. -/
theorem nested_eq_ok {α : Type} {p : Parser α} {s s' : State} {a : α} :
    nested p s = .ok a s' ↔ s.depth < maxDepth ∧
      ∃ m, p (s.atDepth (s.depth + 1)) = .ok a m ∧ s' = m.shallower := by
  unfold nested
  by_cases h : s.depth < maxDepth
  · rw [deepen_of_lt h]
    cases hp : p (s.atDepth (s.depth + 1)) with
    | ok a m =>
      simp only [hp, EStateM.Result.ok.injEq, h, true_and, and_assoc, exists_and_left,
        exists_eq_left']
      exact and_congr_right fun _ => eq_comm
    | error e m => simp only [hp, reduceCtorEq, false_and, exists_false, and_false]
  · rw [deepen_of_le (Nat.not_lt.mp h)]
    simp only [reduceCtorEq, h, false_and]

/-- The reader asks for fewer levels. -/
def TooDeep {α : Type} (r : EStateM.Result ParseError State α) : Prop :=
  ∃ found s, r = .error (.grammatical ⟨found, .fewerLevels⟩) s

/-- **A run that enters as many as `n` levels, and its outcome if there are that many.** -/
structure Leads {α : Type} (n : Nat) (run outcome : EStateM.Result ParseError State α) : Prop where
  within : n ≤ maxDepth → run = outcome
  beyond : maxDepth < n → TooDeep run

namespace Leads

variable {α β : Type} {p : Parser α} {f : α → Parser β} {s s' m : State} {a : α} {b : β} {n n' : Nat}
  {run outcome : EStateM.Result ParseError State α}

/-- A run that is known leads to its outcome. -/
theorem of_eq (h : run = outcome) (hn : n ≤ maxDepth) : Leads n run outcome :=
  ⟨fun _ => h, fun hlt => absurd hn (Nat.not_le.mpr hlt)⟩

/-- A run that needs too many levels leads anywhere. -/
theorem of_tooDeep (h : TooDeep run) (hn : maxDepth < n) : Leads n run outcome :=
  ⟨fun hle => absurd hn (Nat.not_lt.mpr hle), fun _ => h⟩

/-- **In a row the hungriest counts.** -/
theorem bind {outcome : EStateM.Result ParseError State β} (hp : Leads n (p s) (.ok a m))
    (hf : Leads n' (f a m) outcome) : Leads (max n n') ((p >>= f) s) outcome := by
  by_cases hn : n ≤ maxDepth
  · rw [bind_of_ok (hp.within hn)]
    exact ⟨fun h => hf.within (by omega), fun h => hf.beyond (by omega)⟩
  · obtain ⟨found, m', hdeep⟩ := hp.beyond (by omega)
    exact of_tooDeep ⟨found, m', bind_of_error hdeep⟩ (by omega)

/-- A first step that needs no level. -/
theorem bind_ok {outcome : EStateM.Result ParseError State β} (hp : p s = .ok a m)
    (hf : Leads n (f a m) outcome) : Leads n ((p >>= f) s) outcome := by
  rw [bind_of_ok hp]
  exact hf

/-- What is only put differently needs no more levels. -/
theorem map {g : α → β} (hp : Leads n (p s) (.ok a m)) :
    Leads n ((p >>= fun a => pure (g a)) s) (.ok (g a) m) := by
  by_cases hn : n ≤ maxDepth
  · exact .of_eq (bind_of_ok (hp.within hn)) hn
  · obtain ⟨found, r, hdeep⟩ := hp.beyond (by omega)
    exact .of_tooDeep ⟨found, r, bind_of_error hdeep⟩ (by omega)

/-- The levels, said in another way. -/
theorem cast (h : Leads n run outcome) (hn : n = n') : Leads n' run outcome := hn ▸ h

end Leads

end Stencil.Parser
