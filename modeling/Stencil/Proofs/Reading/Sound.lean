import Stencil.Proofs.Reading.Derivation
import Stencil.Proofs.Reading.Form

/-!
# What is read is derived

Whatever a reader answers, a derivation makes it of the tokens that the reader has passed, and there
were as many levels as the derivation enters. `Sound` says so of a reader. The bodies of the readers
are sound when the readers inside them are, so that `sound_readers` is an induction on the number of
levels that are left.
-/

namespace Stencil.Parser

/-- Between two states the tokens of a phrase are passed, with levels enough for its derivation. Of the
levels in the derivation `entered` are counted in the first state already. -/
def Derived (entered : Nat) (s s' : State) (phrase : Phrase) : Prop :=
  ∃ n tokens, Spans s tokens s' ∧ s.depth + n ≤ maxDepth ∧
    Reads s'.current.kind (n + entered) tokens phrase

/-- **What is read is derived.** -/
def Sound {α : Type} (entered : Nat) (p : Parser α) (phrase : α → Phrase) : Prop :=
  ∀ ⦃s s' a⦄, s.depth ≤ maxDepth → settled p s = .ok a s' → Derived entered s s' (phrase a)

/-- What is derived behind skipped blanks is derived with them. -/
theorem Derived.of_skipBlanks {entered : Nat} {s m s' : State} {phrase : Phrase}
    (hskip : skipBlanks s = .ok () m) (h : Derived entered m s' phrase) :
    Derived entered s s' phrase := by
  obtain ⟨n, tokens, hspan, hle, hreads⟩ := h
  have hblanks := skipBlanks_eq_ok.mp hskip
  exact ⟨n, tokens, hblanks.trans hspan, hblanks.depth ▸ hle, hreads⟩

private theorem sound_nested {α : Type} {p : Parser α} {phrase : α → Phrase} (hp : Sound 1 p phrase) :
    Sound 0 (nested p) phrase := by
  intro s s' a hd h
  obtain ⟨m, hnested, hskip⟩ := settled_eq_ok.mp h
  obtain ⟨hlt, r, hrun, rfl⟩ := nested_eq_ok.mp hnested
  obtain ⟨hpasses, hsettled, hdepth⟩ := skipBlanks_eq_ok.mp hskip
  have hrun' : settled p (s.atDepth (s.depth + 1)) = .ok a (s'.atDepth r.depth) :=
    settled_eq_ok.mpr ⟨r, hrun, skipBlanks_eq_ok.mpr
      ⟨Passes.atDepth_right.mpr (Passes.atDepth_left.mp hpasses), hsettled, rfl⟩⟩
  obtain ⟨n, tokens, hspan, hle, hreads⟩ := hp (s := s.atDepth (s.depth + 1)) hlt hrun'
  have hlevel : r.depth = s.depth + 1 := hspan.depth
  have hle : s.depth + 1 + n ≤ maxDepth := hle
  refine ⟨n + 1, tokens, ⟨?_, hsettled, ?_⟩, ?_, hreads⟩
  · exact Passes.atDepth_left.mp (Passes.atDepth_right.mp hspan.passes)
  · rw [hdepth]
    show r.depth - 1 = s.depth
    rw [hlevel, Nat.add_sub_cancel]
  · omega

/-! ## Statements -/

section
variable {statement factor : Parser Node} {s s' m : State} {node : Node} {tokens : List Token}

private theorem derived_eachLoop (hs : Sound 0 statement .statement) (hd : s.depth ≤ maxDepth)
    (hword : s.current.IsWord "each") (h : eachLoop statement s = .ok node m)
    (hskip : skipBlanks m = .ok () s') : Derived 1 s s' (.statement node) := by
  rw [eachLoop_eq] at h
  obtain ⟨each, s₁, hrun, h⟩ := bind_eq_ok.mp h
  obtain ⟨-, rfl, sp₁⟩ := (settled_eat_eq_ok (by decide)).mp hrun
  obtain ⟨item, s₂, hrun, h⟩ := bind_eq_ok.mp h
  obtain ⟨hitem, rfl, sp₂⟩ := (settled_eat_eq_ok (by decide)).mp hrun
  rw [bind_of_ok (atWord?_run "in" s₂)] at h
  by_cases hin : s₂.current.IsWord "in"
  · simp only [hin, decide_true, ↓reduceIte] at h
    obtain ⟨word, s₃, hrun, h⟩ := bind_eq_ok.mp h
    obtain ⟨rfl, sp₃⟩ := (settled_advance_eq_ok sp₂.settled).mp hrun
    obtain ⟨source, s₄, hrun, h⟩ := bind_eq_ok.mp h
    obtain ⟨hsource, rfl, sp₄⟩ := (settled_eat_eq_ok (by decide)).mp hrun
    obtain ⟨mark, s₅, hrun, h⟩ := bind_eq_ok.mp h
    obtain ⟨hmark, rfl, sp₅⟩ := (settled_eat_eq_ok (by decide)).mp hrun
    obtain ⟨body, m', hbody, h⟩ := bind_eq_ok.mp h
    obtain ⟨rfl, rfl⟩ := pure_eq_ok.mp h
    have sp := sp₁.trans (sp₂.trans (sp₃.trans (sp₄.trans sp₅)))
    have hd' : s₅.depth ≤ maxDepth := sp.depth ▸ hd
    obtain ⟨n, ts, sp₆, hle, hreads⟩ := hs hd' (settled_eq_ok.mpr ⟨m', hbody, hskip⟩)
    refine ⟨n, _, sp.trans sp₆, sp.depth ▸ hle, ?_⟩
    exact .loop hword hitem hin hsource hmark hreads
  · simp only [hin, decide_false, Bool.false_eq_true, ↓reduceIte, fail_run, reduceCtorEq] at h

/-- The sides of a branch, for the condition that was read before them. -/
theorem derived_sides (hs : Sound 0 statement .statement) {s₀ : State} {l : Nat} {cs : List Token}
    {condition : Node} (hcs : Spans s₀ cs s) (hl : s₀.depth + l ≤ maxDepth)
    (hstart : ¬ StartsLoop cs) (hreads : Reads s.current.kind l cs (.tier .relational condition))
    (hmark : s.current.kind = .question)
    (h : sides statement condition s = .ok node m) (hskip : skipBlanks m = .ok () s') :
    Derived 1 s₀ s' (.statement node) := by
  rw [sides_eq] at h
  obtain ⟨mark, s₁, hrun, h⟩ := bind_eq_ok.mp h
  obtain ⟨-, rfl, sp₁⟩ := (settled_eat_eq_ok (by decide)).mp hrun
  have sp₁ := hcs.trans sp₁
  have d₁ := sp₁.depth
  obtain ⟨body, s₂, hrun, h⟩ := bind_eq_ok.mp h
  obtain ⟨n, ts, sp₂, hle, hbody⟩ := hs (by omega) hrun
  have sp₂ := sp₁.trans sp₂
  have d₂ := sp₂.depth
  rw [hmark] at hreads
  rw [bind_of_ok (at?_run .colon s₂)] at h
  by_cases hcolon : s₂.current.kind = .colon
  · simp only [hcolon, BEq.rfl, ↓reduceIte] at h
    obtain ⟨colon, s₃, hrun, h⟩ := bind_eq_ok.mp h
    obtain ⟨rfl, sp₃⟩ := (settled_advance_eq_ok sp₂.settled).mp hrun
    have sp₃ := sp₂.trans sp₃
    have d₃ := sp₃.depth
    obtain ⟨other, m', hother, h⟩ := bind_eq_ok.mp h
    obtain ⟨rfl, rfl⟩ := pure_eq_ok.mp h
    obtain ⟨k, us, sp₄, hle', hother⟩ := hs (by omega) (settled_eq_ok.mpr ⟨m', hother, hskip⟩)
    rw [hcolon] at hbody
    refine ⟨max l (max n k), cs ++ s.current :: (ts ++ s₂.current :: us), ?_, ?_, ?_⟩
    · simpa only [List.append_assoc, List.cons_append, List.nil_append] using sp₃.trans sp₄
    · omega
    · exact .twoSided hreads hstart hmark hbody hcolon hother
  · simp only [beq_eq_false_iff_ne.mpr hcolon, Bool.false_eq_true, ↓reduceIte] at h
    obtain ⟨rfl, rfl⟩ := pure_eq_ok.mp h
    rw [skipBlanks_of_settled sp₂.settled] at hskip
    obtain ⟨-, rfl⟩ := EStateM.Result.ok.inj hskip
    refine ⟨max l n, cs ++ s.current :: ts, ?_, ?_, ?_⟩
    · simpa only [List.append_assoc, List.cons_append, List.nil_append] using sp₂
    · omega
    · exact .oneSided hreads hstart hmark hbody hcolon

/-- Tokens that start with no loop, by the first of them. -/
theorem not_startsLoop (hspan : Spans s tokens s') (hs : s.Settled) (h : ¬ s.current.IsWord "each") :
    ¬ StartsLoop tokens := by
  rintro ⟨t, ht, hloop⟩
  cases tokens with
  | nil => cases ht
  | cons first rest =>
    obtain rfl := Option.mem_some_iff.mp ht
    rw [hspan.current_eq hs] at h
    exact h hloop

/-- A reader of statements is sound when the readers of their parts are. -/
theorem sound_statementBody (hf : Sound 0 (expression factor) (.tier .relational))
    (hs : Sound 0 statement .statement) : Sound 1 (statementBody factor statement) .statement := by
  intro s s' node hd h
  obtain ⟨m, hrun, hskip⟩ := settled_eq_ok.mp h
  rw [statementBody_eq] at hrun
  obtain ⟨_, s₁, hblanks, hrun⟩ := bind_eq_ok.mp hrun
  refine Derived.of_skipBlanks hblanks ?_
  obtain ⟨-, hs₁, d₁⟩ := skipBlanks_eq_ok.mp hblanks
  rw [bind_of_ok (atWord?_run "each" s₁)] at hrun
  by_cases hword : s₁.current.IsWord "each"
  · simp only [hword, decide_true, ↓reduceIte] at hrun
    exact derived_eachLoop hs (by omega) hword hrun hskip
  · simp only [hword, decide_false, Bool.false_eq_true, ↓reduceIte] at hrun
    obtain ⟨condition, s₂, hcondition, hrun⟩ := bind_eq_ok.mp hrun
    obtain ⟨n, tokens, sp₂, hle, hreads⟩ := hf (by omega) hcondition
    have hstart : ¬ StartsLoop tokens := not_startsLoop sp₂ hs₁ hword
    rw [bind_of_ok (at?_run .question s₂)] at hrun
    by_cases hmark : s₂.current.kind = .question
    · simp only [hmark, BEq.rfl, ↓reduceIte] at hrun
      exact derived_sides hs sp₂ hle hstart hreads hmark hrun hskip
    · simp only [beq_eq_false_iff_ne.mpr hmark, Bool.false_eq_true, ↓reduceIte] at hrun
      obtain ⟨rfl, rfl⟩ := pure_eq_ok.mp hrun
      rw [skipBlanks_of_settled sp₂.settled] at hskip
      obtain ⟨-, rfl⟩ := EStateM.Result.ok.inj hskip
      exact ⟨n, tokens, sp₂, hle, .plain hreads hstart hmark⟩

end

/-! ## Operators in a row -/

section
variable {tier : Tier} {operand : Parser Node}

/-- What has been folded is the beginning of a row, and what is answered is the whole of it. -/
theorem derived_foldOperators (ho : Sound 0 operand tier.operand) {s₀ s r : State}
    {levels k m : Nat} {tokens : List Token} {left node : Node} (hpasses : Passes s₀ tokens s)
    (hs : s.Settled) (hdepth : s.depth = s₀.depth + k) (hle : s₀.depth + m ≤ maxDepth)
    (hreads : Reads s.current.kind m tokens (.row tier k left))
    (h : foldOperators tier.operators operand levels left s = .ok node r) :
    ∃ n tokens, Passes s₀ tokens r ∧ r.Settled ∧ s₀.depth + n ≤ maxDepth ∧
      Reads r.current.kind n tokens (.tier tier node) := by
  -- along the levels left; what has been folded so far is a row that grows with them
  induction levels generalizing s k m tokens left with
  | zero =>
    rw [foldOperators, bind_of_ok (atAny?_run _ s)] at h
    by_cases hop : s.current.kind ∈ tier.operators
    · simp only [List.contains_iff_mem.mpr hop, ↓reduceIte, fail_run, reduceCtorEq] at h
    · simp only [List.contains_iff_mem, hop, ↓reduceIte] at h
      obtain ⟨rfl, rfl⟩ := pure_eq_ok.mp h
      exact ⟨m, tokens, hpasses, hs, hle, .tier hreads hop⟩
  | succ levels ih =>
    rw [foldOperators_succ, bind_of_ok (atAny?_run _ s)] at h
    by_cases hop : s.current.kind ∈ tier.operators
    · simp only [List.contains_iff_mem.mpr hop, ↓reduceIte] at h
      obtain ⟨_, s₁, hdeepen, h⟩ := bind_eq_ok.mp h
      by_cases hlt : s.depth < maxDepth
      · rw [deepen_of_lt hlt] at hdeepen
        obtain ⟨-, rfl⟩ := EStateM.Result.ok.inj hdeepen
        obtain ⟨op, s₂, hrun, h⟩ := bind_eq_ok.mp h
        have hs₁ : (s.atDepth (s.depth + 1)).Settled := hs
        obtain ⟨rfl, sp₂⟩ := (settled_advance_eq_ok hs₁).mp hrun
        have d₂ : s₂.depth = s.depth + 1 := sp₂.depth
        obtain ⟨right, s₃, hrun, h⟩ := bind_eq_ok.mp h
        obtain ⟨n, us, sp₃, hle', hright⟩ := ho (by omega) hrun
        have d₃ := sp₃.depth
        have hfolded := Reads.operator hreads hop hright
        have hfar := Passes.atDepth_left.mp (sp₂.trans sp₃).passes
        exact ih (hpasses.trans hfar) sp₃.settled (by omega) (by omega) hfolded h
      · rw [deepen_of_le (Nat.not_lt.mp hlt)] at hdeepen
        cases hdeepen
    · simp only [List.contains_iff_mem, hop, ↓reduceIte] at h
      obtain ⟨rfl, rfl⟩ := pure_eq_ok.mp h
      exact ⟨m, tokens, hpasses, hs, hle, .tier hreads hop⟩

/-- A reader of rows is sound when the reader of their operands is. -/
theorem sound_tier (ho : Sound 0 operand tier.operand) :
    Sound 0 (Parser.tier tier.operators operand) (.tier tier) := by
  intro s s' node hd h
  obtain ⟨m, hrun, hskip⟩ := settled_eq_ok.mp h
  rw [tier_eq, bind_of_ok (get_run s)] at hrun
  obtain ⟨first, s₁, hfirst, hrun⟩ := bind_eq_ok.mp hrun
  obtain ⟨n, tokens, sp₁, hle, hreads⟩ := ho hd hfirst
  obtain ⟨node', r, hfold, hrun⟩ := bind_eq_ok.mp hrun
  obtain ⟨_, m', hmodify, hrun⟩ := bind_eq_ok.mp hrun
  obtain ⟨rfl, rfl⟩ := pure_eq_ok.mp hrun
  obtain ⟨-, rfl⟩ := EStateM.Result.ok.inj hmodify
  obtain ⟨k, all, p₂, hr, hle', hall⟩ :=
    derived_foldOperators (k := 0) ho sp₁.passes sp₁.settled sp₁.depth hle (.operand hreads) hfold
  have hr' : (r.atDepth s.depth).Settled := hr
  rw [skipBlanks_of_settled hr'] at hskip
  obtain ⟨-, rfl⟩ := EStateM.Result.ok.inj hskip
  exact ⟨k, all, ⟨Passes.atDepth_right.mpr p₂, hr, rfl⟩, hle', hall⟩

/-- The three tiers one inside the other. -/
theorem sound_expression {factor : Parser Node} (hf : Sound 0 factor .factor) :
    Sound 0 (expression factor) (.tier .relational) := by
  have hmultiplicative := @sound_tier .multiplicative _ hf
  have hadditive := @sound_tier .additive _ hmultiplicative
  exact @sound_tier .relational _ hadditive

end

/-! ## Factors -/

section
variable {statement factor : Parser Node} {access : Parser (Link × List Link)} {s s' m : State}
  {node : Node}

/-- A token that stands for a value is read as that value. -/
theorem derived_terminal {value : Literal} (hvalue : s.current.literal? = some value)
    (hlt : s.depth ≤ maxDepth) (hs : s.Settled)
    (h : terminal value s = .ok node m) (hskip : skipBlanks m = .ok () s') :
    Derived 1 s s' (.factor node) := by
  obtain ⟨token, m', hadvance, h⟩ := bind_eq_ok.mp h
  obtain ⟨rfl, rfl⟩ := pure_eq_ok.mp h
  obtain ⟨rfl, sp₁⟩ := (settled_advance_eq_ok hs).mp (settled_eq_ok.mpr ⟨m', hadvance, hskip⟩)
  exact ⟨0, _, sp₁, hlt, .literal hvalue⟩

/-- A reader of factors is sound when the readers of their parts are. -/
theorem sound_factorBody (hs : Sound 0 statement .statement) (hf : Sound 0 factor .factor)
    (ha : Sound 0 access fun (head, members) => .access head members) :
    Sound 1 (factorBody statement factor access) .factor := by
  intro s s' node hd h
  obtain ⟨m, hrun, hskip⟩ := settled_eq_ok.mp h
  rw [factorBody_eq] at hrun
  obtain ⟨_, s₁, hblanks, hrun⟩ := bind_eq_ok.mp hrun
  refine Derived.of_skipBlanks hblanks ?_
  obtain ⟨-, hs₁, d₁⟩ := skipBlanks_eq_ok.mp hblanks
  rw [bind_of_ok (get_run s₁)] at hrun
  have hd₁ : s₁.depth ≤ maxDepth := d₁ ▸ hd
  -- in the order in which the kinds are asked for
  split at hrun
  case isTrue hsign =>
    obtain ⟨op, s₂, hadvance, hrun⟩ := bind_eq_ok.mp hrun
    obtain ⟨rfl, step, d₂⟩ := advance_eq_ok.mp hadvance
    obtain ⟨operand, m', hoperand, hrun⟩ := bind_eq_ok.mp hrun
    obtain ⟨rfl, rfl⟩ := pure_eq_ok.mp hrun
    obtain ⟨n, tokens, sp₃, hle, hreads⟩ := hf (d₂ ▸ hd₁) (settled_eq_ok.mpr ⟨m', hoperand, hskip⟩)
    exact ⟨n, _, sp₃.of_step step hs₁ d₂, d₂ ▸ hle, .sign hsign hreads⟩
  split at hrun
  case isTrue hnull =>
    obtain ⟨token, m', hadvance, hrun⟩ := bind_eq_ok.mp hrun
    obtain ⟨rfl, rfl⟩ := pure_eq_ok.mp hrun
    obtain ⟨rfl, sp₂⟩ := (settled_advance_eq_ok hs₁).mp (settled_eq_ok.mpr ⟨m', hadvance, hskip⟩)
    exact ⟨0, _, sp₂, hd₁, .null hnull⟩
  split at hrun
  case isTrue =>
    obtain ⟨⟨head, members⟩, m', haccess, hrun⟩ := bind_eq_ok.mp hrun
    obtain ⟨rfl, rfl⟩ := pure_eq_ok.mp hrun
    obtain ⟨n, tokens, sp₂, hle, hreads⟩ := ha hd₁ (settled_eq_ok.mpr ⟨m', haccess, hskip⟩)
    exact ⟨n, tokens, sp₂, hle, .reference hreads⟩
  split at hrun
  case isTrue hopening =>
    obtain ⟨opening, s₂, hadvance, hrun⟩ := bind_eq_ok.mp hrun
    obtain ⟨rfl, step, d₂⟩ := advance_eq_ok.mp hadvance
    obtain ⟨node', s₃, hstatement, hrun⟩ := bind_eq_ok.mp hrun
    obtain ⟨n, tokens, sp₃, hle, hreads⟩ := hs (d₂ ▸ hd₁) hstatement
    obtain ⟨closing, m', heat, hrun⟩ := bind_eq_ok.mp hrun
    obtain ⟨rfl, rfl⟩ := pure_eq_ok.mp hrun
    obtain ⟨hclosing, rfl, sp₄⟩ :=
      (settled_eat_eq_ok (by decide)).mp (settled_eq_ok.mpr ⟨m', heat, hskip⟩)
    rw [hclosing] at hreads
    exact ⟨n, _, (sp₃.trans sp₄).of_step step hs₁ d₂, d₂ ▸ hle, .parens hopening hreads hclosing⟩
  split at hrun
  case isTrue hnot =>
    obtain ⟨token, s₂, hadvance, hrun⟩ := bind_eq_ok.mp hrun
    obtain ⟨rfl, step, d₂⟩ := advance_eq_ok.mp hadvance
    obtain ⟨n, tokens, sp₃, hle, hreads⟩ := hf (d₂ ▸ hd₁) (settled_eq_ok.mpr ⟨m, hrun, hskip⟩)
    exact ⟨n, _, sp₃.of_step step hs₁ d₂, d₂ ▸ hle, .not hnot hreads⟩
  cases hvalue : s₁.current.literal? with
  | some value =>
    rw [hvalue] at hrun
    exact derived_terminal hvalue hd₁ hs₁ hrun hskip
  | none =>
    rw [hvalue] at hrun
    cases hrun

end

/-! ## Links and their arguments -/

section
variable {statement : Parser Node} {access : Parser (Link × List Link)}

/-- The arguments up to the closing parenthesis are derived, and that parenthesis is there. -/
theorem derived_argsUpTo (hs : Sound 0 statement .statement) {bound : Nat} {s s' : State}
    {nodes : List Node} (hsettled : s.Settled) (hd : s.depth ≤ maxDepth)
    (h : argsUpTo statement bound s = .ok nodes s') :
    s'.current.kind = .rParen ∧ Derived 0 s s' (.args nodes) := by
  -- on the bound; once it is used up, only the closing parenthesis can be read
  induction bound generalizing s nodes with
  | zero =>
    by_cases hclosing : s.current.kind = .rParen
    · rw [argsUpTo_of_closing hclosing] at h
      obtain ⟨rfl, rfl⟩ := EStateM.Result.ok.inj h
      exact ⟨hclosing, 0, [], .refl hsettled, hd, hclosing ▸ .noArgs⟩
    · rw [argsUpTo, bind_of_ok (at?_run _ s), beq_eq_false_iff_ne.mpr hclosing] at h
      cases h
  | succ bound ih =>
    by_cases hclosing : s.current.kind = .rParen
    · rw [argsUpTo_of_closing hclosing] at h
      obtain ⟨rfl, rfl⟩ := EStateM.Result.ok.inj h
      exact ⟨hclosing, 0, [], .refl hsettled, hd, hclosing ▸ .noArgs⟩
    · rw [argsUpTo_succ, bind_of_ok (at?_run _ s)] at h
      simp only [beq_eq_false_iff_ne.mpr hclosing, Bool.false_eq_true, ↓reduceIte] at h
      obtain ⟨arg, s₁, harg, h⟩ := bind_eq_ok.mp h
      obtain ⟨m, tokens, sp₁, hle, hreads⟩ := hs hd harg
      have d₁ := sp₁.depth
      rw [bind_of_ok (at?_run .comma s₁)] at h
      by_cases hcomma : s₁.current.kind = .comma
      · simp only [hcomma, BEq.rfl, ↓reduceIte] at h
        obtain ⟨comma, s₂, hadvance, h⟩ := bind_eq_ok.mp h
        obtain ⟨rfl, sp₂⟩ := (settled_advance_eq_ok sp₁.settled).mp hadvance
        have d₂ := sp₂.depth
        obtain ⟨rest, m', hrest, h⟩ := bind_eq_ok.mp h
        obtain ⟨rfl, rfl⟩ := pure_eq_ok.mp h
        obtain ⟨hend, n, more, sp₃, hle', hargs⟩ := ih sp₂.settled (by omega) hrest
        rw [hcomma] at hreads
        rw [hend] at hargs
        refine ⟨hend, max m n, _, sp₁.trans (sp₂.trans sp₃), ?_, ?_⟩
        · omega
        · exact hend ▸ .comma hreads hcomma hargs
      · simp only [beq_eq_false_iff_ne.mpr hcomma, Bool.false_eq_true, ↓reduceIte] at h
        rw [bind_of_ok (at?_run .rParen s₁)] at h
        by_cases hend : s₁.current.kind = .rParen
        · simp only [hend, BEq.rfl, ↓reduceIte] at h
          rw [bind_of_ok (argsUpTo_of_closing hend)] at h
          obtain ⟨rfl, rfl⟩ := pure_eq_ok.mp h
          rw [hend] at hreads
          exact ⟨hend, m, tokens, sp₁, hle, hend ▸ .lastArg hreads⟩
        · simp only [beq_eq_false_iff_ne.mpr hend, Bool.false_eq_true, ↓reduceIte, fail_run,
            reduceCtorEq] at h

/-- A call, for the name that was read before its arguments. -/
theorem derived_call (hs : Sound 0 statement .statement) {s s' : State} {nodes : List Node}
    (hd : s.depth ≤ maxDepth) (h : settled (args statement) s = .ok nodes s') :
    ∃ n tokens opening closing, opening.kind = .lParen ∧ closing.kind = .rParen ∧
      Spans s (opening :: (tokens ++ [closing])) s' ∧ s.depth + n ≤ maxDepth ∧
      Reads .rParen n tokens (.args nodes) := by
  obtain ⟨m, hrun, hskip⟩ := settled_eq_ok.mp h
  rw [args_eq] at hrun
  obtain ⟨opening, s₁, heat, hrun⟩ := bind_eq_ok.mp hrun
  obtain ⟨hopening, rfl, sp₁⟩ := (settled_eat_eq_ok (by decide)).mp heat
  rw [bind_of_ok (get_run s₁)] at hrun
  obtain ⟨nodes', s₂, hargs, hrun⟩ := bind_eq_ok.mp hrun
  have hd₁ : s₁.depth ≤ maxDepth := sp₁.depth ▸ hd
  obtain ⟨hend, n, tokens, sp₂, hle, hreads⟩ := derived_argsUpTo hs sp₁.settled hd₁ hargs
  obtain ⟨closing, m', heat, hrun⟩ := bind_eq_ok.mp hrun
  obtain ⟨rfl, rfl⟩ := pure_eq_ok.mp hrun
  obtain ⟨hclosing, rfl, sp₃⟩ :=
    (settled_eat_eq_ok (by decide)).mp (settled_eq_ok.mpr ⟨m', heat, hskip⟩)
  rw [hend] at hreads
  exact ⟨n, tokens, _, _, hopening, hclosing, sp₁.trans (sp₂.trans sp₃), sp₁.depth ▸ hle, hreads⟩

/-- What follows a link, for the link that was read before it. -/
theorem derived_members (ha : Sound 0 access fun (head, members) => .access head members)
    {s₀ s m s' : State} {n : Nat} {tokens : List Token} {link : Link} {found : Link × List Link}
    (hspan : Spans s₀ tokens s) (hle : s₀.depth + n ≤ maxDepth)
    (hreads : Reads s.current.kind n tokens (.link link))
    (h : members access link s = .ok found m) (hskip : skipBlanks m = .ok () s') :
    Derived 1 s₀ s' (.access found.1 found.2) := by
  rw [members, bind_of_ok (at?_run .dot s)] at h
  by_cases hdot : s.current.kind = .dot
  · simp only [hdot, BEq.rfl, ↓reduceIte] at h
    obtain ⟨dot, s₁, hadvance, h⟩ := bind_eq_ok.mp h
    obtain ⟨rfl, sp₁⟩ := (settled_advance_eq_ok hspan.settled).mp hadvance
    have sp₁ := hspan.trans sp₁
    have d₁ := sp₁.depth
    obtain ⟨⟨member, rest⟩, m', haccess, h⟩ := bind_eq_ok.mp h
    obtain ⟨rfl, rfl⟩ := pure_eq_ok.mp h
    obtain ⟨k, more, sp₂, hle', hrest⟩ := ha (by omega) (settled_eq_ok.mpr ⟨m', haccess, hskip⟩)
    rw [hdot] at hreads
    refine ⟨max n k, tokens ++ s.current :: more, ?_, ?_, ?_⟩
    · simpa only [List.append_assoc, List.cons_append, List.nil_append] using sp₁.trans sp₂
    · omega
    · exact .dot hreads hdot hrest
  · simp only [beq_eq_false_iff_ne.mpr hdot, Bool.false_eq_true, ↓reduceIte] at h
    obtain ⟨rfl, rfl⟩ := pure_eq_ok.mp h
    rw [skipBlanks_of_settled hspan.settled] at hskip
    obtain ⟨-, rfl⟩ := EStateM.Result.ok.inj hskip
    exact ⟨n, tokens, hspan, hle, .lastLink hreads hdot⟩

/-- A reader of links is sound when the readers of their parts are. -/
theorem sound_accessBody (hs : Sound 0 statement .statement)
    (ha : Sound 0 access fun (head, members) => .access head members) :
    Sound 1 (accessBody statement access) fun (head, members) => .access head members := by
  intro s s' found hd h
  obtain ⟨m, hrun, hskip⟩ := settled_eq_ok.mp h
  rw [accessBody_eq] at hrun
  obtain ⟨token, s₁, heat, hrun⟩ := bind_eq_ok.mp hrun
  obtain ⟨hname, rfl, sp₁⟩ := (settled_eat_eq_ok (by decide)).mp heat
  have d₁ := sp₁.depth
  rw [bind_of_ok (at?_run .lParen s₁)] at hrun
  by_cases hopening : s₁.current.kind = .lParen
  · simp only [hopening, BEq.rfl, ↓reduceIte] at hrun
    obtain ⟨nodes, s₂, hargs, hrun⟩ := bind_eq_ok.mp hrun
    obtain ⟨n, tokens, opening, closing, hopening, hclosing, sp₂, hle, hreads⟩ :=
      derived_call hs (by omega) hargs
    exact derived_members ha (sp₁.trans sp₂) (by omega) (.call hname hopening hreads hclosing) hrun
      hskip
  · simp only [beq_eq_false_iff_ne.mpr hopening, Bool.false_eq_true, ↓reduceIte] at hrun
    exact derived_members ha sp₁ hd (.name hname hopening) hrun hskip

end

/-! ## All readers -/

private theorem sound_fail {α : Type} {phrase : α → Phrase} {entered : Nat} {expected : Expected} :
    Sound entered (fail expected) phrase := by
  intro s s' a _ h
  obtain ⟨m, hrun, -⟩ := settled_eq_ok.mp h
  cases hrun

/-- **What the readers answer is derived**, whatever number of levels is left. -/
theorem sound_readers (levels : Nat) :
    Sound 0 (statement levels) .statement ∧ Sound 0 (factor levels) .factor ∧
      Sound 0 (access levels) fun (head, members) => .access head members := by
  induction levels with
  | zero =>
    rw [statement, factor, access]
    exact ⟨sound_fail, sound_fail, sound_fail⟩
  | succ levels ih =>
    obtain ⟨hs, hf, ha⟩ := ih
    rw [statement, factor, access]
    exact ⟨sound_nested (sound_statementBody (sound_expression hf) hs),
      sound_nested (sound_factorBody hs hf ha), sound_nested (sound_accessBody hs ha)⟩

end Stencil.Parser
