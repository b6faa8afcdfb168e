import Stencil.Proofs.Reading.Form

/-!
# What is derived is read

Where the tokens ahead derive a phrase, the reader of the phrase answers just that, or gives up for
want of levels; which of the two is decided by the number of levels in the derivation
(`Parser.Leads`). `Complete` says so of a reader. Of the kind of token that ends a phrase a
derivation knows what the reader looks at, so that no other reading comes in between.
-/

namespace Stencil.Parser

/-! ## Answers -/

/-- From `s` a run of `p` that enters as many as `n` levels answers `a`, and then come blanks up to
`s'`. -/
def Answers {α : Type} (n : Nat) (p : Parser α) (s : State) (a : α) (s' : State) : Prop :=
  ∃ m, skipBlanks m = .ok () s' ∧ Leads n (p s) (.ok a m)

namespace Answers

variable {α β : Type} {p : Parser α} {f : α → Parser β} {s s' m : State} {a : α} {b : β} {k n : Nat}

/-- The levels of a run, said in another way. -/
theorem cast (h : Answers n p s a s') (hn : n = k) : Answers k p s a s' := hn ▸ h

/-- A run that answers without entering a level. -/
theorem of_ok (h : p s = .ok a s') (hs : s'.Settled) (hn : n ≤ maxDepth) : Answers n p s a s' :=
  ⟨s', skipBlanks_of_settled hs, .of_eq h hn⟩

/-- A run that would enter too many. -/
theorem of_tooDeep (h : TooDeep (p s)) (hs : s'.Settled) (hn : maxDepth < n) : Answers n p s a s' :=
  ⟨s', skipBlanks_of_settled hs, .of_tooDeep h hn⟩

/-- What the first of two readers answers settles the first part. -/
theorem bind_ok (hp : p s = .ok a m) (hf : Answers n (f a) m b s') : Answers n (p >>= f) s b s' := by
  obtain ⟨r, hskip, hlead⟩ := hf
  exact ⟨r, hskip, .bind_ok hp hlead⟩

/-- Two readers in sequence enter as many levels as the one that enters more. -/
theorem bind (hp : Leads n (p s) (.ok a m)) (hf : Answers k (f a) m b s') :
    Answers (max n k) (p >>= f) s b s' := by
  obtain ⟨r, hskip, hlead⟩ := hf
  exact ⟨r, hskip, .bind hp hlead⟩

/-- What is only put differently is answered all the same. -/
theorem map {g : α → β} (h : Answers n p s a s') :
    Answers n (p >>= fun a => pure (g a)) s (g a) s' := by
  obtain ⟨m, hskip, hlead⟩ := h
  exact ⟨m, hskip, hlead.map⟩

/-- A token is answered that is ahead. -/
theorem advance {token : Token} (h : Spans s [token] s') (hs : s.Settled) (hn : n ≤ maxDepth) :
    Answers n advance s token s' := by
  obtain ⟨m, hadvance, hskip⟩ := settled_eq_ok.mp (settled_advance hs h)
  exact ⟨m, hskip, .of_eq hadvance hn⟩

/-- A token of the right kind is taken. -/
theorem eat {token : Token} {kind : Kind} {expected : Expected} (h : Spans s [token] s')
    (hs : s.Settled) (hkind : token.kind = kind) (hn : n ≤ maxDepth) :
    Answers n (eat kind expected) s token s' := by
  obtain ⟨m, heat, hskip⟩ := settled_eq_ok.mp (settled_eat hs hkind h)
  exact ⟨m, hskip, .of_eq heat hn⟩

/-- The blanks can be taken along. -/
theorem settled (h : Answers n p s a s') : Leads n (settled p s) (.ok a s') := by
  obtain ⟨m, hskip, hlead⟩ := h
  by_cases hn : n ≤ maxDepth
  · exact .of_eq (settled_eq_ok.mpr ⟨m, hlead.within hn, hskip⟩) hn
  · obtain ⟨found, r, hdeep⟩ := hlead.beyond (by omega)
    exact .of_tooDeep ⟨found, r, bind_of_error hdeep⟩ (by omega)

end Answers

/-- **What is derived is read**, from where `start` holds and with at most `levels` levels left. Of the
levels in the derivation `entered` are counted in the first state already. -/
def Complete {α : Type} (start : State → Prop) (levels entered : Nat) (p : Parser α)
    (phrase : α → Phrase) : Prop :=
  ∀ ⦃n tokens a s s'⦄, start s → s.depth ≤ maxDepth → maxDepth ≤ s.depth + levels →
    Reads s'.current.kind (n + entered) tokens (phrase a) → Spans s tokens s' →
    Answers (s.depth + n) p s a s'

section
variable {α : Type} {p : Parser α} {phrase : α → Phrase} {start : State → Prop} {levels : Nat}

/-- With no level left, what enters one asks for fewer. -/
theorem complete_fail (hpos : ∀ ⦃next n tokens a⦄, Reads next n tokens (phrase a) → 0 < n) :
    Complete start 0 0 (fail .fewerLevels) phrase := by
  intro n tokens a s s' _ _ hlevels hreads hspan
  have hn : 0 < n := hpos hreads
  exact .of_tooDeep ⟨_, _, fail_run _ s⟩ hspan.settled (by omega)

/-- On a level of its own a phrase is read with one level less. -/
theorem complete_nested (hstart : ∀ ⦃s⦄ d, start s → start (s.atDepth d))
    (hpos : ∀ ⦃next n tokens a⦄, Reads next n tokens (phrase a) → 0 < n)
    (hp : Complete start levels 1 p phrase) : Complete start (levels + 1) 0 (nested p) phrase := by
  intro n tokens a s s' hs _ hlevels hreads hspan
  have hn : 0 < n := hpos hreads
  -- the derivation counts the level itself, so that it has one at least
  obtain ⟨k, rfl⟩ : ∃ k, n = k + 1 := ⟨n - 1, by omega⟩
  by_cases hlt : s.depth < maxDepth
  · have hspan' : Spans (s.atDepth (s.depth + 1)) tokens (s'.atDepth (s.depth + 1)) :=
      ⟨Passes.atDepth_left.mpr (Passes.atDepth_right.mpr hspan.passes), hspan.settled, rfl⟩
    have hlevels' : maxDepth ≤ s.depth + 1 + levels := by omega
    have hreads' : Reads (s'.atDepth (s.depth + 1)).current.kind (k + 1) tokens (phrase a) := hreads
    obtain ⟨m, hskip, hlead⟩ := hp (hstart _ hs) hlt hlevels' hreads' hspan'
    obtain ⟨hpasses, -, hdepth⟩ := skipBlanks_eq_ok.mp hskip
    have hshallower : skipBlanks m.shallower = .ok () s' := by
      refine skipBlanks_eq_ok.mpr ⟨?_, hspan.settled, ?_⟩
      · exact (Passes.atDepth_right.mp hpasses).of_place (m := m) rfl rfl
      · have hdepth : s.depth + 1 = m.depth := hdepth
        show s'.depth = m.depth - 1
        rw [← hdepth, hspan.depth, Nat.add_sub_cancel]
    have hcount : (s.atDepth (s.depth + 1)).depth + k = s.depth + (k + 1) := by
      show s.depth + 1 + k = _
      omega
    rw [hcount] at hlead
    refine ⟨m.shallower, hshallower, ⟨fun h => ?_, fun h => ?_⟩⟩
    · exact nested_eq_ok.mpr ⟨hlt, m, hlead.within h, rfl⟩
    · obtain ⟨found, r, hdeep⟩ := hlead.beyond h
      exact ⟨found, r.shallower, nested_of_error hlt hdeep⟩
  · exact .of_tooDeep ⟨_, _, nested_of_le (by omega)⟩ hspan.settled (by omega)

end

/-! ## Statements -/

section
variable {statement factor : Parser Node} {levels n : Nat} {s s' : State} {tokens : List Token}

/-- A loop is read when its body can be. -/
theorem answers_eachLoop {each item word source mark : Token} {body : Node}
    (hs : Complete (fun _ => True) levels 0 statement .statement)
    (hd : s.depth ≤ maxDepth) (hlevels : maxDepth ≤ s.depth + levels) (heach : each.IsWord "each")
    (hitem : item.kind = .identifier) (hword : word.IsWord "in")
    (hsource : source.kind = .identifier) (hmark : mark.kind = .question)
    (hbody : Reads s'.current.kind n tokens (.statement body)) (hsettled : s.Settled)
    (hspan : Spans s (each :: item :: word :: source :: mark :: tokens) s') :
    Answers (s.depth + n) (eachLoop statement) s (.each each item source body) s' := by
  obtain ⟨s₁, sp₁, hspan₁⟩ := hspan.cons
  obtain ⟨s₂, sp₂, hspan₂⟩ := hspan₁.cons
  obtain ⟨s₃, sp₃, hspan₃⟩ := hspan₂.cons
  obtain ⟨s₄, sp₄, hspan₄⟩ := hspan₃.cons
  obtain ⟨s₅, sp₅, hspan₅⟩ := hspan₄.cons
  have hdepth : s₅.depth = s.depth := (sp₁.trans (sp₂.trans (sp₃.trans (sp₄.trans sp₅)))).depth
  have hin : s₂.current.IsWord "in" := (sp₃.current_eq sp₂.settled).symm ▸ hword
  rw [eachLoop_eq]
  refine .bind_ok (settled_eat hsettled heach.1 sp₁) ?_
  refine .bind_ok (settled_eat sp₁.settled hitem sp₂) ?_
  refine .bind_ok (atWord?_run "in" s₂) ?_
  rw [decide_eq_true hin, if_pos rfl]
  refine .bind_ok (settled_advance sp₂.settled sp₃) ?_
  refine .bind_ok (settled_eat sp₃.settled hsource sp₄) ?_
  refine .bind_ok (settled_eat sp₄.settled hmark sp₅) ?_
  have hanswer := hs trivial (hdepth ▸ hd) (hdepth ▸ hlevels) hbody hspan₅
  rw [hdepth] at hanswer
  exact hanswer.map

/-- A branch with one side. -/
theorem answers_oneSide {mark : Token} {body : Node} (condition : Node)
    (hs : Complete (fun _ => True) levels 0 statement .statement)
    (hd : s.depth ≤ maxDepth) (hlevels : maxDepth ≤ s.depth + levels) (hmark : mark.kind = .question)
    (hbody : Reads s'.current.kind n tokens (.statement body)) (hcolon : s'.current.kind ≠ .colon)
    (hsettled : s.Settled) (hspan : Spans s (mark :: tokens) s') :
    Answers (s.depth + n) (sides statement condition) s (.ifThen condition body none) s' := by
  obtain ⟨s₁, sp₁, hspan₁⟩ := hspan.cons
  rw [sides_eq]
  refine .bind_ok (settled_eat hsettled hmark sp₁) ?_
  have hanswer := (hs trivial (sp₁.depth ▸ hd) (sp₁.depth ▸ hlevels) hbody hspan₁).settled
  rw [sp₁.depth] at hanswer
  refine .cast (.bind (k := s.depth) hanswer ?_) (by omega)
  refine .bind_ok (at?_run .colon s') ?_
  rw [beq_eq_false_iff_ne.mpr hcolon]
  exact .of_ok rfl hspan.settled hd

/-- A branch with two sides. -/
theorem answers_twoSides {mark colon : Token} {body other : Node} {m : Nat} {more : List Token}
    (condition : Node) (hs : Complete (fun _ => True) levels 0 statement .statement)
    (hd : s.depth ≤ maxDepth) (hlevels : maxDepth ≤ s.depth + levels) (hmark : mark.kind = .question)
    (hbody : Reads .colon m tokens (.statement body)) (hcolon : colon.kind = .colon)
    (hother : Reads s'.current.kind n more (.statement other))
    (hsettled : s.Settled) (hspan : Spans s (mark :: (tokens ++ colon :: more)) s') :
    Answers (s.depth + max m n) (sides statement condition) s
      (.ifThen condition body (some other)) s' := by
  obtain ⟨s₁, sp₁, hspan₁⟩ := hspan.cons
  obtain ⟨s₂, sp₂, hspan₂⟩ := hspan₁.split
  obtain ⟨s₃, sp₃, hspan₃⟩ := hspan₂.cons
  have hdepth : s₃.depth = s.depth := (sp₁.trans (sp₂.trans sp₃)).depth
  have hhere : s₂.current.kind = .colon := (sp₃.current_eq sp₂.settled) ▸ hcolon
  rw [sides_eq]
  refine .bind_ok (settled_eat hsettled hmark sp₁) ?_
  have hfirst := (hs trivial (sp₁.depth ▸ hd) (sp₁.depth ▸ hlevels) (hhere ▸ hbody) sp₂).settled
  have hsecond := hs trivial (hdepth ▸ hd) (hdepth ▸ hlevels) hother hspan₃
  rw [sp₁.depth] at hfirst
  rw [hdepth] at hsecond
  refine .cast (.bind (k := s.depth + n) hfirst ?_) (by omega)
  refine .bind_ok (at?_run .colon s₂) ?_
  rw [hhere]
  exact .bind_ok (settled_advance sp₂.settled sp₃) hsecond.map

/-- A reader of statements is complete when the readers of their parts are. -/
theorem complete_statementBody
    (hf : Complete (fun _ => True) levels 0 (expression factor) (.tier .relational))
    (hs : Complete (fun _ => True) levels 0 statement .statement) :
    Complete (fun _ => True) levels 1 (statementBody factor statement) .statement := by
  intro n tokens node s₀ s' _ hd₀ hlevels₀ hreads hspan₀
  obtain ⟨s, hblanks, hspan⟩ := hspan₀.skip
  have hd : s.depth ≤ maxDepth := hblanks.depth ▸ hd₀
  have hlevels : maxDepth ≤ s.depth + levels := hblanks.depth ▸ hlevels₀
  rw [statementBody_eq, ← hblanks.depth]
  refine .bind_ok (skipBlanks_eq_ok.mpr hblanks) (.bind_ok (atWord?_run "each" s) ?_)
  -- what comes after the condition of a branch is left to the sides
  have hcondition {l m : Nat} {cs : List Token} {condition : Node} {s₁ : State}
      {after : Node → Parser Node}
      (hcs : Reads s₁.current.kind l cs (.tier .relational condition)) (hstart : ¬ StartsLoop cs)
      (sp₁ : Spans s cs s₁) (hafter : Answers m (after condition) s₁ node s') :
      Answers (max (s.depth + l) m) (if decide (s.current.IsWord "each") then eachLoop statement else
        settled (expression factor) >>= after) s node s' := by
    have hword : ¬ s.current.IsWord "each" := by
      obtain ⟨t, us, rfl, -⟩ := hcs.starts nofun
      rw [sp₁.current_eq hblanks.settled]
      exact fun h => hstart ⟨t, rfl, h⟩
    rw [decide_eq_false hword]
    exact .bind (hf trivial hd hlevels hcs sp₁).settled hafter
  generalize hnext : s'.current.kind = next at hreads
  generalize hlevel : n + 1 = level at hreads
  cases hreads with
  | loop heach hitem hword hsource hmark hbody =>
    have hfirst : s.current.IsWord "each" := (hspan.current_eq hblanks.settled).symm ▸ heach
    obtain rfl := Nat.succ.inj hlevel
    rw [decide_eq_true hfirst, if_pos rfl]
    exact answers_eachLoop hs hd hlevels heach hitem hword hsource hmark (hnext ▸ hbody)
      hblanks.settled hspan
  | plain hreads hstart hquestion =>
    obtain rfl := Nat.succ.inj hlevel
    refine .cast (hcondition (m := s.depth) (hnext ▸ hreads) hstart hspan ?_) (by omega)
    refine .bind_ok (at?_run .question s') ?_
    rw [beq_eq_false_iff_ne.mpr (hnext ▸ hquestion)]
    exact .of_ok rfl hspan.settled hd
  | @oneSided _ _ m _ _ _ condition _ hreads hstart hmark hbody hcolon =>
    obtain ⟨s₁, sp₁, hspan₁⟩ := hspan.split
    have hhere : s₁.current.kind = .question := (hspan₁.current_eq sp₁.settled) ▸ hmark
    have hsides := answers_oneSide condition hs (sp₁.depth ▸ hd) (sp₁.depth ▸ hlevels) hmark
      (hnext ▸ hbody) (hnext ▸ hcolon) sp₁.settled hspan₁
    rw [sp₁.depth] at hsides
    refine .cast (hcondition (m := s.depth + m) (hhere ▸ hreads) hstart sp₁ ?_) (by omega)
    refine .bind_ok (at?_run .question s₁) ?_
    rw [hhere]
    exact hsides
  | @twoSided _ _ m n _ _ _ _ _ condition _ _ hreads hstart hmark hbody hcolon hother =>
    obtain ⟨s₁, sp₁, hspan₁⟩ := hspan.split
    have hhere : s₁.current.kind = .question := (hspan₁.current_eq sp₁.settled) ▸ hmark
    have hsides := answers_twoSides condition hs (sp₁.depth ▸ hd) (sp₁.depth ▸ hlevels) hmark
      hbody hcolon (hnext ▸ hother) sp₁.settled hspan₁
    rw [sp₁.depth] at hsides
    refine .cast (hcondition (m := s.depth + max m n) (hhere ▸ hreads) hstart sp₁ ?_) (by omega)
    refine .bind_ok (at?_run .question s₁) ?_
    rw [hhere]
    exact hsides

end

/-! ## Operators in a row -/

section
variable {tier : Tier} {operand : Parser Node} {levels : Nat}

/-- Where no operator follows, a row is at its end. -/
theorem foldOperators_of_end {ops : List Kind} {left : Node} {s : State}
    (h : s.current.kind ∉ ops) (levels : Nat) :
    foldOperators ops operand levels left s = .ok left s := by
  cases levels <;>
  · rw [foldOperators, bind_of_ok (atAny?_run ops s)]
    simp only [List.contains_iff_mem, h, ↓reduceIte]
    rfl

/-- Where an operator follows, it is folded with its right operand a level deeper. -/
theorem leads_foldOperators {left right : Node} {op : Token} {us : List Token} {s s₁ s' : State}
    {k m n : Nat} {outcome : EStateM.Result ParseError State Node}
    (ho : Complete (fun _ => True) levels 0 operand tier.operand)
    (hlevels : maxDepth ≤ s.depth + levels) (hop : op.kind ∈ tier.operators)
    (hright : Reads s'.current.kind n us (tier.operand right)) (hs : s₁.Settled)
    (hdepth : s₁.depth = s.depth) (hspan : Spans s₁ (op :: us) s')
    (hrest : Leads m (foldOperators tier.operators operand (maxDepth - s.depth - (k + 1))
      (.binary op left right) (s'.atDepth (s.depth + (k + 1)))) outcome) :
    Leads (max (s.depth + (k + 1 + n)) m) (foldOperators tier.operators operand
      (maxDepth - s.depth - k) left (s₁.atDepth (s.depth + k))) outcome := by
  have hhere : op.kind = (s₁.atDepth (s.depth + k)).current.kind := by
    rw [← hspan.current_eq hs]
    rfl
  rw [hhere] at hop
  by_cases hlt : s.depth + k < maxDepth
  · have hfuel : maxDepth - s.depth - k = maxDepth - s.depth - (k + 1) + 1 := by omega
    rw [hfuel, foldOperators_succ]
    refine .bind_ok (atAny?_run _ _) ?_
    rw [List.contains_iff_mem.mpr hop, if_pos rfl]
    refine .bind_ok (deepen_of_lt hlt) ?_
    obtain ⟨s₂, sp₂, hspan₂⟩ := hspan.cons
    refine .bind_ok (settled_advance hs (sp₂.atDepth _)) ?_
    have hlevels' : maxDepth ≤ s.depth + k + 1 + levels := by omega
    have hright' : Reads (s'.atDepth (s.depth + k + 1)).current.kind n us (tier.operand right) :=
      hright
    have hd' : (s₂.atDepth (s.depth + k + 1)).depth ≤ maxDepth := hlt
    have hanswer := (ho trivial hd' hlevels' hright' (hspan₂.atDepth _)).settled
    have hlead : Leads _ ((settled operand >>= fun right => foldOperators tier.operators operand
        (maxDepth - s.depth - (k + 1)) (.binary op left right)) (s₂.atDepth (s.depth + k + 1)))
        outcome := .bind hanswer hrest
    have hcount : max (s.depth + k + 1 + n) m = max (s.depth + (k + 1 + n)) m := by omega
    rw [← hcount]
    exact hlead
  · have hfuel : maxDepth - s.depth - k = 0 := by omega
    rw [hfuel, foldOperators]
    refine .bind_ok (atAny?_run _ _) ?_
    rw [List.contains_iff_mem.mpr hop, if_pos rfl]
    exact .of_tooDeep ⟨_, _, fail_run _ _⟩ (by omega)

/-- **A row is read up to its end**, and then it goes on as if it were one operand. -/
theorem leads_row {k m n : Nat} {tokens : List Token} {node : Node} {s s' : State}
    {outcome : EStateM.Result ParseError State Node}
    (ho : Complete (fun _ => True) levels 0 operand tier.operand) (hd : s.depth ≤ maxDepth)
    (hlevels : maxDepth ≤ s.depth + levels)
    (hreads : Reads s'.current.kind n tokens (.row tier k node)) (hspan : Spans s tokens s')
    (hrest : Leads m (foldOperators tier.operators operand (maxDepth - s.depth - k) node
      (s'.atDepth (s.depth + k))) outcome) :
    Leads (max (s.depth + n) m) ((settled operand >>= fun first =>
      foldOperators tier.operators operand (maxDepth - s.depth) first) s) outcome := by
  generalize hnext : s'.current.kind = next at hreads
  induction k generalizing m n tokens node s' next with
  | zero =>
    cases hreads with
    | operand hreads =>
      rw [← hnext] at hreads
      have hsame : s'.atDepth (s.depth + 0) = s' := State.ext rfl rfl hspan.depth.symm
      rw [hsame] at hrest
      exact .bind (ho trivial hd hlevels hreads hspan).settled hrest
  | succ k ih =>
    cases hreads with
    | @operator _ _ l n _ _ _ _ _ _ hleft hop hright =>
      obtain ⟨s₁, sp₁, hspan₁⟩ := hspan.split
      have hfold := leads_foldOperators ho hlevels hop (hnext ▸ hright) sp₁.settled sp₁.depth hspan₁
        hrest
      have hlead := ih sp₁ hfold _ (by rw [hspan₁.current_eq sp₁.settled]) hleft
      have hcount : max (s.depth + l) (max (s.depth + (k + 1 + n)) m) =
          max (s.depth + max l (k + 1 + n)) m := by omega
      rw [← hcount]
      exact hlead

/-- A reader of rows is complete when the reader of their operands is. -/
theorem complete_tier (ho : Complete (fun _ => True) levels 0 operand tier.operand) :
    Complete (fun _ => True) levels 0 (Parser.tier tier.operators operand) (.tier tier) := by
  intro n tokens node s s' _ hd hlevels hreads hspan
  generalize hnext : s'.current.kind = next at hreads
  cases hreads with
  | @tier _ k _ _ _ _ hrow hend =>
    have hlast : (s'.atDepth (s.depth + k)).current.kind ∉ tier.operators := hnext ▸ hend
    have hlead := leads_row ho hd hlevels (hnext ▸ hrow) hspan
      (.of_eq (foldOperators_of_end hlast (maxDepth - s.depth - k)) hd)
    have hsame : (s'.atDepth (s.depth + k)).atDepth s.depth = s' := State.ext rfl rfl hspan.depth.symm
    rw [tier_eq]
    refine .bind_ok (get_run s) ?_
    rw [← bind_assoc]
    refine .cast (.bind hlead (.of_ok ?_ hspan.settled hd)) (by omega)
    show EStateM.Result.ok _ ((s'.atDepth (s.depth + k)).atDepth s.depth) = _
    rw [hsame]

/-- The three tiers one inside the other. -/
theorem complete_expression {factor : Parser Node}
    (hf : Complete (fun _ => True) levels 0 factor .factor) :
    Complete (fun _ => True) levels 0 (expression factor) (.tier .relational) := by
  have hmultiplicative := @complete_tier .multiplicative _ _ hf
  have hadditive := @complete_tier .additive _ _ hmultiplicative
  exact @complete_tier .relational _ _ hadditive

end

/-! ## Factors -/

section
variable {statement factor : Parser Node} {access : Parser (Link × List Link)} {levels : Nat}

/-- A reader of factors is complete when the readers of their parts are. -/
theorem complete_factorBody (hs : Complete (fun _ => True) levels 0 statement .statement)
    (hf : Complete (fun _ => True) levels 0 factor .factor)
    (ha : Complete State.Settled levels 0 access fun (head, members) => .access head members) :
    Complete (fun _ => True) levels 1 (factorBody statement factor access) .factor := by
  intro n tokens node s₀ s' _ hd₀ hlevels₀ hreads hspan₀
  obtain ⟨s, hblanks, hspan⟩ := hspan₀.skip
  have hd : s.depth ≤ maxDepth := hblanks.depth ▸ hd₀
  have hlevels : maxDepth ≤ s.depth + levels := hblanks.depth ▸ hlevels₀
  have hsettled := hblanks.settled
  rw [factorBody_eq, ← hblanks.depth]
  refine .bind_ok (skipBlanks_eq_ok.mpr hblanks) (.bind_ok (get_run s) ?_)
  -- what comes next and the levels are indices of the derivation, which `cases` needs as variables
  generalize hnext : s'.current.kind = next at hreads
  generalize hlevel : n + 1 = level at hreads
  cases hreads with
  | @literal _ t value hvalue =>
    rw [← hspan.current_eq hsettled] at hvalue
    have hkind := Token.kind_of_literal? hvalue
    have hother (kind : Kind)
        (h : kind ∉ [Kind.integerConst, .realConst, .textLiteral, .true, .false]) :
        s.current.kind ≠ kind := fun heq => h (heq ▸ hkind)
    rw [if_neg (by simp [hother]), if_neg (hother _ (by decide)), if_neg (hother _ (by decide)),
      if_neg (hother _ (by decide)), if_neg (hother _ (by decide)), hvalue]
    obtain rfl := Nat.succ.inj hlevel
    exact (Answers.advance hspan hsettled hd).map
  | @null _ t hnull =>
    have hkind : s.current.kind = .null := hspan.current_eq hsettled ▸ hnull
    obtain rfl := Nat.succ.inj hlevel
    rw [if_neg (by simp [hkind]), if_pos hkind]
    exact (Answers.advance hspan hsettled hd).map
  | sign hsign hoperand =>
    rw [← hspan.current_eq hsettled] at hsign
    obtain rfl := Nat.succ.inj hlevel
    obtain ⟨m, hadvance, hdepth, hspan⟩ := hspan.advance hsettled
    have hanswer := hf trivial (hdepth ▸ hd) (hdepth ▸ hlevels) (hnext ▸ hoperand) hspan
    rw [hdepth] at hanswer
    rw [if_pos hsign]
    exact .bind_ok hadvance hanswer.map
  | not hnot hoperand =>
    have hkind : s.current.kind = .not := hspan.current_eq hsettled ▸ hnot
    obtain rfl := Nat.succ.inj hlevel
    obtain ⟨m, hadvance, hdepth, hspan⟩ := hspan.advance hsettled
    have hanswer := hf trivial (hdepth ▸ hd) (hdepth ▸ hlevels) (hnext ▸ hoperand) hspan
    rw [hdepth] at hanswer
    rw [if_neg (by simp [hkind]), if_neg (by simp [hkind]), if_neg (by simp [hkind]),
      if_neg (by simp [hkind]), if_pos hkind]
    exact .bind_ok hadvance hanswer
  | parens hopening hbody hclosing =>
    have hkind : s.current.kind = .lParen := hspan.current_eq hsettled ▸ hopening
    obtain rfl := Nat.succ.inj hlevel
    obtain ⟨m, hadvance, hdepth, hspan⟩ := hspan.advance hsettled
    obtain ⟨s₂, sp₂, hspan₂⟩ := hspan.split
    have hhere : s₂.current.kind = .rParen := hspan₂.current_eq sp₂.settled ▸ hclosing
    have hanswer := (hs trivial (hdepth ▸ hd) (hdepth ▸ hlevels) (hhere ▸ hbody) sp₂).settled
    rw [hdepth] at hanswer
    rw [if_neg (by simp [hkind]), if_neg (by simp [hkind]), if_neg (by simp [hkind]), if_pos hkind]
    refine .cast (.bind_ok hadvance (.bind (k := s.depth) hanswer ?_)) (by omega)
    exact (Answers.eat hspan₂ sp₂.settled hclosing hd).map
  | @reference _ _ _ head members haccess =>
    obtain ⟨t, us, rfl, hname⟩ := haccess.access_starts
    have hkind : s.current.kind = .identifier := hspan.current_eq hsettled ▸ hname
    obtain rfl := Nat.succ.inj hlevel
    rw [if_neg (by simp [hkind]), if_neg (by simp [hkind]), if_pos hkind]
    rw [← hnext] at haccess
    exact (ha (a := (head, members)) hsettled hd hlevels haccess hspan).map

end

/-! ## Links and their arguments -/

section
variable {statement : Parser Node} {access : Parser (Link × List Link)} {levels n : Nat} {s s' : State}
  {tokens : List Token}

/-- Arguments are read up to the parenthesis behind them, when the bound allows for their number. -/
theorem leads_argsUpTo (hs : Complete (fun _ => True) levels 0 statement .statement) {bound : Nat}
    {nodes : List Node} (hsettled : s.Settled) (hd : s.depth ≤ maxDepth)
    (hlevels : maxDepth ≤ s.depth + levels) (hreads : Reads .rParen n tokens (.args nodes))
    (hspan : Spans s tokens s') (hclosing : s'.current.kind = .rParen)
    (hbound : nodes.length ≤ bound) :
    Leads (s.depth + n) (argsUpTo statement bound s) (.ok nodes s') := by
  -- on the bound, of which each argument and its comma take one
  induction bound generalizing s n tokens nodes with
  | zero =>
    obtain rfl := List.eq_nil_of_length_eq_zero (Nat.le_zero.mp hbound)
    cases hreads with
    | noArgs =>
      obtain rfl := hspan.eq_of_nil hsettled
      exact .of_eq (argsUpTo_of_closing hclosing) hd
  | succ bound ih =>
    cases hreads with
    | noArgs =>
      obtain rfl := hspan.eq_of_nil hsettled
      exact .of_eq (argsUpTo_of_closing hclosing) hd
    | lastArg harg =>
      obtain ⟨t, us, rfl, ht⟩ := harg.starts nofun
      have hopen : s.current.kind ≠ .rParen := hspan.current_eq hsettled ▸ ht
      have hanswer := (hs trivial hd hlevels (hclosing ▸ harg) hspan).settled
      rw [argsUpTo_succ]
      refine .bind_ok (at?_run .rParen s) ?_
      rw [beq_eq_false_iff_ne.mpr hopen]
      refine .cast (n := max (s.depth + n) s.depth) (.bind hanswer ?_) (by omega)
      refine .bind_ok (at?_run .comma s') ?_
      rw [hclosing]
      refine .bind_ok (at?_run .rParen s') ?_
      rw [hclosing]
      exact .of_eq (bind_of_ok (argsUpTo_of_closing hclosing)) hd
    | @comma l n _ _ _ _ _ harg hcomma hargs =>
      obtain ⟨t, us, rfl, ht⟩ := harg.starts nofun
      have hopen : s.current.kind ≠ .rParen := hspan.current_eq hsettled ▸ ht
      obtain ⟨s₁, sp₁, hspan₁⟩ := hspan.split
      have hhere : s₁.current.kind = .comma := hspan₁.current_eq sp₁.settled ▸ hcomma
      obtain ⟨s₂, sp₂, hspan₂⟩ := hspan₁.cons
      have hdepth : s₂.depth = s.depth := (sp₁.trans sp₂).depth
      have hanswer := (hs trivial hd hlevels (hhere ▸ harg) sp₁).settled
      have hrest := ih sp₂.settled (hdepth ▸ hd) (hdepth ▸ hlevels) hargs hspan₂
        (Nat.le_of_succ_le_succ hbound)
      rw [hdepth] at hrest
      rw [argsUpTo_succ]
      refine .bind_ok (at?_run .rParen s) ?_
      rw [beq_eq_false_iff_ne.mpr hopen]
      refine .cast (n := max (s.depth + l) (s.depth + n)) (.bind hanswer ?_) (by omega)
      refine .bind_ok (at?_run .comma s₁) ?_
      rw [hhere]
      exact .bind_ok (settled_advance sp₁.settled sp₂) hrest.map

/-- The arguments of a call with their parentheses. -/
theorem answers_args (hs : Complete (fun _ => True) levels 0 statement .statement)
    {nodes : List Node} {opening closing : Token} (hsettled : s.Settled) (hd : s.depth ≤ maxDepth)
    (hlevels : maxDepth ≤ s.depth + levels) (hopening : opening.kind = .lParen)
    (hreads : Reads .rParen n tokens (.args nodes)) (hclosing : closing.kind = .rParen)
    (hspan : Spans s (opening :: (tokens ++ [closing])) s') :
    Answers (s.depth + n) (args statement) s nodes s' := by
  obtain ⟨s₁, sp₁, hspan₁⟩ := hspan.cons
  obtain ⟨s₂, sp₂, hspan₂⟩ := hspan₁.split
  have hhere : s₂.current.kind = .rParen := hspan₂.current_eq sp₂.settled ▸ hclosing
  have hbound : nodes.length ≤ s₁.supply.ahead.length + 1 :=
    calc nodes.length ≤ tokens.length := hreads.length_args_le
      _ ≤ s₁.supply.ahead.length := sp₂.passes.length_le (by rw [hhere]; decide)
      _ ≤ s₁.supply.ahead.length + 1 := Nat.le_succ _
  have hargs := leads_argsUpTo hs sp₁.settled (sp₁.depth ▸ hd) (sp₁.depth ▸ hlevels) hreads sp₂ hhere
    hbound
  rw [sp₁.depth] at hargs
  rw [args_eq]
  refine .bind_ok (settled_eat hsettled hopening sp₁) (.bind_ok (get_run s₁) ?_)
  refine .cast (n := max (s.depth + n) s.depth) (.bind hargs ?_) (by omega)
  exact (Answers.eat hspan₂ sp₂.settled hclosing hd).map

/-- A link is read, and then what follows it. -/
theorem answers_link (hs : Complete (fun _ => True) levels 0 statement .statement) {m : Nat}
    {link : Link} {s₁ : State} {found : Link × List Link} (hsettled : s.Settled)
    (hd : s.depth ≤ maxDepth) (hlevels : maxDepth ≤ s.depth + levels)
    (hreads : Reads s₁.current.kind n tokens (.link link)) (hspan : Spans s tokens s₁)
    (hm : s.depth ≤ m) (hrest : Answers m (members access link) s₁ found s') :
    Answers (max (s.depth + n) m) (accessBody statement access) s found s' := by
  generalize hnext : s₁.current.kind = next at hreads
  rw [accessBody_eq]
  cases hreads with
  | name hname hopening =>
    refine .bind_ok (settled_eat hsettled hname hspan) (.bind_ok (at?_run .lParen s₁) ?_)
    rw [beq_eq_false_iff_ne.mpr (hnext ▸ hopening)]
    exact .cast hrest (by omega)
  | call hname hopening hargs hclosing =>
    obtain ⟨s₂, sp₂, hspan₂⟩ := hspan.cons
    have hhere : s₂.current.kind = .lParen := hspan₂.current_eq sp₂.settled ▸ hopening
    have hanswer := (answers_args hs sp₂.settled (sp₂.depth ▸ hd) (sp₂.depth ▸ hlevels) hopening hargs
      hclosing hspan₂).settled
    rw [sp₂.depth] at hanswer
    refine .bind_ok (settled_eat hsettled hname sp₂) (.bind_ok (at?_run .lParen s₂) ?_)
    rw [hhere]
    exact .bind hanswer hrest

/-- A reader of links is complete when the readers of their parts are. -/
theorem complete_accessBody (hs : Complete (fun _ => True) levels 0 statement .statement)
    (ha : Complete State.Settled levels 0 access fun (head, members) => .access head members) :
    Complete State.Settled levels 1 (accessBody statement access)
      fun (head, members) => .access head members := by
  rintro n tokens ⟨head, rest⟩ s s' hsettled hd hlevels hreads hspan
  generalize hnext : s'.current.kind = next at hreads
  generalize hlevel : n + 1 = level at hreads
  cases hreads with
  | lastLink hlink hdot =>
    obtain rfl := Nat.succ.inj hlevel
    refine .cast (answers_link (m := s.depth) hs hsettled hd hlevels (hnext ▸ hlink) hspan
      (Nat.le_refl _) ?_) (by omega)
    refine .bind_ok (at?_run .dot s') ?_
    rw [beq_eq_false_iff_ne.mpr (hnext ▸ hdot)]
    exact .of_ok rfl hspan.settled hd
  | @dot _ l n _ _ _ _ member more hlink hdot hrest =>
    obtain rfl := Nat.succ.inj hlevel
    obtain ⟨s₁, sp₁, hspan₁⟩ := hspan.split
    have hhere : s₁.current.kind = .dot := hspan₁.current_eq sp₁.settled ▸ hdot
    obtain ⟨s₂, sp₂, hspan₂⟩ := hspan₁.cons
    have hdepth : s₂.depth = s.depth := (sp₁.trans sp₂).depth
    rw [← hnext] at hrest
    have hanswer := ha (a := (member, more)) sp₂.settled (hdepth ▸ hd) (hdepth ▸ hlevels) hrest hspan₂
    rw [hdepth] at hanswer
    refine .cast (answers_link (m := s.depth + n) hs hsettled hd hlevels (hhere ▸ hlink) sp₁
      (Nat.le_add_right _ _) ?_) (by omega)
    refine .bind_ok (at?_run .dot s₁) ?_
    rw [hhere]
    exact .bind_ok (settled_advance sp₁.settled sp₂) hanswer.map

end

/-! ## All readers -/

/-- **What is derived is read**, whatever number of levels is left. -/
theorem complete_readers (levels : Nat) :
    Complete (fun _ => True) levels 0 (statement levels) .statement ∧
      Complete (fun _ => True) levels 0 (factor levels) .factor ∧
      Complete State.Settled levels 0 (access levels) fun (head, members) => .access head members := by
  induction levels with
  | zero =>
    rw [statement, factor, access]
    exact ⟨complete_fail fun _ _ _ _ h => h.least_le, complete_fail fun _ _ _ _ h => h.least_le,
      complete_fail fun _ _ _ _ h => h.least_le⟩
  | succ levels ih =>
    obtain ⟨hs, hf, ha⟩ := ih
    have hstatement := complete_statementBody (complete_expression hf) hs
    have hfactor := complete_factorBody hs hf ha
    have haccess := complete_accessBody hs ha
    rw [statement, factor, access]
    exact ⟨complete_nested (fun _ _ _ => trivial) (fun _ _ _ _ h => h.least_le) hstatement,
      complete_nested (fun _ _ _ => trivial) (fun _ _ _ _ h => h.least_le) hfactor,
      complete_nested (fun _ _ h => h) (fun _ _ _ _ h => h.least_le) haccess⟩

end Stencil.Parser
