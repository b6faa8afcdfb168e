import Stencil.Proofs.Reading.Lazy

/-!
# Blanks in a program

A program is read the same with and without blanks between its tokens, also where it is not read: the
error then looks for the same thing (`Node.readAlike_ofTokens`). Two runs are compared step by step,
from states in front of the same tokens but for blanks (`State.Like`). Wherever a reader looks at a token it
has skipped the blanks in front of it, so that both runs look at the same token (`State.Meets`) and take
the same way (`Agree`).
-/

namespace Stencil

namespace Parser

/-! ## States that are alike -/

namespace State

/-- **The same tokens lie ahead but for blanks**, up to an end that is there, on the same level. -/
structure Like (s t : State) : Prop where
  solid : Token.solid s.front = Token.solid t.front
  depth : s.depth = t.depth
  ends : s.Ends
  ends' : t.Ends

/-- And neither state looks at a blank. -/
structure Meets (s t : State) : Prop extends Like s t where
  settled : s.Settled
  settled' : t.Settled

variable {s t m : State}

/-- What lies ahead of a state that looks at no blank, but for blanks. -/
theorem solid_front (hs : s.Settled) (hend : s.current.kind ≠ .eof) :
    Token.solid s.front = s.current :: Token.solid (Token.front s.supply.ahead) := by
  rw [front, Token.front_cons hend, Token.solid_cons hs]

/-- In front of the end there is no token. -/
theorem solid_front_of_eof (hend : s.current.kind = .eof) : Token.solid s.front = [] := by
  rw [front, Token.front_of_eof hend]
  rfl

/-- **States that meet look at the same token**, or both at an end. -/
theorem Meets.current (h : Meets s t) :
    s.current.kind = .eof ∧ t.current.kind = .eof ∨ s.current = t.current := by
  have hsolid := h.solid
  by_cases hs : s.current.kind = .eof <;> by_cases ht : t.current.kind = .eof
  · exact .inl ⟨hs, ht⟩
  · rw [solid_front_of_eof hs, solid_front h.settled' ht] at hsolid
    cases hsolid
  · rw [solid_front_of_eof ht, solid_front h.settled hs] at hsolid
    cases hsolid
  · rw [solid_front h.settled hs, solid_front h.settled' ht] at hsolid
    exact .inr (List.cons.inj hsolid).1

/-- States that meet look at tokens of one kind. -/
theorem Meets.kind (h : Meets s t) : s.current.kind = t.current.kind := by
  obtain ⟨hs, ht⟩ | hsame := h.current
  · rw [hs, ht]
  · rw [hsame]

/-- And at the same token, unless it is the end. -/
theorem Meets.current_eq (h : Meets s t) (hend : s.current.kind ≠ .eof) : s.current = t.current :=
  h.current.resolve_left fun hends => hend hends.1

/-- No end is a word. -/
theorem Meets.isWord (h : Meets s t) (word : String) :
    s.current.IsWord word ↔ t.current.IsWord word := by
  obtain ⟨hs, ht⟩ | hsame := h.current
  · refine iff_of_false (fun hword => ?_) (fun hword => ?_)
    · rw [hword.1] at hs
      cases hs
    · rw [hword.1] at ht
      cases ht
  · rw [hsame]

/-- States that are alike stay so where both are put on another level. -/
theorem Like.atDepth (h : Like s t) (depth : Nat) : Like (s.atDepth depth) (t.atDepth depth) :=
  ⟨h.solid, rfl, h.ends, h.ends'⟩

/-- And so do states that meet. -/
theorem Meets.atDepth (h : Meets s t) (depth : Nat) : Meets (s.atDepth depth) (t.atDepth depth) :=
  ⟨h.toLike.atDepth depth, h.settled, h.settled'⟩

/-- It is kept one level up. -/
theorem Like.shallower (h : Like s t) : Like s.shallower t.shallower :=
  ⟨h.solid, congrArg (· - 1) h.depth, h.ends, h.ends'⟩

end State

open State

/-! ## Runs that agree -/

/-- **Both runs answer the same**, and lead to states that stand to each other in this way, or both fail
and look for the same. -/
def Agree {α : Type} (R : State → State → Prop) :
    EStateM.Result ParseError State α → EStateM.Result ParseError State α → Prop
  | .ok a s, .ok a' t => a = a' ∧ R s t
  | .error e _, .error e' _ => ∃ found found' expected,
    e = .grammatical ⟨found, expected⟩ ∧ e' = .grammatical ⟨found', expected⟩
  | _, _ => False

namespace Agree

variable {α β : Type} {R S : State → State → Prop} {s t : State} {p q : Parser α}
  {f g : α → Parser β}

/-- Runs that answer the same value agree. -/
theorem pure (a : α) (h : R s t) : Agree R ((pure a : Parser α) s) ((pure a : Parser α) t) :=
  ⟨rfl, h⟩

/-- So do two refusals that look for the same. -/
theorem fail (expected : Expected) :
    Agree R ((fail expected : Parser α) s) ((Parser.fail expected : Parser α) t) :=
  ⟨s.current, t.current, expected, rfl, rfl⟩

/-- Runs that agree can be gone on with. -/
theorem bind (h : Agree R (p s) (q t)) (hnext : ∀ a s t, R s t → Agree S (f a s) (g a t)) :
    Agree S ((p >>= f) s) ((q >>= g) t) := by
  cases hp : p s with
  | ok a m =>
    cases hq : q t with
    | ok a' m' =>
      rw [hp, hq] at h
      obtain ⟨rfl, hR⟩ := h
      rw [bind_of_ok hp, bind_of_ok hq]
      exact hnext a m m' hR
    | error e m' =>
      rw [hp, hq] at h
      exact h.elim
  | error e m =>
    cases hq : q t with
    | ok a' m' =>
      rw [hp, hq] at h
      exact h.elim
    | error e' m' =>
      rw [hp, hq] at h
      rw [bind_of_error hp, bind_of_error hq]
      exact h

/-! ### Looking at a token -/

section
variable {p' q' : Parser α}

/-- And two choices that are made the same way. -/
theorem ite {c d : Prop} [Decidable c] [Decidable d] (hcd : c ↔ d)
    (hyes : c → d → Agree R (p s) (q t)) (hno : ¬ c → ¬ d → Agree R (p' s) (q' t)) :
    Agree R ((if c then p else p') s) ((if d then q else q') t) := by
  by_cases hc : c
  · rw [if_pos hc, if_pos (hcd.mp hc)]
    exact hyes hc (hcd.mp hc)
  · rw [if_neg hc, if_neg (mt hcd.mpr hc)]
    exact hno hc (mt hcd.mpr hc)

/-- Both look at a token of the kind, or neither does. -/
theorem at? {kind : Kind} (h : Meets s t) (hyes : s.current.kind = kind → Agree R (p s) (q t))
    (hno : Agree R (p' s) (q' t)) :
    Agree R ((do if ← at? kind then p else p') s) ((do if ← Parser.at? kind then q else q') t) := by
  rw [bind_of_ok (at?_run kind s), bind_of_ok (at?_run kind t), h.kind]
  refine ite Iff.rfl (fun hkind _ => hyes ?_) fun _ _ => hno
  rw [h.kind]
  exact beq_iff_eq.mp hkind

/-- States that meet choose alike by the kind of the token. -/
theorem atAny? {kinds : List Kind} (h : Meets s t)
    (hyes : s.current.kind ∈ kinds → Agree R (p s) (q t)) (hno : Agree R (p' s) (q' t)) :
    Agree R ((do if ← atAny? kinds then p else p') s)
      ((do if ← Parser.atAny? kinds then q else q') t) := by
  rw [bind_of_ok (atAny?_run kinds s), bind_of_ok (atAny?_run kinds t), h.kind]
  refine ite Iff.rfl (fun hkind _ => hyes ?_) fun _ _ => hno
  rw [h.kind]
  exact List.contains_iff_mem.mp hkind

/-- And by its word. -/
theorem atWord? {word : String} (h : Meets s t)
    (hyes : s.current.IsWord word → Agree R (p s) (q t)) (hno : Agree R (p' s) (q' t)) :
    Agree R ((do if ← atWord? word then p else p') s)
      ((do if ← Parser.atWord? word then q else q') t) := by
  rw [bind_of_ok (atWord?_run word s), bind_of_ok (atWord?_run word t)]
  have hsame := h.isWord word
  refine ite ?_ (fun hword _ => hyes (of_decide_eq_true hword)) fun _ _ => hno
  rw [decide_eq_true_iff, decide_eq_true_iff, hsame]

end

/-! ### Taking tokens -/

/-- Both take the token that they look at. -/
theorem advance (h : Meets s t) (hend : s.current.kind ≠ .eof) :
    Agree Like (advance s) (Parser.advance t) := by
  have hsame := h.current_eq hend
  have hend' : t.current.kind ≠ .eof := hsame ▸ hend
  have hahead := h.ends.resolve_left hend
  have hahead' := h.ends'.resolve_left hend'
  obtain ⟨m, hstep, hdepth⟩ := exists_steps hahead
  obtain ⟨m', hstep', hdepth'⟩ := exists_steps hahead'
  rw [advance_eq_ok.mpr ⟨rfl, hstep, hdepth⟩, advance_eq_ok.mpr ⟨rfl, hstep', hdepth'⟩]
  refine ⟨hsame, ?_, ?_, hstep.ends_iff.mp hahead, hstep'.ends_iff.mp hahead'⟩
  · have hsolid := h.solid
    rw [hstep.front_eq hend, hstep'.front_eq hend', Token.solid_cons h.settled,
      Token.solid_cons h.settled'] at hsolid
    exact (List.cons.inj hsolid).2
  · rw [hdepth, hdepth', h.depth]

/-- They agree on the token that is taken. -/
theorem eat {kind : Kind} (expected : Expected) (hkind : kind ≠ .eof) (h : Meets s t) :
    Agree Like (eat kind expected s) (Parser.eat kind expected t) :=
  at? h (fun hcurrent => advance h (hcurrent ▸ hkind)) (fail expected)

end Agree

/-- Where there is an end, the blanks in front can be skipped. -/
theorem exists_skipBlanks {s : State} (h : s.Ends) : ∃ m, skipBlanks s = .ok () m ∧ m.Settled ∧
    Token.solid m.front = Token.solid s.front ∧ m.depth = s.depth ∧ m.Ends := by
  generalize hfront : s.front = tokens
  induction tokens generalizing s with
  | nil =>
    have hsettled : s.Settled := by
      rw [Settled, State.kind_of_front hfront]
      decide
    exact ⟨s, skipBlanks_of_settled hsettled, hsettled, congrArg Token.solid hfront, rfl, h⟩
  | cons t tokens ih =>
    obtain ⟨rfl, -, m, hstep, hdepth, hrest, hends⟩ := exists_steps_of_front h hfront
    by_cases hblank : s.current.kind = .whitespace
    · obtain ⟨m', hskip, hsettled, hsolid, hdepth', hends'⟩ := ih hends hrest
      refine ⟨m', ?_, hsettled, ?_, hdepth'.trans hdepth, hends'⟩
      · rw [skipBlanks_of_steps hblank hstep hdepth, hskip]
      · rw [hsolid, Token.solid_of_blank hblank]
    · exact ⟨s, skipBlanks_of_settled hblank, hblank, congrArg Token.solid hfront, rfl, h⟩

namespace Agree

variable {α : Type} {R S : State → State → Prop} {s t : State} {p q : Parser α}

/-- Skipping blanks leads to the same token. -/
theorem skipBlanks (h : Like s t) : Agree Meets (skipBlanks s) (Parser.skipBlanks t) := by
  obtain ⟨m, hskip, hsettled, hsolid, hdepth, hends⟩ := exists_skipBlanks h.ends
  obtain ⟨m', hskip', hsettled', hsolid', hdepth', hends'⟩ := exists_skipBlanks h.ends'
  rw [hskip, hskip']
  refine ⟨rfl, ⟨?_, ?_, hends, hends'⟩, hsettled, hsettled'⟩
  · rw [hsolid, hsolid', h.solid]
  · rw [hdepth, hdepth', h.depth]

/-- Where runs agree but for blanks, they meet behind the blanks. -/
theorem settled (h : Agree Like (p s) (q t)) : Agree Meets (settled p s) (Parser.settled q t) :=
  h.bind fun a _ _ hlike => (skipBlanks hlike).bind fun _ _ _ hmeets => pure a hmeets

/-- A level is entered by both or by neither. -/
theorem nested (hdepth : s.depth = t.depth)
    (h : Agree Like (p (s.atDepth (s.depth + 1))) (q (t.atDepth (t.depth + 1)))) :
    Agree Like (nested p s) (Parser.nested q t) := by
  by_cases hlt : s.depth < maxDepth
  · have hlt' : t.depth < maxDepth := hdepth ▸ hlt
    cases hp : p (s.atDepth (s.depth + 1)) with
    | ok a m =>
      cases hq : q (t.atDepth (t.depth + 1)) with
      | ok a' m' =>
        rw [hp, hq] at h
        rw [nested_eq_ok.mpr ⟨hlt, m, hp, rfl⟩, nested_eq_ok.mpr ⟨hlt', m', hq, rfl⟩]
        exact ⟨h.1, h.2.shallower⟩
      | error e m' =>
        rw [hp, hq] at h
        exact h.elim
    | error e m =>
      cases hq : q (t.atDepth (t.depth + 1)) with
      | ok a' m' =>
        rw [hp, hq] at h
        exact h.elim
      | error e' m' =>
        rw [hp, hq] at h
        rw [nested_of_error hlt hp, nested_of_error hlt' hq]
        exact h
  · rw [nested_of_le (Nat.not_lt.mp hlt), nested_of_le (hdepth ▸ Nat.not_lt.mp hlt)]
    exact ⟨s.current, t.current, .fewerLevels, rfl, rfl⟩

end Agree

/-! ## Readers -/

/-- **Blanks make no difference to the reader**: from states that stand to each other in this way its runs
agree. -/
def Blind {α : Type} (R : State → State → Prop) (p : Parser α) : Prop :=
  ∀ ⦃s t⦄, R s t → Agree Like (p s) (p t)

private theorem blind_nested {α : Type} {p : Parser α} (hp : Blind Like p) : Blind Like (nested p) :=
  fun _ _ h => .nested h.depth (h.depth ▸ hp (h.atDepth _))

/-! ### Statements -/

section
variable {statement factor : Parser Node}

/-- The side condition holds of every kind that the grammar asks for. -/
private theorem agree_eat {s t : State} {kind : Kind} (expected : Expected) (h : Meets s t)
    (hkind : kind ≠ .eof := by decide) :
    Agree Meets (settled (eat kind expected) s) (settled (eat kind expected) t) :=
  (Agree.eat expected hkind h).settled

private theorem blind_eachLoop (hs : Blind Like statement) : Blind Meets (eachLoop statement) := by
  intro s t h
  rw [eachLoop_eq]
  refine (agree_eat _ h).bind fun token s t h => ?_
  refine (agree_eat _ h).bind fun item s t h => ?_
  refine .atWord? h (fun hword => ?_) (.fail _)
  refine (Agree.advance h ?_).settled.bind fun _ s t h => ?_
  · rw [hword.1]
    decide
  refine (agree_eat _ h).bind fun source s t h => ?_
  refine (agree_eat _ h).bind fun _ s t h => ?_
  exact (hs h.toLike).bind fun body s t h => .pure _ h

private theorem blind_sides (hs : Blind Like statement) (condition : Node) :
    Blind Meets (sides statement condition) := by
  intro s t h
  rw [sides_eq]
  refine (agree_eat _ h).bind fun _ s t h => ?_
  refine (hs h.toLike).settled.bind fun thenBody s t h => ?_
  refine .at? h (fun hcolon => ?_) (.pure _ h.toLike)
  refine (Agree.advance h (hcolon ▸ by decide)).settled.bind fun _ s t h => ?_
  exact (hs h.toLike).bind fun elseBody s t h => .pure _ h

private theorem blind_statementBody (he : Blind Like (expression factor)) (hs : Blind Like statement) :
    Blind Like (statementBody factor statement) := by
  intro s t h
  rw [statementBody_eq]
  refine (Agree.skipBlanks h).bind fun _ s t h => ?_
  refine .atWord? h (fun _ => blind_eachLoop hs h) ?_
  refine (he h.toLike).settled.bind fun node s t h => ?_
  exact .at? h (fun _ => blind_sides hs node h) (.pure node h.toLike)

end

/-! ### Operators in a row -/

section
variable {tier : Tier} {operand : Parser Node}

private theorem agree_foldOperators (ho : Blind Like operand) (levels : Nat) {left : Node} {s t : State}
    (h : Meets s t) : Agree Meets (foldOperators tier.operators operand levels left s)
      (foldOperators tier.operators operand levels left t) := by
  induction levels generalizing left s t with
  | zero => exact .atAny? h (fun _ => .fail _) (.pure left h)
  | succ levels ih =>
    rw [foldOperators_succ]
    refine .atAny? h (fun hop => ?_) (.pure left h)
    have hdeepen : Agree (fun m m' => Meets m m' ∧ m.current.kind ∈ tier.operators)
        (deepen s) (deepen t) := by
      by_cases hlt : s.depth < maxDepth
      · rw [deepen_of_lt hlt, deepen_of_lt (h.depth ▸ hlt), ← h.depth]
        exact ⟨rfl, h.atDepth _, hop⟩
      · rw [deepen_of_le (Nat.not_lt.mp hlt), deepen_of_le (h.depth ▸ Nat.not_lt.mp hlt)]
        exact ⟨s.current, t.current, .fewerLevels, rfl, rfl⟩
    refine hdeepen.bind fun _ s t h => ?_
    refine (Agree.advance h.1 (Tier.ne_eof_of_mem h.2)).settled.bind fun op s t h => ?_
    exact (ho h.toLike).settled.bind fun right s t h => ih h

private theorem blind_tier (ho : Blind Like operand) :
    Blind Like (Parser.tier tier.operators operand) := by
  intro s t h
  rw [tier_eq, bind_of_ok (get_run s), bind_of_ok (get_run t), h.depth]
  refine (ho h).settled.bind fun first s' t' h' => ?_
  refine (agree_foldOperators ho _ h').bind fun node s' t' h' => ?_
  have hmodify : Agree Like ((modify fun state => state.atDepth t.depth : Parser PUnit) s')
      ((modify fun state => state.atDepth t.depth : Parser PUnit) t') :=
    ⟨rfl, h'.toLike.atDepth _⟩
  exact hmodify.bind fun _ s t h => .pure node h

private theorem blind_expression {factor : Parser Node} (hf : Blind Like factor) :
    Blind Like (expression factor) :=
  @blind_tier .relational _ (@blind_tier .additive _ (@blind_tier .multiplicative _ hf))

end

/-! ### Factors -/

section
variable {statement factor : Parser Node} {access : Parser (Link × List Link)}

private theorem blind_factorBody (hs : Blind Like statement) (hf : Blind Like factor)
    (ha : Blind Meets access) : Blind Like (factorBody statement factor access) := by
  intro s t h
  rw [factorBody_eq]
  refine (Agree.skipBlanks h).bind fun _ s t h => ?_
  rw [bind_of_ok (get_run s), bind_of_ok (get_run t)]
  have hadvance (hend : s.current.kind ≠ .eof) := Agree.advance h hend
  refine .ite (by rw [h.kind]) (fun hsign _ => ?_) fun _ _ => ?_
  · refine (hadvance ?_).bind fun op s t h => (hf h).bind fun operand s t h => .pure _ h
    obtain hsign | hsign := hsign <;> rw [hsign] <;> decide
  refine .ite (by rw [h.kind]) (fun hnull _ => ?_) fun _ _ => ?_
  · exact (hadvance (hnull ▸ by decide)).bind fun token s t h => .pure _ h
  refine .ite (by rw [h.kind]) (fun _ _ => ?_) fun _ _ => ?_
  · exact (ha h).bind fun (head, members) s t h => .pure _ h
  refine .ite (by rw [h.kind]) (fun hopening _ => ?_) fun _ _ => ?_
  · refine (hadvance (hopening ▸ by decide)).bind fun _ s t h => ?_
    refine (hs h).settled.bind fun node s t h => ?_
    exact (Agree.eat _ (by decide) h).bind fun _ s t h => .pure node h
  refine .ite (by rw [h.kind]) (fun hnot _ => ?_) fun _ _ => ?_
  · exact (hadvance (hnot ▸ by decide)).bind fun _ s t h => hf h
  obtain ⟨hend, hend'⟩ | hsame := h.current
  · simp only [Token.literal?, wanted, hend, hend']
    exact .fail _
  · rw [← hsame]
    cases hvalue : s.current.literal? with
    | none => exact .fail _
    | some value =>
      refine (hadvance fun hend => ?_).bind fun token s t h => .pure _ h
      have hkind := Token.kind_of_literal? hvalue
      rw [hend] at hkind
      exact absurd hkind (by decide)

end

/-! ### Links and their arguments -/

section
variable {statement : Parser Node} {access : Parser (Link × List Link)}

private theorem agree_argsUpTo (hs : Blind Like statement) (bound : Nat) {s t : State} (h : Meets s t) :
    Agree Meets (argsUpTo statement bound s) (argsUpTo statement bound t) := by
  induction bound generalizing s t with
  | zero => exact .at? h (fun _ => .pure [] h) (.fail _)
  | succ bound ih =>
    rw [argsUpTo_succ]
    refine .at? h (fun _ => .pure [] h) ?_
    refine (hs h.toLike).settled.bind fun arg s t h => ?_
    refine .at? h (fun hcomma => ?_) (.at? h (fun _ => ?_) (.fail _))
    · refine (Agree.advance h (hcomma ▸ by decide)).settled.bind fun _ s t h => ?_
      exact (ih h).bind fun args s t h => .pure _ h
    · exact (ih h).bind fun args s t h => .pure _ h

/-- With blanks there are more tokens, and more arguments would be looked for. -/
theorem blind_args (hlazy : ∀ t, Lazy 1 t statement) (hs : Blind Like statement) :
    Blind Meets (args statement) := by
  intro s t h
  rw [args_eq]
  refine (agree_eat _ h).bind fun _ s t h => ?_
  rw [bind_of_ok (get_run s), bind_of_ok (get_run t)]
  have hbound (s : State) {bound : Nat} (hle : s.supply.ahead.length + 1 ≤ bound) :
      argsUpTo statement (s.supply.ahead.length + 1) s = argsUpTo statement bound s :=
    argsUpTo_eq_of_le hlazy (Nat.succ_pos _) s.length_front_le hle
  have hargs : Agree Meets (argsUpTo statement (s.supply.ahead.length + 1) s)
      (argsUpTo statement (t.supply.ahead.length + 1) t) := by
    rw [hbound s (Nat.le_max_left _ (t.supply.ahead.length + 1)), hbound t (Nat.le_max_right _ _)]
    exact agree_argsUpTo hs _ h
  refine hargs.bind fun args s t h => ?_
  exact (Agree.eat _ (by decide) h).bind fun _ s t h => .pure args h

private theorem blind_members (ha : Blind Meets access) (head : Link) :
    Blind Meets (members access head) := by
  intro s t h
  refine .at? h (fun hdot => ?_) (.pure _ h.toLike)
  refine (Agree.advance h (hdot ▸ by decide)).settled.bind fun _ s t h => ?_
  exact (ha h).bind fun (member, members) s t h => .pure _ h

private theorem blind_accessBody (hlazy : ∀ t, Lazy 1 t statement) (hs : Blind Like statement)
    (ha : Blind Meets access) : Blind Meets (accessBody statement access) := by
  intro s t h
  rw [accessBody_eq]
  refine (agree_eat _ h).bind fun token s t h => ?_
  refine .at? h (fun _ => ?_) (blind_members ha _ h)
  exact (blind_args hlazy hs h).settled.bind fun args s t h => blind_members ha _ h

end

/-! ### All readers -/

/-- **No reader sees blanks**, whatever number of levels is left. A link is read where blanks have been
skipped. -/
theorem blind_readers (levels : Nat) : Blind Like (statement levels) ∧
    Blind Like (factor levels) ∧ Blind Meets (access levels) := by
  induction levels with
  | zero =>
    rw [statement, factor, access]
    exact ⟨fun _ _ _ => .fail _, fun _ _ _ => .fail _, fun _ _ _ => .fail _⟩
  | succ levels ih =>
    obtain ⟨hs, hf, ha⟩ := ih
    rw [statement, factor, access]
    refine ⟨blind_nested (blind_statementBody (blind_expression hf) hs),
      blind_nested (blind_factorBody hs hf ha), fun s t h => .nested h.depth ?_⟩
    have hbody := blind_accessBody (lazy_readers levels).1 hs ha (h.atDepth (s.depth + 1))
    exact h.depth ▸ hbody

private theorem blind_programBody : Blind Like programBody := by
  intro s t h
  rw [programBody_eq]
  refine ((blind_readers maxDepth).1 h).settled.bind fun node s t h => ?_
  exact .at? h (fun _ => .pure node h.toLike) (.fail _)

end Parser

/-! ## Whole texts -/

/-- The end is where it is without blanks. -/
theorem Token.front_solid (tokens : List Token) : front (solid tokens) = solid (front tokens) := by
  refine front_filter (fun t hend => ?_) tokens
  rw [hend]
  rfl

namespace Node

open Stencil.Parser

/-- **Two programs are read alike**: either both have the same tree, or both are refused and the same is
looked for. -/
def ReadAlike (supply supply' : Token.Supply) : Prop :=
  (∃ node, ofSupply .program supply = .ok node ∧ ofSupply .program supply' = .ok node) ∨
    ∃ found found' expected, ofSupply .program supply = .error (.grammatical ⟨found, expected⟩) ∧
      ofSupply .program supply' = .error (.grammatical ⟨found', expected⟩)

/-- Programs with the same significant tokens are read alike, if they come to an end. -/
theorem readAlike_of_significant {supply supply' : Token.Supply} (hends : supply.Ends)
    (hends' : supply'.Ends) (h : supply.significant = supply'.significant) :
    ReadAlike supply supply' := by
  obtain ⟨s, hstep, hdepth⟩ := exists_steps (s := State.before supply) hends
  obtain ⟨t, hstep', hdepth'⟩ := exists_steps (s := State.before supply') hends'
  have hlike : State.Like s t := by
    refine ⟨?_, hdepth.trans hdepth'.symm, hstep.ends_iff.mp hends, hstep'.ends_iff.mp hends'⟩
    rw [hstep.front, hstep'.front]
    exact h
  have hagree := blind_programBody hlike
  cases hs : programBody s with
  | ok node m =>
    cases ht : programBody t with
    | ok node' m' =>
      rw [hs, ht] at hagree
      obtain ⟨rfl, -⟩ := hagree
      exact .inl ⟨node, run_eq_ok.mpr ⟨s, m, hstep, hdepth, hs⟩,
        run_eq_ok.mpr ⟨t, m', hstep', hdepth', ht⟩⟩
    | error e m' =>
      rw [hs, ht] at hagree
      exact hagree.elim
  | error e m =>
    cases ht : programBody t with
    | ok node' m' =>
      rw [hs, ht] at hagree
      exact hagree.elim
    | error e' m' =>
      rw [hs, ht] at hagree
      obtain ⟨found, found', expected, rfl, rfl⟩ := hagree
      exact .inr ⟨found, found', expected, run_of_error hstep hdepth hs,
        run_of_error hstep' hdepth' ht⟩

/-- Token lists are read alike if they are the same but for blanks. -/
theorem readAlike_of_solid {ts us : List Token} (h : Token.solid ts = Token.solid us) :
    ReadAlike (.ofTokens ts) (.ofTokens us) := by
  refine readAlike_of_significant (Token.Supply.ends_ofTokens ts) (Token.Supply.ends_ofTokens us) ?_
  show Token.solid (Token.front ts) = Token.solid (Token.front us)
  rw [← Token.front_solid, h, Token.front_solid]

/-- **Blanks in a program do not matter.** It is read as it is without its blanks: either both have the same
tree, with the same tokens in it, or both are refused and the same is looked for. So blanks may be
put between any two tokens, and taken away. -/
theorem readAlike_ofTokens :
    (∀ tokens, ReadAlike (.ofTokens tokens) (.ofTokens (Token.solid tokens))) ∧
    ∀ before blanks after : List Token, (∀ t ∈ blanks, t.kind = .whitespace) →
      ReadAlike (.ofTokens (before ++ (blanks ++ after))) (.ofTokens (before ++ after)) := by
  refine ⟨fun tokens => readAlike_of_solid ?_, fun before blanks after hblanks =>
    readAlike_of_solid ?_⟩
  · refine (Token.solid_eq_self fun t ht => ?_).symm
    exact of_decide_eq_true (List.mem_filter.mp ht).2
  · have hnone : Token.solid blanks = [] := by
      refine List.filter_eq_nil_iff.mpr fun t ht hsolid => ?_
      exact of_decide_eq_true hsolid (hblanks t ht)
    rw [Token.solid_append, Token.solid_append, Token.solid_append, hnone, List.nil_append]

/-- A member is read with a blank in front of its dot as well. -/
theorem readAlike_ofTokens_member :
    let before : List Token := [⟨.identifier, "a", 0⟩]
    let blanks : List Token := [⟨.whitespace, " ", 1⟩]
    let after : List Token := [⟨.dot, ".", 2⟩, ⟨.identifier, "b", 3⟩]
    (∀ t ∈ blanks, t.kind = .whitespace) ∧
      ∃ node, ofSupply .program (.ofTokens (before ++ (blanks ++ after))) = .ok node ∧
        ofSupply .program (.ofTokens (before ++ after)) = .ok node := by
  intro before blanks after
  have hblanks : ∀ t ∈ blanks, t.kind = .whitespace := by decide
  have hread : (ofSupply .program (.ofTokens (before ++ after))).isOk = true := by decide +kernel
  refine ⟨hblanks, ?_⟩
  obtain hsame | ⟨_, _, _, -, hrefused⟩ := readAlike_ofTokens.2 before blanks after hblanks
  · exact hsame
  · rw [hrefused] at hread
    cases hread

end Node

end Stencil
