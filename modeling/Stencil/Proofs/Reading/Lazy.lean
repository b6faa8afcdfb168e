import Stencil.Proofs.Reading.Pulls
import Stencil.Proofs.Reading.Template

/-!
# Lazy reading

Every reader is lazy, since its steps are (`lazy_readers`): it takes only tokens that are not for the end,
and it takes them one at a time. What a whole text is read as is thus known as soon as the last token
that is pulled is known, and if that one is complained of, nothing behind it matters
(`Node.lazy_of_answers`).
-/

namespace Stencil

namespace Parser

/-! ## Statements -/

section
variable {statement factor : Parser Node} {t : Token}

private theorem lazy_eachLoop (hs : ∀ t, Lazy 1 t statement) : Lazy 1 t (eachLoop statement) := by
  rw [eachLoop_eq]
  have heat {t : Token} (kind : Kind) (hkind : kind ≠ .eof) (expected : Expected) :=
    (Lazy.eat (t := t) hkind expected).settled
  refine (heat .identifier (by decide) _).bind_left fun token _ => ?_
  refine (heat .identifier (by decide) _).bind_right fun item u => ?_
  refine .atWord? (.ite (fun hin => ?_) fun _ => .fail _)
  have hin : u.kind ≠ .eof := by
    rw [(of_decide_eq_true hin).1]
    decide
  refine (Lazy.advance hin).settled.bind_right fun _ _ => ?_
  refine (heat .identifier (by decide) _).bind_right fun source _ => ?_
  refine (heat .question (by decide) _).bind_right fun _ _ => ?_
  exact (hs _).bind_right fun body _ => .pure _

private theorem lazy_sides (hs : ∀ t, Lazy 1 t statement) (condition : Node) :
    Lazy 0 t (sides statement condition) := by
  rw [sides_eq]
  refine (Lazy.eat (by decide) _).settled.bind_right fun _ _ => ?_
  refine (hs _).settled.bind_right fun thenBody u => ?_
  refine .at? (.ite (fun hcolon => ?_) fun _ => .pure _)
  refine (Lazy.advance_of_kind (by decide) hcolon).settled.bind_right fun _ _ => ?_
  exact (hs _).bind_right fun elseBody _ => .pure _

private theorem lazy_statementBody (he : ∀ t, Lazy 1 t (expression factor))
    (hs : ∀ t, Lazy 1 t statement) :
    Lazy 1 t (statementBody factor statement) := by
  rw [statementBody_eq]
  refine Lazy.skipBlanks.bind_right fun _ _ => ?_
  refine .atWord? (.ite (fun _ => lazy_eachLoop hs) fun _ => ?_)
  refine (he _).settled.bind_left fun node _ => ?_
  exact .at? (.ite (fun _ => lazy_sides hs node) fun _ => .pure node)

end

/-! ## Operators in a row -/

section
variable {tier : Tier} {operand : Parser Node} {t : Token}

/-- The end of the text is no operator. -/
theorem Tier.ne_eof_of_mem {t : Token} (h : t.kind ∈ tier.operators) : t.kind ≠ .eof := by
  intro hend
  rw [hend] at h
  revert h
  cases tier <;> decide

private theorem lazy_foldOperators (ho : ∀ t, Lazy 1 t operand) (levels : Nat) (left : Node) :
    Lazy 0 t (foldOperators tier.operators operand levels left) := by
  induction levels generalizing t left with
  | zero => exact .atAny? (.ite (fun _ => .fail _) fun _ => .pure left)
  | succ levels ih =>
    rw [foldOperators_succ]
    refine .atAny? (.ite (fun hop => .deepen ?_) fun _ => .pure left)
    have hop := Tier.ne_eof_of_mem (List.contains_iff_mem.mp hop)
    refine (Lazy.advance hop).settled.bind_right fun op _ => ?_
    exact (ho _).settled.bind_right fun right _ => ih _

private theorem lazy_tier (ho : ∀ t, Lazy 1 t operand) :
    Lazy 1 t (Parser.tier tier.operators operand) := by
  rw [tier_eq]
  refine .state (fun _ _ => rfl) fun s _ => ?_
  refine (ho _).settled.bind_left fun first _ => ?_
  refine (lazy_foldOperators ho _ first).bind_left fun node _ => ?_
  exact (Lazy.atDepth s.depth).bind_left fun _ _ => .pure node

private theorem lazy_expression {factor : Parser Node} (hf : ∀ t, Lazy 1 t factor) :
    Lazy 1 t (expression factor) :=
  @lazy_tier .relational _ _ fun _ => @lazy_tier .additive _ _ fun _ =>
    @lazy_tier .multiplicative _ _ hf

end

/-! ## Factors -/

section
variable {statement factor : Parser Node} {access : Parser (Link × List Link)} {t : Token}

private theorem lazy_terminal {value : Literal} (ht : t.kind ≠ .eof) : Lazy 1 t (terminal value) :=
  (Lazy.advance ht).bind_left fun _ _ => .pure _

private theorem lazy_factorBody (hs : ∀ t, Lazy 1 t statement) (hf : ∀ t, Lazy 1 t factor)
    (ha : ∀ t, Lazy 1 t access) : Lazy 1 t (factorBody statement factor access) := by
  rw [factorBody_eq]
  refine Lazy.skipBlanks.bind_right fun _ u => .state (fun _ _ => rfl) ?_
  rintro s rfl
  have hadvance {kind : Kind} (hkind : s.current.kind = kind) (hend : kind ≠ .eof) :=
    Lazy.advance (t := s.current) (hkind ▸ hend)
  refine .ite (fun hsign => ?_) fun _ => ?_
  · have hsign : s.current.kind ≠ .eof := by
      obtain hsign | hsign := hsign <;> rw [hsign] <;> decide
    exact (Lazy.advance hsign).bind_left fun op _ => (hf _).bind_right fun operand _ => .pure _
  refine .ite (fun hnull => ?_) fun _ => ?_
  · exact (hadvance hnull (by decide)).bind_left fun token _ => .pure _
  refine .ite (fun _ => ?_) fun _ => ?_
  · exact (ha _).bind_left fun (head, members) _ => .pure _
  refine .ite (fun hopening => ?_) fun _ => ?_
  · refine (hadvance hopening (by decide)).bind_left fun _ _ => ?_
    refine (hs _).settled.bind_right fun node _ => ?_
    exact (Lazy.eat (by decide) _).bind_right fun _ _ => .pure node
  refine .ite (fun hnot => ?_) fun _ => ?_
  · exact (hadvance hnot (by decide)).bind_left fun _ _ => (hf _).mono (Nat.zero_le 1)
  cases hvalue : s.current.literal? with
  | none => exact .fail _
  | some value =>
    refine lazy_terminal fun hend => ?_
    have hkind := Token.kind_of_literal? hvalue
    rw [hend] at hkind
    exact absurd hkind (by decide)

end

/-! ## Links and their arguments -/

section
variable {statement : Parser Node} {access : Parser (Link × List Link)} {t : Token} {s : State}

private theorem lazy_argsUpTo (hs : ∀ t, Lazy 1 t statement) (bound : Nat) :
    Lazy 0 t (argsUpTo statement bound) := by
  induction bound generalizing t with
  | zero => exact .at? (.ite (fun _ => .pure []) fun _ => .fail _)
  | succ bound ih =>
    rw [argsUpTo_succ]
    refine .at? (.ite (fun _ => .pure []) fun _ => ?_)
    refine (hs _).settled.bind_right fun arg u => .at? (.ite (fun hcomma => ?_) fun _ => ?_)
    · refine (Lazy.advance_of_kind (by decide) hcomma).settled.bind_right fun _ _ => ?_
      exact ih.bind_left fun args _ => .pure _
    · refine .at? (.ite (fun _ => ?_) fun _ => .fail _)
      exact ih.bind_left fun args _ => .pure _

/-- **Any bound will do that is as large as the number of tokens**: an argument and the comma behind
it take two of them. -/
theorem argsUpTo_eq_of_le (hs : ∀ t, Lazy 1 t statement) {bound bound' : Nat} (hpos : 0 < bound)
    (hfront : s.front.length ≤ bound) (hle : bound ≤ bound') :
    argsUpTo statement bound s = argsUpTo statement bound' s := by
  induction bound generalizing s bound' with
  | zero => exact absurd hpos (Nat.lt_irrefl 0)
  | succ bound ih =>
    obtain ⟨bound', rfl⟩ := Nat.exists_eq_add_one_of_ne_zero (Nat.ne_of_gt (Nat.lt_of_lt_of_le hpos hle))
    by_cases hclosing : s.current.kind = .rParen
    · rw [argsUpTo_of_closing hclosing, argsUpTo_of_closing hclosing]
    rw [argsUpTo_succ, argsUpTo_succ, bind_of_ok (at?_run _ s), bind_of_ok (at?_run _ s)]
    simp only [beq_eq_false_iff_ne.mpr hclosing, Bool.false_eq_true, ↓reduceIte]
    refine (hs _).settled.bind_congr fun arg m hm => ?_
    rw [bind_of_ok (at?_run _ m), bind_of_ok (at?_run _ m)]
    by_cases hcomma : m.current.kind = .comma
    · simp only [hcomma, BEq.rfl, ↓reduceIte]
      refine (Lazy.advance (hcomma ▸ by decide)).settled.bind_congr fun comma m' hm' => ?_
      exact bind_of_eq (ih (by omega) (by omega) (Nat.le_of_succ_le_succ hle))
    · simp only [beq_eq_false_iff_ne.mpr hcomma, Bool.false_eq_true, ↓reduceIte]
      rw [bind_of_ok (at?_run _ m), bind_of_ok (at?_run _ m)]
      by_cases hend : m.current.kind = .rParen
      · simp only [hend, BEq.rfl, ↓reduceIte]
        exact bind_of_eq (by rw [argsUpTo_of_closing hend, argsUpTo_of_closing hend])
      · simp only [beq_eq_false_iff_ne.mpr hend, Bool.false_eq_true, ↓reduceIte]

/-- There are no more tokens before the end than the supply has ahead and the one looked at. -/
theorem State.length_front_le (s : State) : s.front.length ≤ s.supply.ahead.length + 1 :=
  (List.takeWhile_sublist _).length_le

private theorem lazy_args (hs : ∀ t, Lazy 1 t statement) : Lazy 1 t (args statement) := by
  rw [args_eq]
  refine (Lazy.eat (by decide) _).settled.bind_left fun _ _ => ?_
  rw [← bind_assoc]
  refine Lazy.bind_left (.bounded (lazy_argsUpTo hs) fun s bound hbound => ?_) fun args _ => ?_
  · exact argsUpTo_eq_of_le hs (Nat.succ_pos _) s.length_front_le hbound
  · exact (Lazy.eat (by decide) _).bind_right fun _ _ => .pure args

private theorem lazy_members (ha : ∀ t, Lazy 1 t access) (head : Link) :
    Lazy 0 t (members access head) := by
  refine .at? (.ite (fun hdot => ?_) fun _ => .pure _)
  refine (Lazy.advance_of_kind (by decide) hdot).settled.bind_right fun _ _ => ?_
  exact (ha _).bind_right fun (member, members) _ => .pure _

private theorem lazy_accessBody (hs : ∀ t, Lazy 1 t statement) (ha : ∀ t, Lazy 1 t access) :
    Lazy 1 t (accessBody statement access) := by
  rw [accessBody_eq]
  refine (Lazy.eat (by decide) _).settled.bind_left fun token _ => ?_
  refine .at? (.ite (fun _ => ?_) fun _ => lazy_members ha _)
  exact (lazy_args hs).settled.bind_right fun args _ => lazy_members ha _

end

/-! ## All readers -/

/-- **The readers are lazy, and take one token at least**, whatever number of levels is left. -/
theorem lazy_readers (levels : Nat) : (∀ t, Lazy 1 t (statement levels)) ∧
    (∀ t, Lazy 1 t (factor levels)) ∧ ∀ t, Lazy 1 t (access levels) := by
  induction levels with
  | zero =>
    rw [statement, factor, access]
    exact ⟨fun _ => .fail _, fun _ => .fail _, fun _ => .fail _⟩
  | succ levels ih =>
    obtain ⟨hs, hf, ha⟩ := ih
    rw [statement, factor, access]
    exact ⟨fun _ => (lazy_statementBody (fun _ => lazy_expression hf) hs).nested,
      fun _ => (lazy_factorBody hs hf ha).nested, fun _ => (lazy_accessBody hs ha).nested⟩

/-! ## Whole texts -/

section
variable {t : Token} {s : State}

private theorem lazy_program : Lazy 1 t program := by
  rw [program_eq]
  refine (Lazy.eat (by decide) _).bind_left fun _ _ => ?_
  refine ((lazy_readers maxDepth).1 _).settled.bind_right fun node _ => ?_
  exact (Lazy.eat (by decide) _).bind_right fun _ _ => .pure node

private theorem lazy_fragment : Lazy 1 t fragment := by
  refine .state (fun _ _ => rfl) ?_
  rintro s rfl
  cases hkind : s.current.kind <;> simp only [hkind]
  case lBrace => exact lazy_program
  case textLiteral => exact lazy_terminal (by rw [hkind]; decide)
  all_goals exact .fail _

private theorem lazy_fragmentsUpTo (bound : Nat) : Lazy 0 t (fragmentsUpTo bound) := by
  induction bound generalizing t with
  | zero => exact .at? (.ite (fun _ => .pure []) fun _ => .fail _)
  | succ bound ih =>
    refine .of_forall fun s _ => ?_
    by_cases hend : s.current.kind = .eof
    · exact ⟨_, .pure [], fun supply => fragmentsUpTo_of_end (s := s.on supply) hend⟩
    · refine ⟨_, ?_, fun supply => fragmentsUpTo_succ (s := s.on supply) hend⟩
      exact lazy_fragment.bind_right fun node _ => ih.bind_left fun nodes _ => .pure _

/-- Any bound will do that is as large as the number of tokens, since every fragment takes one. -/
theorem fragmentsUpTo_eq_of_le {bound bound' : Nat} (hfront : s.front.length ≤ bound)
    (hle : bound ≤ bound') : fragmentsUpTo bound s = fragmentsUpTo bound' s := by
  induction bound generalizing s bound' with
  | zero =>
    have hend := State.kind_of_front (List.eq_nil_of_length_eq_zero (Nat.le_zero.mp hfront))
    rw [fragmentsUpTo_of_end hend, fragmentsUpTo_of_end hend]
  | succ bound ih =>
    obtain ⟨bound', rfl⟩ := Nat.exists_eq_add_one_of_ne_zero (Nat.ne_of_gt (Nat.zero_lt_of_lt hle))
    by_cases hend : s.current.kind = .eof
    · rw [fragmentsUpTo_of_end hend, fragmentsUpTo_of_end hend]
    rw [fragmentsUpTo_succ hend, fragmentsUpTo_succ hend]
    refine lazy_fragment.bind_congr fun node m hm => ?_
    exact bind_of_eq (ih (by omega) (Nat.le_of_succ_le_succ hle))

private theorem lazy_template : Lazy 0 t template := by
  refine .of_forall fun s _ => ⟨(do
    let nodes ← (do fragmentsUpTo ((← get).supply.ahead.length + 1))
    return .template s.current nodes), ?_, fun supply => rfl⟩
  refine Lazy.bind_left (.bounded lazy_fragmentsUpTo fun s bound hbound => ?_) fun _ _ => .pure _
  exact fragmentsUpTo_eq_of_le s.length_front_le hbound

private theorem lazy_programBody : Lazy 0 t programBody := by
  rw [programBody_eq]
  refine ((lazy_readers maxDepth).1 _).settled.bind_right fun node _ => ?_
  exact .at? (.ite (fun _ => .pure node) fun _ => .fail _)

end

/-! ## From the first pull on -/

section
variable {p : Parser α} {supply other : Token.Supply} {n : Nat}

/-- How often a reader pulls. -/
def pulls (p : Parser α) (supply : Token.Supply) : Nat := (p.run supply).2.pulled - supply.pulled

/-- The last pull is what an error is about. -/
def Blames (last : Except LexError Token) : Except ParseError α → Prop
  | .ok _ => True
  | .error (.grammatical e) => last = .ok e.found
  | .error (.lexical e) => last = .error e

/-- **A run from the first pull on**: none behind the end, the last one to blame for an error, and the
same with every supply that gives the same for so long. -/
structure Run (p : Parser α) (supply : Token.Supply) (n : Nat) : Prop where
  pos : 0 < n
  pulls : p.pulls supply = n
  short : ∀ i, i + 1 < n → ∃ t, supply.source i = .ok t ∧ t.kind ≠ .eof
  blames : Blames (supply.source (n - 1)) (p.run supply).1
  determined : ∀ other : Token.Supply, (∀ i < n, other.source i = supply.source i) →
    (p.run other).1 = (p.run supply).1 ∧ p.pulls other = n

private theorem run_of_pull {t : Token} (h : supply.source 0 = .ok t) :
    p.run supply = (answer (p ⟨t, supply.after 1, 0⟩), (left (p ⟨t, supply.after 1, 0⟩)).supply) := by
  unfold run
  rw [Token.Supply.pull_eq, h]
  simp only
  cases p ⟨t, supply.after 1, 0⟩ <;> rfl

private theorem run_of_pull_error {e : LexError} (h : supply.source 0 = .error e) :
    p.run supply = (.error (.lexical e), supply.after 1) := by
  unfold run
  rw [Token.Supply.pull_eq, h]

/-- The supply that is left tells how many pulls there were. -/
private theorem pulls_of_after (h : (p.run supply).2 = supply.after n) : p.pulls supply = n := by
  rw [pulls, h]
  exact Nat.add_sub_cancel_left supply.pulled n

/-- Where nothing can be pulled, that is the answer. -/
theorem Run.of_error {e : LexError} (h : supply.source 0 = .error e) : Run p supply 1 := by
  have hpulls (supply : Token.Supply) (h : supply.source 0 = .error e) : p.pulls supply = 1 :=
    pulls_of_after (by rw [run_of_pull_error h])
  refine ⟨Nat.one_pos, hpulls supply h, fun i hi => absurd hi (by omega), ?_, fun other hother => ?_⟩
  · rw [run_of_pull_error h]
    exact h
  · have hfirst : other.source 0 = .error e := (hother 0 Nat.one_pos).trans h
    rw [run_of_pull_error h, run_of_pull_error hfirst]
    exact ⟨rfl, hpulls other hfirst⟩

/-- Behind the first pull it is a run from the token that was pulled. -/
theorem Run.of_ok {t : Token} (h : supply.source 0 = .ok t)
    (hpulls : Pulls p ⟨t, supply.after 1, 0⟩ n) : Run p supply (n + 1) := by
  have hseen (i : Nat) : State.seen ⟨t, supply.after 1, 0⟩ i = supply.source i := by
    cases i with
    | zero => exact h.symm
    | succ i =>
      show (supply.after 1).source i = supply.source (i + 1)
      rw [Token.Supply.source_after, Nat.add_comm]
  have hleaves := hpulls.leaves
  refine ⟨Nat.succ_pos n, ?_, fun i hi => ?_, ?_, fun other hother => ?_⟩
  · refine pulls_of_after ?_
    rw [run_of_pull h, hleaves, Token.Supply.after_after, Nat.add_comm]
  · rw [← hseen]
    exact hpulls.short i (Nat.lt_of_succ_lt_succ hi)
  · have hlooks := hpulls.looks
    rw [hseen] at hlooks
    rw [run_of_pull h, Nat.add_sub_cancel]
    generalize p ⟨t, supply.after 1, 0⟩ = outcome at hlooks
    rcases outcome with _ | ⟨_ | _, _⟩
    · trivial
    all_goals exact hlooks
  · have hfirst : other.source 0 = .ok t := (hother 0 (Nat.succ_pos n)).trans h
    have hsame := hpulls.determined (other.after 1) fun i hi => by
      rw [Token.Supply.source_after, Token.Supply.source_after]
      exact hother (1 + i) (by omega)
    have hrun : p ⟨t, other.after 1, 0⟩ =
      onto ((other.after 1).after n) (p ⟨t, supply.after 1, 0⟩) := hsame
    rw [run_of_pull h, run_of_pull hfirst, pulls_of_after (n := n + 1), hrun]
    · generalize p ⟨t, supply.after 1, 0⟩ = outcome
      cases outcome <;> exact ⟨rfl, rfl⟩
    · rw [run_of_pull hfirst, hrun, Nat.add_comm, ← Token.Supply.after_after]
      generalize p ⟨t, supply.after 1, 0⟩ = outcome
      cases outcome <;> rfl

/-- A lazy reader pulls some number of times from every supply. -/
private theorem exists_run (h : ∀ t, Lazy 0 t p) (supply : Token.Supply) : ∃ n, Run p supply n := by
  cases hfirst : supply.source 0 with
  | error e => exact ⟨1, .of_error hfirst⟩
  | ok t =>
    obtain ⟨n, hpulls, -⟩ := h t ⟨t, supply.after 1, 0⟩ rfl
    exact ⟨n + 1, .of_ok hfirst hpulls⟩

/-! ## Any source -/

/-- **From a source a reader comes to an answer after so many pulls**: it does so with a supply that
gives the same for so long. -/
def AnswersFrom (p : Parser α) (source : Token.Source) (answer : Except ParseError α) (pulls : Nat) :
    Prop :=
  ∃ supply : Token.Supply, (∀ i < pulls, supply.source i = source i) ∧
    (p.run supply).1 = answer ∧ p.pulls supply = pulls

variable {source : Token.Source} {answer : Except ParseError α} {k : Nat}

/-- What is answered from a source is answered from a supply that begins like it. -/
private theorem AnswersFrom.exists_run (h : p.AnswersFrom source answer n) (hp : ∀ t, Lazy 0 t p) :
    ∃ supply, Run p supply n ∧ (∀ i < n, supply.source i = source i) ∧
      (p.run supply).1 = answer := by
  obtain ⟨supply, hsame, hanswer, rfl⟩ := h
  obtain ⟨n, hrun⟩ := Parser.exists_run hp supply
  rw [hrun.pulls] at hsame ⊢
  exact ⟨supply, hrun, hsame, hanswer⟩

/-- **There is one answer**, and it is that of any supply that gives the same for so long. -/
theorem Run.answersFrom_iff (h : Run p supply n) (hp : ∀ t, Lazy 0 t p)
    (hsame : ∀ i < n, source i = supply.source i) :
    p.AnswersFrom source answer k ↔ answer = (p.run supply).1 ∧ k = n := by
  constructor
  · intro hanswer
    obtain ⟨other, hother, hsame', rfl⟩ := hanswer.exists_run hp
    obtain hle | hle := Nat.le_total k n
    · obtain ⟨hrun, hk⟩ := hother.determined supply fun i hi =>
        (hsame i (Nat.lt_of_lt_of_le hi hle)).symm.trans (hsame' i hi).symm
      exact ⟨hrun.symm, hk.symm.trans h.pulls⟩
    · obtain ⟨hrun, hn⟩ := h.determined other fun i hi =>
        (hsame' i (Nat.lt_of_lt_of_le hi hle)).trans (hsame i hi)
      exact ⟨hrun, hother.pulls.symm.trans hn⟩
  · rintro ⟨rfl, rfl⟩
    exact ⟨supply, fun i hi => (hsame i hi).symm, rfl, h.pulls⟩

end

end Parser

/-- Every source is like a supply up to any place, or up to an error in front of it. -/
theorem Token.Source.exists_supply (source : Source) (i : Nat) :
    ∃ supply : Supply, ∃ j ≤ i, (∀ k ≤ j, supply.source k = source k) ∧
      (j = i ∨ ∃ e, source j = .error e) := by
  induction i generalizing source with
  | zero =>
    refine ⟨⟨(source 0).toOption.toList, (source 0).map Token.offset, 0⟩, 0, Nat.le_refl 0, ?_, .inl rfl⟩
    intro k hk
    obtain rfl := Nat.le_zero.mp hk
    cases hfirst : source 0 <;> simp [Supply.source, Except.toOption, Except.map]
  | succ i ih =>
    cases hfirst : source 0 with
    | error e =>
      refine ⟨⟨[], .error e, 0⟩, 0, Nat.zero_le _, fun k hk => ?_, .inr ⟨e, hfirst⟩⟩
      obtain rfl := Nat.le_zero.mp hk
      exact hfirst.symm
    | ok t =>
      obtain ⟨supply, j, hj, hsame, hlast⟩ := ih fun k => source (k + 1)
      refine ⟨{ supply with ahead := t :: supply.ahead }, j + 1, Nat.succ_le_succ hj, ?_, ?_⟩
      · intro k hk
        cases k with
        | zero => exact hfirst.symm
        | succ k => exact hsame k (Nat.le_of_succ_le_succ hk)
      · exact hlast.imp (congrArg (· + 1)) id

/-! ## Whole texts -/

/-- The reader of a whole text. -/
def Mode.reader : Mode → Parser Node
  | .text => Parser.template
  | .program => Parser.programBody

private theorem Node.run_reader (mode : Mode) (supply : Token.Supply) :
    (mode.reader.run supply).1 = ofSupply mode supply := by
  cases mode <;> rfl

private theorem Mode.lazy_reader (mode : Mode) (t : Token) : Parser.Lazy 0 t mode.reader := by
  cases mode with
  | text => exact Parser.lazy_template
  | program => exact Parser.lazy_programBody

/-- **Reading is lazy, and determined by what it has pulled.** A supply is a source, with the answer that
is run. From any source, nothing is pulled behind a token for the end; the last pull is what an error is
about; and a source that gives the same for so long leads to the same answer after as many pulls. Where
a source comes to an end, there is an answer by then. -/
theorem Node.lazy_of_answers (mode : Mode) :
    (∀ (supply : Token.Supply) answer pulls, mode.reader.AnswersFrom supply.source answer pulls ↔
      answer = ofSupply mode supply ∧ pulls = mode.reader.pulls supply) ∧
    (∀ (source : Token.Source) answer pulls, mode.reader.AnswersFrom source answer pulls →
      0 < pulls ∧
      (∀ i, i + 1 < pulls → ∃ t, source i = .ok t ∧ t.kind ≠ .eof) ∧
      (∀ e, answer = .error (.grammatical e) → source (pulls - 1) = .ok e.found) ∧
      (∀ e, answer = .error (.lexical e) → source (pulls - 1) = .error e) ∧
      ∀ (other : Token.Source) k, (∀ i < k, other i = source i) → pulls ≤ k →
        ∀ answer' pulls', mode.reader.AnswersFrom other answer' pulls' ↔
          answer' = answer ∧ pulls' = pulls) ∧
    ∀ (source : Token.Source) i, (∀ t, source i = .ok t → t.kind = .eof) →
      ∃ answer, ∃ pulls ≤ i + 1, mode.reader.AnswersFrom source answer pulls := by
  have hlazy := mode.lazy_reader
  refine ⟨fun supply answer pulls => ?_, fun source answer pulls hanswer => ?_,
    fun source i hend => ?_⟩
  · obtain ⟨n, hrun⟩ := Parser.exists_run hlazy supply
    rw [hrun.answersFrom_iff hlazy fun _ _ => rfl, run_reader, hrun.pulls]
  · obtain ⟨supply, hrun, hsame, rfl⟩ := hanswer.exists_run hlazy
    have hlast : supply.source (pulls - 1) = source (pulls - 1) :=
      hsame _ (Nat.sub_one_lt_of_lt hrun.pos)
    have hblames := hrun.blames
    rw [hlast] at hblames
    refine ⟨hrun.pos, fun i hi => ?_, fun e he => ?_, fun e he => ?_, fun other k hother hle => ?_⟩
    · rw [← hsame i (Nat.lt_of_succ_lt hi)]
      exact hrun.short i hi
    · rwa [he] at hblames
    · rwa [he] at hblames
    · intro answer' pulls'
      exact hrun.answersFrom_iff hlazy fun i hi =>
        (hother i (Nat.lt_of_lt_of_le hi hle)).trans (hsame i hi).symm
  -- a supply that begins like the source, as far as the source has tokens
  · obtain ⟨supply, j, hj, hsame, hlast⟩ := source.exists_supply i
    obtain ⟨n, hrun⟩ := Parser.exists_run hlazy supply
    have hle : n ≤ j + 1 := by
      refine Nat.not_lt.mp fun hlt => ?_
      obtain ⟨t, ht, hkind⟩ := hrun.short j hlt
      rw [hsame j (Nat.le_refl j)] at ht
      obtain rfl | ⟨e, he⟩ := hlast
      · exact hkind (hend t ht)
      · rw [he] at ht
        cases ht
    refine ⟨_, n, Nat.le_trans hle (Nat.succ_le_succ hj), supply, fun k hk => ?_, rfl, hrun.pulls⟩
    exact hsame k (by omega)

end Stencil
