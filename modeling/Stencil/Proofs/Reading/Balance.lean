import Stencil.Proofs.Reading.Pulls
import Stencil.Proofs.Reading.Template

/-!
# Balance of levels

A reader counts the levels that it has entered. Where it answers it leaves the count as it has found
it, and where it fails it leaves no fewer, since the operators of a row that fails are not taken back. In
between the count does not leave its range. To say so of the whole way, and not only of its end, readers are
put together once more, of which each level goes astray, in whatever way, as soon as the count is out of
range (`nestedOr`): they read just as the others do (`Balanced`).

Between the fragments of a template no level is left over (`Reaches.depth_eq`).
-/

namespace Stencil.Parser

/-! ## Going astray -/

/-- What is done instead, once the count of levels is out of its range. -/
abbrev Astray := (α : Type) → Parser α

/-- Reads on a level of its own, but goes astray where there are more levels than there may be, or where
a level is left that has not been entered. -/
def nestedOr {α : Type} (astray : Astray) (parser : Parser α) : Parser α := fun state =>
  if maxDepth < state.depth then astray α state
  else match deepen state with
    | .error e state => .error e state
    | .ok _ state =>
      let outcome := parser state
      let reached := left outcome
      if 0 < reached.depth ∧ reached.depth ≤ maxDepth then changed State.shallower outcome
      else astray α reached

mutual
/-- A statement, on levels that may go astray. -/
def statementOr (astray : Astray) : (levels : Nat) → Parser Node
  | 0 => fail .fewerLevels
  | levels + 1 => nestedOr astray (statementBody (factorOr astray levels) (statementOr astray levels))
/-- A factor, on levels that may go astray. -/
def factorOr (astray : Astray) : (levels : Nat) → Parser Node
  | 0 => fail .fewerLevels
  | levels + 1 => nestedOr astray
    (factorBody (statementOr astray levels) (factorOr astray levels) (accessOr astray levels))
/-- A link and those behind its dot, on levels that may go astray. -/
def accessOr (astray : Astray) : (levels : Nat) → Parser (Link × List Link)
  | 0 => fail .fewerLevels
  | levels + 1 => nestedOr astray (accessBody (statementOr astray levels) (accessOr astray levels))
end

/-! ## Balance -/

section
variable {α β : Type} {p q : Parser α} {f g : α → Parser β} {s m : State} {a : α}

/-- An answer leaves the count as it was, and an error leaves no fewer levels, and not too many. -/
def Balances (s : State) : EStateM.Result ParseError State α → Prop
  | .ok _ m => m.depth = s.depth
  | .error _ m => s.depth ≤ m.depth ∧ m.depth ≤ maxDepth

/-- From every count in its range `q` does what `p` does, and no level that has been there is left. -/
structure Rises (p q : Parser α) : Prop where
  same : ∀ s, s.depth ≤ maxDepth → q s = p s
  range : ∀ s, s.depth ≤ maxDepth → s.depth ≤ (left (p s)).depth ∧ (left (p s)).depth ≤ maxDepth

/-- **From every count in its range `q` does what `p` does, and an answer leaves the count as it was.** -/
structure Balanced (p q : Parser α) : Prop extends Rises p q where
  level : ∀ s a m, s.depth ≤ maxDepth → p s = .ok a m → m.depth = s.depth

/-- A reader that is balanced leaves the count as it should be left. -/
private theorem Balanced.balances (h : Balanced p q) (hs : s.depth ≤ maxDepth) : Balances s (p s) := by
  have hrange := h.range s hs
  cases hrun : p s with
  | ok a m => exact h.level s a m hs hrun
  | error e m => rwa [hrun] at hrange

/-- Readers in sequence rise if each of them does. -/
theorem Rises.bind (hp : Rises p q) (hf : ∀ a, Rises (f a) (g a)) : Rises (p >>= f) (q >>= g) := by
  have hrange {s m : State} {a : α} (hs : s.depth ≤ maxDepth) (hrun : p s = .ok a m) :
      s.depth ≤ m.depth ∧ m.depth ≤ maxDepth := by
    have h := hp.range s hs
    rwa [hrun] at h
  refine ⟨fun s hs => ?_, fun s hs => ?_⟩
  · cases hrun : p s with
    | ok a m =>
      rw [bind_of_ok hrun, bind_of_ok ((hp.same s hs).trans hrun)]
      exact (hf a).same m (hrange hs hrun).2
    | error e m => rw [bind_of_error hrun, bind_of_error ((hp.same s hs).trans hrun)]
  · cases hrun : p s with
    | ok a m =>
      obtain ⟨hle, hmax⟩ := hrange hs hrun
      obtain ⟨hle', hmax'⟩ := (hf a).range m hmax
      rw [bind_of_ok hrun]
      exact ⟨Nat.le_trans hle hle', hmax'⟩
    | error e m =>
      have h := hp.range s hs
      rw [hrun] at h
      rw [bind_of_error hrun]
      exact h

/-- In a row readers are balanced if each of them is. -/
theorem Balanced.bind (hp : Balanced p q) (hf : ∀ a, Balanced (f a) (g a)) :
    Balanced (p >>= f) (q >>= g) := by
  refine ⟨hp.toRises.bind fun a => (hf a).toRises, fun s b m hs hrun => ?_⟩
  obtain ⟨a, r, hfirst, hrest⟩ := bind_eq_ok.mp hrun
  have hr := hp.level s a r hs hfirst
  exact ((hf a).level r b m (hr ▸ hs) hrest).trans hr

/-! ### Steps that enter no level -/

namespace Balanced

/-- What never changes the count. -/
theorem of_left (h : ∀ s, (left (p s)).depth = s.depth) : Balanced p p := by
  refine ⟨⟨fun s _ => rfl, fun s hs => ?_⟩, fun s a m _ hrun => ?_⟩
  · rw [h]
    exact ⟨Nat.le_refl _, hs⟩
  · have hleft := h s
    rwa [hrun] at hleft

/-- A value alone moves no level. -/
theorem pure (a : α) : Balanced (pure a : Parser α) (pure a) := of_left fun _ => rfl

/-- Nor does a refusal. -/
theorem fail (expected : Expected) : Balanced (fail expected : Parser α) (fail expected) :=
  of_left fun _ => rfl

/-- Nor a look at the state. -/
theorem get : Balanced (get : Parser State) get := of_left fun _ => rfl

/-- Nor a look at the kind of the token. -/
theorem at? (kind : Kind) : Balanced (at? kind) (at? kind) := of_left fun _ => rfl

/-- Nor one for several kinds. -/
theorem atAny? (kinds : List Kind) : Balanced (atAny? kinds) (atAny? kinds) := of_left fun _ => rfl

/-- Nor one for a word. -/
theorem atWord? (word : String) : Balanced (atWord? word) (atWord? word) := of_left fun _ => rfl

/-- A reader that is chosen is balanced if both choices are. -/
theorem ite {c : Prop} [Decidable c] {p' q' : Parser α} (h : Balanced p q) (h' : Balanced p' q') :
    Balanced (if c then p else p') (if c then q else q') := by
  by_cases hc : c
  · rwa [if_pos hc, if_pos hc]
  · rwa [if_neg hc, if_neg hc]

/-- To take a token moves no level. -/
theorem advance : Balanced advance advance := of_left fun s => by
  cases hpull : s.supply.pull with
  | mk found supply =>
    cases found with
    | ok next => rw [advance_of_pull hpull, left]
    | error e => rw [advance_of_pull_error hpull, left]

/-- Nor does to take one of some kind. -/
theorem eat (kind : Kind) (expected : Expected) : Balanced (eat kind expected) (eat kind expected) :=
  (at? kind).bind fun _ => .ite advance (.fail expected)

/-- Nor does to pass blanks. -/
theorem skipBlanks : Balanced skipBlanks skipBlanks := by
  have hover (ahead : List Token) : Balanced (skipBlanksOver ahead) (skipBlanksOver ahead) := by
    have hdiscard : Balanced (discard Parser.advance) (discard Parser.advance) := by
      rw [discard_eq]
      exact advance.bind fun _ => .pure ()
    induction ahead with
    | nil => exact (at? .whitespace).bind fun _ => .ite hdiscard (.pure ())
    | cons next ahead ih =>
      exact (at? .whitespace).bind fun _ => .ite (hdiscard.bind fun _ => ih) (.pure ())
  exact get.bind fun s => hover s.supply.ahead

/-- A balanced reader stays so with the blanks behind it. -/
theorem settled (h : Balanced p q) : Balanced (settled p) (settled q) :=
  h.bind fun a => skipBlanks.bind fun _ => .pure a

/-! ### Levels -/

/-- **A level is left as it was entered**, and never left without having been. -/
theorem nested (astray : Astray) (h : Balanced p q) : Balanced (nested p) (nestedOr astray q) := by
  have hleft (outcome : EStateM.Result ParseError State α) :
      (left (changed State.shallower outcome)).depth = (left outcome).depth - 1 := by
    cases outcome <;> rfl
  refine ⟨⟨fun s hs => ?_, fun s hs => ?_⟩, fun s a m hs hok => ?_⟩
  · rw [nestedOr, if_neg (Nat.not_lt.mpr hs)]
    obtain hlt | hmax := Nat.lt_or_ge s.depth maxDepth
    · have hrange : s.depth + 1 ≤ _ ∧ _ := h.range (s.atDepth (s.depth + 1)) hlt
      rw [nested_of_lt hlt, deepen_of_lt hlt]
      dsimp only
      rw [h.same (s.atDepth (s.depth + 1)) hlt, if_pos ⟨Nat.zero_lt_of_lt hrange.1, hrange.2⟩]
    · rw [nested_of_le hmax, deepen_of_le hmax]
  · obtain hlt | hmax := Nat.lt_or_ge s.depth maxDepth
    · have hrange : s.depth + 1 ≤ _ ∧ _ := h.range (s.atDepth (s.depth + 1)) hlt
      rw [nested_of_lt hlt, hleft]
      omega
    · rw [nested_of_le hmax]
      exact ⟨Nat.le_refl _, hs⟩
  · obtain ⟨hlt, r, hrun, rfl⟩ := nested_eq_ok.mp hok
    have hr : r.depth = s.depth + 1 := h.level (s.atDepth (s.depth + 1)) a r hlt hrun
    rw [State.shallower, hr, Nat.add_sub_cancel]

end Balanced

/-- A level that is entered for an operator is not left with it. -/
theorem rises_deepen : Rises deepen deepen := by
  refine ⟨fun s _ => rfl, fun s hs => ?_⟩
  obtain hlt | hmax := Nat.lt_or_ge s.depth maxDepth
  · rw [deepen_of_lt hlt]
    exact ⟨Nat.le_succ _, hlt⟩
  · rw [deepen_of_le hmax]
    exact ⟨Nat.le_refl _, hs⟩

end

/-! ## The readers -/

section
variable {operand operand' : Parser Node}

/-- A chain of operators enters a level for each of them and leaves none. -/
private theorem rises_foldOperators (ops : List Kind) (ho : Balanced operand operand') (levels : Nat)
    (left : Node) :
    Rises (foldOperators ops operand levels left) (foldOperators ops operand' levels left) := by
  induction levels generalizing left with
  | zero =>
    exact ((Balanced.atAny? ops).bind fun _ => .ite (.fail .fewerLevels) (.pure left)).toRises
  | succ levels ih =>
    rw [foldOperators_succ, foldOperators_succ]
    refine (Balanced.atAny? ops).toRises.bind fun more => ?_
    cases more with
    | false => exact (Balanced.pure left).toRises
    | true =>
      refine rises_deepen.bind fun _ => Balanced.advance.settled.toRises.bind fun op => ?_
      exact ho.settled.toRises.bind fun right => ih (.binary op left right)

/-- **A row that is read leaves the levels of all its operators.** -/
theorem balanced_tier (ops : List Kind) (ho : Balanced operand operand') :
    Balanced (tier ops operand) (tier ops operand') := by
  let row (operand : Parser Node) (base : Nat) : Parser Node := do
    let first ← settled operand
    foldOperators ops operand (maxDepth - base) first
  have hrow (base : Nat) : Rises (row operand base) (row operand' base) :=
    ho.settled.toRises.bind fun first => rises_foldOperators ops ho _ first
  have hrun (operand : Parser Node) (s : State) : tier ops operand s = (do
      let node ← row operand s.depth
      modify fun state : State => state.atDepth s.depth
      return node) s := by
    rw [tier_eq, bind_of_ok (get_run s), bind_assoc]
  have hlast (node : Node) (base : Nat) (m : State) :
      (do modify fun state : State => state.atDepth base; return node : Parser Node) m =
        .ok node (m.atDepth base) := rfl
  refine ⟨⟨fun s hs => ?_, fun s hs => ?_⟩, fun s node m hs hok => ?_⟩
  · rw [hrun, hrun]
    exact bind_of_eq ((hrow s.depth).same s hs)
  · have hrange := (hrow s.depth).range s hs
    rw [hrun]
    cases hrow : row operand s.depth s with
    | ok node m =>
      rw [bind_of_ok hrow, hlast]
      exact ⟨Nat.le_refl _, hs⟩
    | error e m =>
      rw [bind_of_error hrow]
      rwa [hrow] at hrange
  · rw [hrun] at hok
    obtain ⟨node', r, -, hok⟩ := bind_eq_ok.mp hok
    rw [hlast] at hok
    obtain ⟨-, rfl⟩ := EStateM.Result.ok.inj hok
    rfl

private theorem balanced_expression {factor factor' : Parser Node} (hf : Balanced factor factor') :
    Balanced (expression factor) (expression factor') :=
  balanced_tier _ (balanced_tier _ (balanced_tier _ hf))

end

section
variable {statement statement' factor factor' : Parser Node}
  {access access' : Parser (Link × List Link)}

private theorem balanced_eachLoop (hs : Balanced statement statement') :
    Balanced (eachLoop statement) (eachLoop statement') := by
  rw [eachLoop_eq, eachLoop_eq]
  refine (Balanced.eat .identifier _).settled.bind fun token => ?_
  refine (Balanced.eat .identifier _).settled.bind fun item => ?_
  refine (Balanced.atWord? "in").bind fun _ => .ite ?_ (.fail _)
  refine Balanced.advance.settled.bind fun _ => ?_
  refine (Balanced.eat .identifier _).settled.bind fun source => ?_
  refine (Balanced.eat .question _).settled.bind fun _ => ?_
  exact hs.bind fun body => .pure _

private theorem balanced_sides (hs : Balanced statement statement') (condition : Node) :
    Balanced (sides statement condition) (sides statement' condition) := by
  rw [sides_eq, sides_eq]
  refine (Balanced.eat .question _).settled.bind fun _ => hs.settled.bind fun thenBody => ?_
  refine (Balanced.at? .colon).bind fun _ => .ite ?_ (.pure _)
  exact Balanced.advance.settled.bind fun _ => hs.bind fun elseBody => .pure _

private theorem balanced_statementBody (hf : Balanced factor factor')
    (hs : Balanced statement statement') :
    Balanced (statementBody factor statement) (statementBody factor' statement') := by
  rw [statementBody_eq, statementBody_eq]
  refine Balanced.skipBlanks.bind fun _ => (Balanced.atWord? "each").bind fun _ => ?_
  refine .ite (balanced_eachLoop hs) ((balanced_expression hf).settled.bind fun node => ?_)
  exact (Balanced.at? .question).bind fun _ => .ite (balanced_sides hs node) (.pure node)

private theorem balanced_terminal (value : Literal) : Balanced (terminal value) (terminal value) :=
  Balanced.advance.bind fun _ => .pure _

private theorem balanced_factorBody (hs : Balanced statement statement') (hf : Balanced factor factor')
    (ha : Balanced access access') :
    Balanced (factorBody statement factor access) (factorBody statement' factor' access') := by
  rw [factorBody_eq, factorBody_eq]
  refine Balanced.skipBlanks.bind fun _ => Balanced.get.bind fun s => ?_
  refine .ite (Balanced.advance.bind fun op => hf.bind fun operand => .pure _) ?_
  refine .ite (Balanced.advance.bind fun token => .pure _) ?_
  refine .ite (ha.bind fun link => .pure _) ?_
  refine .ite (Balanced.advance.bind fun _ => hs.settled.bind fun node => ?_) ?_
  · exact (Balanced.eat .rParen _).bind fun _ => .pure node
  refine .ite (Balanced.advance.bind fun _ => hf) ?_
  cases s.current.literal? with
  | some value => exact balanced_terminal value
  | none => exact .fail _

private theorem balanced_argsUpTo (hs : Balanced statement statement') (bound : Nat) :
    Balanced (argsUpTo statement bound) (argsUpTo statement' bound) := by
  induction bound with
  | zero => exact (Balanced.at? .rParen).bind fun _ => .ite (.pure []) (.fail _)
  | succ bound ih =>
    rw [argsUpTo_succ, argsUpTo_succ]
    refine (Balanced.at? .rParen).bind fun _ => .ite (.pure []) ?_
    refine hs.settled.bind fun arg => (Balanced.at? .comma).bind fun _ => .ite ?_ ?_
    · exact Balanced.advance.settled.bind fun _ => ih.bind fun args => .pure _
    · refine (Balanced.at? .rParen).bind fun _ => .ite ?_ (.fail _)
      exact ih.bind fun args => .pure _

private theorem balanced_args (hs : Balanced statement statement') :
    Balanced (args statement) (args statement') := by
  rw [args_eq, args_eq]
  refine (Balanced.eat .lParen _).settled.bind fun _ => Balanced.get.bind fun s => ?_
  refine (balanced_argsUpTo hs _).bind fun args => ?_
  exact (Balanced.eat .rParen _).bind fun _ => .pure args

private theorem balanced_members (ha : Balanced access access') (head : Link) :
    Balanced (members access head) (members access' head) := by
  refine (Balanced.at? .dot).bind fun _ => .ite ?_ (.pure _)
  exact Balanced.advance.settled.bind fun _ => ha.bind fun link => .pure _

private theorem balanced_accessBody (hs : Balanced statement statement')
    (ha : Balanced access access') :
    Balanced (accessBody statement access) (accessBody statement' access') := by
  rw [accessBody_eq, accessBody_eq]
  refine (Balanced.eat .identifier _).settled.bind fun token => ?_
  refine (Balanced.at? .lParen).bind fun _ => .ite ?_ (balanced_members ha _)
  exact (balanced_args hs).settled.bind fun args => balanced_members ha _

end

/-- **All readers are balanced**, whatever number of levels is left, and never go astray. -/
theorem balanced_readers (astray : Astray) (levels : Nat) :
    Balanced (statement levels) (statementOr astray levels) ∧
      Balanced (factor levels) (factorOr astray levels) ∧
      Balanced (access levels) (accessOr astray levels) := by
  induction levels with
  | zero =>
    rw [statement, factor, access, statementOr, factorOr, accessOr]
    exact ⟨.fail _, .fail _, .fail _⟩
  | succ levels ih =>
    obtain ⟨hs, hf, ha⟩ := ih
    rw [statement, factor, access, statementOr, factorOr, accessOr]
    exact ⟨.nested astray (balanced_statementBody hf hs), .nested astray (balanced_factorBody hs hf ha),
      .nested astray (balanced_accessBody hs ha)⟩

/-! ## Templates -/

/-- The states between the fragments that are read from `s` on. -/
inductive Reaches (s : State) : State → Prop
  | first : Reaches s s
  | next {m m' : State} {node : Node} : Reaches s m → fragment m = .ok node m' → Reaches s m'

section
variable {s m : State}

private theorem balanced_program : Balanced program program := by
  obtain ⟨hs, -, -⟩ := balanced_readers (fun _ => fail .fewerLevels) maxDepth
  have hsame : Balanced (statement maxDepth) (statement maxDepth) :=
    ⟨⟨fun _ _ => rfl, hs.range⟩, hs.level⟩
  rw [program_eq]
  refine (Balanced.eat .lBrace _).bind fun _ => hsame.settled.bind fun node => ?_
  exact (Balanced.eat .rBrace _).bind fun _ => .pure node

private theorem balanced_fragment : Balanced fragment fragment := by
  refine Balanced.get.bind fun s => ?_
  cases hkind : s.current.kind <;> simp only [hkind]
  case lBrace => exact balanced_program
  case textLiteral => exact balanced_terminal _
  all_goals exact .fail _

/-- **Between fragments the count is what it was before them.** -/
theorem Reaches.depth_eq (h : Reaches s m) (hs : s.depth ≤ maxDepth) : m.depth = s.depth := by
  induction h with
  | first => rfl
  | next _ hfragment ih => rw [balanced_fragment.level _ _ _ (ih ▸ hs) hfragment, ih]

/-- What is reached behind the first fragment is reached. -/
theorem Reaches.of_fragment {m' : State} {node : Node} (hfragment : fragment s = .ok node m)
    (h : Reaches m m') : Reaches s m' := by
  induction h with
  | first => exact .next .first hfragment
  | next _ hlast ih => exact .next ih hlast

/-- Reading fragments ends between two of them, or with an error in the next one. -/
theorem exists_reaches (bound : Nat) (s : State) : ∃ m, Reaches s m ∧
    (left (fragmentsUpTo bound s) = m ∨
      ∃ e, fragment m = .error e (left (fragmentsUpTo bound s))) := by
  -- on the bound, of which each fragment takes one
  induction bound generalizing s with
  | zero =>
    refine ⟨s, .first, .inl ?_⟩
    rw [fragmentsUpTo, bind_of_ok (at?_run .eof s)]
    split <;> rfl
  | succ bound ih =>
    by_cases hend : s.current.kind = .eof
    · rw [fragmentsUpTo_of_end hend]
      exact ⟨s, .first, .inl rfl⟩
    rw [fragmentsUpTo_succ hend]
    cases hfragment : fragment s with
    | error e m =>
      rw [bind_of_error hfragment]
      exact ⟨s, .first, .inr ⟨e, hfragment⟩⟩
    | ok node m =>
      obtain ⟨m', hreaches, hleft⟩ := ih m
      refine ⟨m', hreaches.of_fragment hfragment, ?_⟩
      rw [bind_of_ok hfragment]
      cases hrest : fragmentsUpTo bound m with
      | ok nodes r =>
        rw [hrest] at hleft
        rwa [bind_of_ok hrest]
      | error e r =>
        rw [hrest] at hleft
        rwa [bind_of_error hrest]

end

/-- **The count of levels is balanced.** From every state with a count in its range, whatever the supply:
a statement, an expression, the two tiers inside it, a factor, an access and the arguments of a call
leave the count as they have found it where they are read, and where they fail they leave no fewer levels
and not too many. On the way no level is entered or left with the count out of its range, since it makes
no difference what would be done then. From no level at all, as at the start of a text, a template gets from
fragment to fragment without any level left over, so that each of its programs starts with none, and it
ends there or fails in the next fragment. -/
theorem levels_balanced :
    (∀ levels s, s.depth ≤ maxDepth →
      Balances s (statement levels s) ∧
      Balances s (expression (factor levels) s) ∧
      Balances s (tier additive (tier multiplicative (factor levels)) s) ∧
      Balances s (tier multiplicative (factor levels) s) ∧
      Balances s (factor levels s) ∧
      Balances s (access levels s) ∧
      Balances s (args (statement levels) s)) ∧
    (∀ astray levels s, s.depth ≤ maxDepth →
      statementOr astray levels s = statement levels s ∧
      factorOr astray levels s = factor levels s ∧
      accessOr astray levels s = access levels s) ∧
    ∀ s, s.depth = 0 →
      (∀ m, Reaches s m → m.depth = 0) ∧
      ∀ bound, ∃ m, Reaches s m ∧ (left (fragmentsUpTo bound s) = m ∨
        ∃ e, fragment m = .error e (left (fragmentsUpTo bound s))) := by
  refine ⟨fun levels s hs => ?_, fun astray levels s hs => ?_, fun s hs => ⟨fun m h => ?_, ?_⟩⟩
  · obtain ⟨hstatement, hfactor, haccess⟩ := balanced_readers (fun _ => fail .fewerLevels) levels
    have hterm := balanced_tier multiplicative hfactor
    exact ⟨hstatement.balances hs, (balanced_expression hfactor).balances hs,
      (balanced_tier additive hterm).balances hs, hterm.balances hs, hfactor.balances hs,
      haccess.balances hs, (balanced_args hstatement).balances hs⟩
  · obtain ⟨hstatement, hfactor, haccess⟩ := balanced_readers astray levels
    exact ⟨hstatement.same s hs, hfactor.same s hs, haccess.same s hs⟩
  · rw [h.depth_eq (hs ▸ Nat.zero_le _), hs]
  · exact fun bound => exists_reaches bound s

end Stencil.Parser
