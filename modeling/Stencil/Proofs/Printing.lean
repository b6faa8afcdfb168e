import Stencil.Proofs.Reading.Whole
import Stencil.Tree.Rows
import Mathlib.Data.List.Forall2

/-!
# Printing

A tree is printed with the tokens that it holds, the words and marks that it does not hold, and
parentheses only where it would be read otherwise: around what stands in a slot that is too tight for
it (`Node.printAt`). Whatever tokens spell a regular tree, the tree is read off them again, or there
are not enough levels for it, and for 64 nodes there always are (`Node.ofSupply_of_spells`).
-/

namespace Stencil

/-! ## Slots -/

/-- Where a tree can stand, from the loosest slot to the tightest: a whole statement, an operand of a
tier that may be a row of the same tier, and a factor. -/
inductive Slot where
  | statement
  | row (tier : Tier)
  | factor
deriving DecidableEq, Repr

/-- How tight a slot is. -/
def Slot.rank : Slot → Nat
  | statement => 0
  | row .relational => 1
  | row .additive => 2
  | row .multiplicative => 3
  | factor => 4

private theorem Slot.rank_le (p : Slot) : p.rank ≤ factor.rank := by
  rcases p with _ | (_ | _ | _) | _ <;> decide

private theorem Slot.eq_of_rank {p q : Slot} (h : p.rank = q.rank) : p = q := by
  revert h
  rcases p with _ | (_ | _ | _) | _ <;> rcases q with _ | (_ | _ | _) | _ <;> decide

/-- The slot of an operand of a tier that is no row of the same tier. -/
def Tier.inner : Tier → Slot
  | relational => .row .additive
  | additive => .row .multiplicative
  | multiplicative => .factor

private theorem Tier.rank_inner (tier : Tier) : tier.inner.rank = (Slot.row tier).rank + 1 := by
  cases tier <;> rfl

private theorem Tier.inner_ne_statement (tier : Tier) : tier.inner ≠ .statement := by
  cases tier <;> exact nofun

private theorem Tier.row_ne_statement (tier : Tier) : Slot.row tier ≠ .statement := nofun

/-- The tier of an operator. -/
def Token.tier (op : Token) : Tier :=
  if op.kind ∈ Parser.relational then .relational
  else if op.kind ∈ Parser.additive then .additive
  else .multiplicative

/-- The tightest slot where a tree needs no parentheses. -/
def Node.slot : Node → Slot
  | .binary op _ _ => .row op.tier
  | .branch _ _ _ | .each _ _ _ _ => .statement
  | _ => .factor

/-! ## Pieces -/

/-- What is printed: a token, one that need only be of some kind, or a word. -/
inductive Piece where
  | own (token : Token)
  | mark (kind : Kind)
  | word (text : String)

/-- A token that will do for the piece. -/
def Piece.SpelledBy : Piece → Token → Prop
  | own token, t => t = token
  | mark kind, t => t.kind = kind
  | word text, t => t.IsWord text

/-- **Tokens that will do for the pieces**, one after the other. -/
def Spells (pieces : List Piece) (tokens : List Token) : Prop :=
  List.Forall₂ Piece.SpelledBy pieces tokens

/-- In parentheses, if that is needed. -/
def Piece.enclose (needed : Bool) (pieces : List Piece) : List Piece :=
  if needed then mark .lParen :: (pieces ++ [mark .rParen]) else pieces

open Piece in
mutual
/-- A tree in some slot. -/
def Node.printAt (slot : Slot) : Node → List Piece
  | .template _ _ | .noOp _ => []
  | .terminal token _ | .null token => [own token]
  | .access head members => head.print ++ Link.printAll members
  | .binary op left right => enclose (decide ((Slot.row op.tier).rank < slot.rank))
    (left.printAt (.row op.tier) ++ own op :: right.printAt op.tier.inner)
  | .unary op operand => own op :: operand.printAt .factor
  | .branch condition thenBody elseBody => enclose (decide (Slot.statement.rank < slot.rank))
    (condition.printAt (.row .relational) ++ mark .question :: (thenBody.printAt (.row .relational) ++
      match elseBody with
      | .noOp _ => []
      | elseBody => mark .colon :: elseBody.printAt .statement))
  | .each token item source body => enclose (decide (Slot.statement.rank < slot.rank))
    (own token :: (item.printAt .factor ++ word "in" ::
      (source.printAt .factor ++ mark .question :: body.printAt .statement)))
/-- Arguments with commas between them. -/
def Node.printArgs : List Node → List Piece
  | [] => []
  | [node] => node.printAt .statement
  | node :: nodes => node.printAt .statement ++ mark .comma :: Node.printArgs nodes
/-- A link by itself. -/
def Link.print : Link → List Piece
  | .bare token | .read token => [own token]
  | .call token args => own token :: mark .lParen :: (Node.printArgs args ++ [mark .rParen])
/-- Links, each behind a dot. -/
def Link.printAll : List Link → List Piece
  | [] => []
  | link :: links => mark .dot :: (link.print ++ Link.printAll links)
end

/-! ## Regular trees -/

mutual
/-- **A tree of the shapes that are read.** Only the first name of an access could be taken for the
word that starts a loop. -/
def Node.Regular : Node → Prop
  | .template _ _ | .noOp _ => False
  | .terminal token value => token.literal? = some value
  | .null token => token.kind = .null
  | .access head members => ¬ head.token.IsWord "each" ∧ head.Regular ∧ Link.AllRegular members
  | .binary op left right =>
    op.kind ∈ Parser.relational ++ Parser.additive ++ Parser.multiplicative ∧
      left.Regular ∧ right.Regular
  | .unary op operand => (op.kind = .plus ∨ op.kind = .minus) ∧ operand.Regular
  | .branch condition thenBody elseBody => condition.Regular ∧ thenBody.Regular ∧
    match elseBody with
    | .noOp token => token = condition.token
    | elseBody => elseBody.Regular
  | .each token item source body =>
    token.IsWord "each" ∧ item.IsName ∧ source.IsName ∧ body.Regular
def Node.AllRegular : List Node → Prop
  | [] => True
  | node :: nodes => node.Regular ∧ Node.AllRegular nodes
def Link.Regular : Link → Prop
  | .bare _ => False
  | .read token => token.kind = .identifier
  | .call token args => token.kind = .identifier ∧ Node.AllRegular args
def Link.AllRegular : List Link → Prop
  | [] => True
  | link :: links => link.Regular ∧ Link.AllRegular links
end

/-! ## Spelling -/

namespace Spells

variable {piece : Piece} {pieces more : List Piece} {tokens : List Token}

/-- Nothing spells no pieces but no tokens. -/
theorem nil (h : Spells [] tokens) : tokens = [] := List.forall₂_nil_left_iff.mp h

/-- Tokens that spell a piece and others begin with one that will do for the first. -/
theorem cons (h : Spells (piece :: pieces) tokens) :
    ∃ t ts, tokens = t :: ts ∧ piece.SpelledBy t ∧ Spells pieces ts := by
  obtain ⟨t, ts, ht, hts, rfl⟩ := List.forall₂_cons_left_iff.mp h
  exact ⟨t, ts, rfl, ht, hts⟩

/-- Tokens that spell two prints are those of the one and then those of the other. -/
theorem append (h : Spells (pieces ++ more) tokens) :
    ∃ ts us, tokens = ts ++ us ∧ Spells pieces ts ∧ Spells more us := by
  induction pieces generalizing tokens with
  | nil => exact ⟨[], tokens, rfl, List.Forall₂.nil, h⟩
  | cons piece pieces ih =>
    obtain ⟨t, rest, rfl, ht, hrest⟩ := cons h
    obtain ⟨ts, us, rfl, hts, hus⟩ := ih hrest
    exact ⟨t :: ts, us, rfl, List.Forall₂.cons ht hts, hus⟩

/-- One piece is spelled by one token. -/
theorem one (h : Spells [piece] tokens) : ∃ t, tokens = [t] ∧ piece.SpelledBy t := by
  obtain ⟨t, ts, rfl, ht, hts⟩ := h.cons
  obtain rfl := hts.nil
  exact ⟨t, rfl, ht⟩

/-- Whatever is printed can be spelled. -/
theorem exists_spells (pieces : List Piece) : ∃ tokens, Spells pieces tokens := by
  induction pieces with
  | nil => exact ⟨[], List.Forall₂.nil⟩
  | cons piece pieces ih =>
    obtain ⟨tokens, htokens⟩ := ih
    cases piece with
    | own token => exact ⟨token :: tokens, List.Forall₂.cons rfl htokens⟩
    | mark kind => exact ⟨⟨kind, "", 0⟩ :: tokens, List.Forall₂.cons rfl htokens⟩
    | word text => exact ⟨⟨.identifier, text, 0⟩ :: tokens, List.Forall₂.cons ⟨rfl, rfl⟩ htokens⟩

end Spells

/-! ## Reading in a slot -/

open Stencil.Parser

/-- What may follow a tree in a slot, so that it does not go on there. -/
def Slot.Ends : Slot → Kind → Prop
  | factor, next => next ≠ .lParen ∧ next ≠ .dot
  | row .multiplicative, next => next ≠ .lParen ∧ next ≠ .dot
  | row .additive, next => next ≠ .lParen ∧ next ≠ .dot ∧ next ∉ multiplicative
  | row .relational, next =>
    next ≠ .lParen ∧ next ≠ .dot ∧ next ∉ multiplicative ∧ next ∉ additive
  | statement, next => next ≠ .lParen ∧ next ≠ .dot ∧ next ∉ multiplicative ∧ next ∉ additive ∧
    next ∉ relational ∧ next ≠ .question ∧ next ≠ .colon

instance : (slot : Slot) → (next : Kind) → Decidable (slot.Ends next)
  | .factor, _ | .row .multiplicative, _ => inferInstanceAs (Decidable (_ ∧ _))
  | .row .additive, _ | .row .relational, _ | .statement, _ => inferInstanceAs (Decidable (_ ∧ _))

/-- An operator is one of its tier. -/
theorem Token.mem_operators_tier {op : Token}
    (h : op.kind ∈ relational ++ additive ++ multiplicative) : op.kind ∈ op.tier.operators := by
  unfold Token.tier
  by_cases hrelational : op.kind ∈ relational
  · rw [if_pos hrelational]
    exact hrelational
  · by_cases hadditive : op.kind ∈ additive
    · rw [if_neg hrelational, if_pos hadditive]
      exact hadditive
    · rw [if_neg hrelational, if_neg hadditive]
      obtain h | h := List.mem_append.mp h
      · obtain h | h := List.mem_append.mp h
        · exact absurd h hrelational
        · exact absurd h hadditive
      · exact h

/-- An operator ends its left operand. -/
theorem Slot.ends_of_mem_operators {tier : Tier} {next : Kind} (h : next ∈ tier.operators) :
    (Slot.row tier).Ends next := by
  revert h
  cases tier <;> cases next <;> decide

/-- Tokens are read as a tree in a slot. -/
def ReadsAt (next : Kind) (n : Nat) (tokens : List Token) (node : Node) : Slot → Prop
  | .statement => Reads next n tokens (.statement node)
  | .row tier => ∃ k, Reads next n tokens (.row tier k node)
  | .factor => Reads next n tokens (.factor node)

section
variable {next : Kind} {n : Nat} {tokens : List Token} {node : Node} {tier : Tier} {slot : Slot}

/-- What ends a row of a tier ends an operand in it. -/
theorem Slot.Ends.inner (h : (Slot.row tier).Ends next) : tier.inner.Ends next := by
  cases tier with
  | relational => exact ⟨h.1, h.2.1, h.2.2.1⟩
  | additive => exact ⟨h.1, h.2.1⟩
  | multiplicative => exact h

/-- What ends a tree in a loose slot ends it in a tight one. -/
theorem Slot.Ends.mono {p q : Slot} (h : q.Ends next) (hrank : q.rank ≤ p.rank) : p.Ends next := by
  revert h hrank
  rcases p with _ | (_ | _ | _) | _ <;> rcases q with _ | (_ | _ | _) | _ <;>
    simp only [Slot.Ends, Slot.rank] <;> grind

/-- What ends a statement ends the widest row in it and is no operator of that. -/
theorem Slot.Ends.relational (h : Slot.statement.Ends next) :
    (Slot.row .relational).Ends next ∧ next ∉ Parser.relational :=
  ⟨⟨h.1, h.2.1, h.2.2.1, h.2.2.2.1⟩, h.2.2.2.2.1⟩

/-- What stands in the slot of an operand is one. -/
theorem ReadsAt.operand (h : ReadsAt next n tokens node tier.inner)
    (hends : (Slot.row tier).Ends next) : Reads next n tokens (tier.operand node) := by
  cases tier with
  | relational =>
    obtain ⟨k, hrow⟩ := h
    exact .tier hrow hends.2.2.2
  | additive =>
    obtain ⟨k, hrow⟩ := h
    exact .tier hrow hends.2.2
  | multiplicative => exact h

/-- What stands in the slot of an operand may stand in that of a row. -/
theorem ReadsAt.row (h : ReadsAt next n tokens node tier.inner) (hends : (Slot.row tier).Ends next) :
    ReadsAt next n tokens node (.row tier) :=
  ⟨0, .operand (h.operand hends)⟩

/-- **What stands in a tight slot may stand in a loose one**, short of a whole statement. -/
theorem ReadsAt.loosen {p q : Slot} (h : ReadsAt next n tokens node p) (hrank : q.rank ≤ p.rank)
    (hq : q ≠ .statement) (hends : q.Ends next) : ReadsAt next n tokens node q := by
  induction hgap : p.rank - q.rank generalizing q with
  | zero =>
    have hsame : p = q := Slot.eq_of_rank (by omega)
    exact hsame ▸ h
  | succ gap ih =>
    cases q with
    | statement => exact absurd rfl hq
    | factor =>
      have hle := p.rank_le
      omega
    | row t =>
      have hsucc := t.rank_inner
      exact (ih (by omega) t.inner_ne_statement hends.inner (by omega)).row hends

/-- A row of the loosest tier is a statement. -/
theorem ReadsAt.statement (h : ReadsAt next n tokens node (.row .relational))
    (hends : next ∉ Parser.relational) (hquestion : next ≠ .question) (hstart : ¬ StartsLoop tokens) :
    Reads next (n + 1) tokens (.statement node) := by
  obtain ⟨k, hrow⟩ := h
  exact .plain (.tier hrow hends) hstart hquestion

end

/-! ## Reading back -/

/-- **Whatever tokens spell the tree in the slot, the tree is read off them**, with so many levels at
most. -/
def Node.ReadBack (node : Node) (slot : Slot) (bound : Nat) : Prop :=
  ∀ ⦃next tokens⦄, Spells (node.printAt slot) tokens → slot.Ends next →
    ∃ n ≤ bound, ReadsAt next n tokens node slot ∧ (slot ≠ .statement → ¬ StartsLoop tokens)

section
variable {node : Node} {p : Slot} {bound : Nat}

/-- In a slot that is too tight a tree is printed in parentheses, and else without. -/
theorem Node.printAt_eq (node : Node) (p : Slot) :
    node.printAt p = Piece.enclose (decide (node.slot.rank < p.rank)) (node.printAt .statement) := by
  have hle := p.rank_le
  have hfactor : decide (Slot.factor.rank < p.rank) = false := decide_eq_false (Nat.not_lt.mpr hle)
  cases node with
  | binary | each => rfl
  | branch condition thenBody elseBody => cases elseBody <;> rfl
  | _ =>
    show _ = Piece.enclose (decide (Slot.factor.rank < p.rank)) _
    rw [hfactor]
    rfl

/-- Where a tree stands without parentheses, it is printed as in its own slot. -/
theorem Node.printAt_of_le (h : p.rank ≤ node.slot.rank) :
    node.printAt p = node.printAt node.slot := by
  rw [printAt_eq, printAt_eq node node.slot, decide_eq_false (Nat.not_lt.mpr h),
    decide_eq_false (Nat.lt_irrefl _)]

namespace Node.ReadBack

/-- With more levels a tree is still read back. -/
theorem mono {b : Nat} (h : node.ReadBack p b) (hle : b ≤ bound) : node.ReadBack p bound := by
  intro next tokens hspells hends
  obtain ⟨n, hn, hreads, hstart⟩ := h hspells hends
  exact ⟨n, Nat.le_trans hn hle, hreads, hstart⟩

/-- A tree that is read back in its own slot is read back in a looser one. -/
theorem loosen (h : node.ReadBack node.slot bound) (hrank : p.rank ≤ node.slot.rank)
    (hp : p ≠ .statement) : node.ReadBack p bound := by
  intro next tokens hspells hends
  have hslot : node.slot ≠ .statement := by
    intro hslot
    rw [hslot] at hrank
    exact hp (Slot.eq_of_rank (Nat.le_zero.mp hrank))
  rw [printAt_of_le hrank] at hspells
  obtain ⟨n, hn, hreads, hstart⟩ := h hspells (hends.mono hrank)
  exact ⟨n, hn, hreads.loosen hrank hp hends, fun _ => hstart hslot⟩

/-- A tree that is read back in its own slot is read back as a statement, which takes one more
level. -/
theorem statement (h : node.ReadBack node.slot bound) (hslot : node.slot ≠ .statement) :
    node.ReadBack .statement (bound + 1) := by
  intro next tokens hspells hends
  have hrank : (Slot.row .relational).rank ≤ node.slot.rank := by
    have hne : node.slot.rank ≠ 0 := fun hzero => hslot (Slot.eq_of_rank hzero)
    exact Nat.one_le_iff_ne_zero.mpr hne
  obtain ⟨hends', hoperator⟩ := hends.relational
  rw [printAt_of_le (Nat.zero_le _), ← printAt_of_le hrank] at hspells
  obtain ⟨n, hn, hreads, hstart⟩ := h.loosen hrank (Tier.row_ne_statement _) hspells hends'
  have hread := hreads.statement hoperator hends.2.2.2.2.2.1 (hstart (Tier.row_ne_statement _))
  exact ⟨n + 1, Nat.succ_le_succ hn, hread, fun h => absurd rfl h⟩

/-- In parentheses a statement is read back in any slot. -/
theorem enclosed (h : node.ReadBack .statement bound) (hrank : node.slot.rank < p.rank) :
    node.ReadBack p (bound + 1) := by
  intro next tokens hspells hends
  have hp : p ≠ .statement := by
    rintro rfl
    exact absurd hrank (Nat.not_lt_zero _)
  rw [printAt_eq, decide_eq_true hrank] at hspells
  obtain ⟨opening, rest, rfl, hopening, hrest⟩ := hspells.cons
  obtain ⟨ts, us, rfl, hts, hus⟩ := hrest.append
  obtain ⟨closing, rfl, hclosing⟩ := hus.one
  have hparen : Slot.statement.Ends .rParen := by decide
  obtain ⟨n, hn, hreads, -⟩ := h hts hparen
  have hfactor : ReadsAt next (n + 1) (opening :: (ts ++ [closing])) node .factor :=
    .parens hopening hreads hclosing
  refine ⟨n + 1, Nat.succ_le_succ hn, hfactor.loosen p.rank_le hp hends, fun _ => ?_⟩
  rintro ⟨t, ht, hloop⟩
  obtain rfl := Option.mem_some_iff.mp ht
  have hkind : opening.kind = .lParen := hopening
  rw [hloop.1] at hkind
  cases hkind

end Node.ReadBack

end

/-! ## Every regular tree -/

/-- The levels that a tree in its own slot leaves for the statement around it. -/
def Slot.slack : Slot → Nat
  | statement => 0
  | _ => 1

/-- **A tree is read back in its own slot**, with four levels for each node and less. -/
def Node.Legible (node : Node) : Prop :=
  ∀ d, ∃ bound, bound + node.slot.slack ≤ 4 * (node.rows d).length ∧ node.ReadBack node.slot bound

namespace Node.Legible

variable {node : Node}

/-- Four levels for each node are enough for a statement. -/
theorem statement (h : node.Legible) (d : Nat) :
    node.ReadBack .statement (4 * (node.rows d).length) := by
  obtain ⟨bound, hbound, hread⟩ := h d
  by_cases hslot : node.slot = .statement
  · rw [hslot] at hread
    exact hread.mono (by omega)
  · have hslack : node.slot.slack = 1 := by
      cases hslot' : node.slot with
      | statement => exact absurd hslot' hslot
      | _ => rfl
    exact (hread.statement hslot).mono (by omega)

/-- Anywhere else there may be parentheses, which take one more. -/
theorem anywhere (h : node.Legible) (d : Nat) {p : Slot} (hp : p ≠ .statement) :
    node.ReadBack p (4 * (node.rows d).length + 1) := by
  by_cases hrank : p.rank ≤ node.slot.rank
  · obtain ⟨bound, hbound, hread⟩ := h d
    exact (hread.loosen hrank hp).mono (by omega)
  · exact (h.statement d).enclosed (Nat.not_le.mp hrank)

end Node.Legible

open Node

/-- A tree of one token. -/
theorem legible_of_token {node : Node} {t : Token} (hslot : node.slot = .factor)
    (hprint : node.printAt .factor = [.own t]) (hrows : ∀ d, (node.rows d).length = 1)
    (hname : t.kind ≠ .identifier) (hreads : ∀ next, Reads next 1 [t] (.factor node)) :
    node.Legible := by
  intro d
  refine ⟨1, ?_, ?_⟩
  · rw [hslot, hrows d]
    decide
  · rw [hslot]
    intro next tokens hspells _
    rw [hprint] at hspells
    obtain ⟨t', rfl, ht⟩ := hspells.one
    obtain rfl : t' = t := ht
    refine ⟨1, Nat.le_refl _, hreads next, fun _ => ?_⟩
    rintro ⟨t, ht, hloop⟩
    obtain rfl := Option.mem_some_iff.mp ht
    exact hname hloop.1

private theorem legible_terminal {token : Token} {value : Literal} (h : token.literal? = some value) :
    (Node.terminal token value).Legible := by
  have hname : token.kind ≠ .identifier := by
    intro hkind
    have hliteral := Token.kind_of_literal? h
    rw [hkind] at hliteral
    exact absurd hliteral (by decide)
  exact legible_of_token rfl rfl (fun _ => rfl) hname fun _ => .literal h

private theorem legible_null {token : Token} (h : token.kind = .null) : (Node.null token).Legible := by
  have hname : token.kind ≠ .identifier := by
    rw [h]
    decide
  exact legible_of_token rfl rfl (fun _ => rfl) hname fun _ => .null h

/-- A row is no loop if what it starts with is none. -/
theorem not_startsLoop_append {next : Kind} {k n : Nat} {ts us : List Token} {tier : Tier}
    {node : Node} (hreads : Reads next n ts (.row tier k node)) (h : ¬ StartsLoop ts) :
    ¬ StartsLoop (ts ++ us) := by
  obtain ⟨t, ts, rfl, -⟩ := hreads.starts nofun
  exact h

private theorem legible_unary {op : Token} {operand : Node} (hop : op.kind = .plus ∨ op.kind = .minus)
    (h : operand.Legible) : (Node.unary op operand).Legible := by
  intro d
  refine ⟨4 * (operand.rows (d + 1)).length + 2, ?_, ?_⟩
  · rw [rows, List.length_cons]
    show _ + 1 ≤ _
    omega
  · intro next tokens hspells hends
    have hprint : (Node.unary op operand).printAt .factor = .own op :: operand.printAt .factor := rfl
    obtain ⟨t, ts, rfl, ht, hts⟩ := Spells.cons (hprint ▸ hspells)
    obtain rfl : t = op := ht
    obtain ⟨n, hn, hreads, -⟩ := h.anywhere (d + 1) (p := .factor) (by decide) hts hends
    refine ⟨n + 1, Nat.succ_le_succ hn, .sign hop hreads, fun _ => not_startsLoop_cons ?_⟩
    obtain hop | hop := hop <;> rw [hop] <;> decide

private theorem legible_binary {op : Token} {left right : Node}
    (hop : op.kind ∈ relational ++ additive ++ multiplicative)
    (hleft : left.Legible) (hright : right.Legible) : (Node.binary op left right).Legible := by
  intro d
  have hop' := Token.mem_operators_tier hop
  refine ⟨4 * (left.rows (d + 1)).length + 4 * (right.rows (d + 1)).length + 2, ?_, ?_⟩
  · rw [rows, List.length_cons, List.length_append]
    show _ + 1 ≤ _
    omega
  · intro next tokens hspells hends
    have hprint : (Node.binary op left right).printAt (.row op.tier) =
        left.printAt (.row op.tier) ++ .own op :: right.printAt op.tier.inner := by
      rw [printAt, decide_eq_false (Nat.lt_irrefl _)]
      rfl
    obtain ⟨ts, rest, rfl, hts, hrest⟩ := Spells.append (hprint ▸ hspells)
    obtain ⟨t, us, rfl, ht, hus⟩ := hrest.cons
    obtain rfl : t = op := ht
    obtain ⟨m, hm, ⟨k, hrow⟩, hstart⟩ :=
      hleft.anywhere (d + 1) t.tier.row_ne_statement hts (Slot.ends_of_mem_operators hop')
    obtain ⟨n, hn, hoperand, -⟩ :=
      hright.anywhere (d + 1) t.tier.inner_ne_statement hus (Slot.Ends.inner hends)
    have hk : k + 1 ≤ m := hrow.least_le
    have hrows := Reads.operator hrow hop' (hoperand.operand hends)
    refine ⟨_, ?_, ⟨k + 1, hrows⟩, fun _ => ?_⟩
    · omega
    · exact not_startsLoop_append hrow (hstart t.tier.row_ne_statement)

/-- A condition, which a question mark follows. -/
theorem Node.Legible.condition {node : Node} (h : node.Legible) (d : Nat) {tokens : List Token}
    (hspells : Spells (node.printAt (.row .relational)) tokens) :
    ∃ n ≤ 4 * (node.rows d).length + 1,
      Reads .question n tokens (.tier .relational node) ∧ ¬ StartsLoop tokens := by
  have hends : (Slot.row .relational).Ends .question := by decide
  obtain ⟨n, hn, ⟨k, hrow⟩, hstart⟩ := h.anywhere d Tier.relational.row_ne_statement hspells hends
  exact ⟨n, hn, .tier hrow (by decide), hstart Tier.relational.row_ne_statement⟩

/-- The side of a branch, which is no branch or loop by itself. -/
theorem Node.Legible.side {node : Node} (h : node.Legible) (d : Nat) {next : Kind}
    {tokens : List Token} (hspells : Spells (node.printAt (.row .relational)) tokens)
    (hends : (Slot.row .relational).Ends next) (hoperator : next ∉ relational)
    (hquestion : next ≠ .question) :
    ∃ n ≤ 4 * (node.rows d).length + 2, Reads next n tokens (.statement node) := by
  obtain ⟨n, hn, hrow, hstart⟩ := h.anywhere d Tier.relational.row_ne_statement hspells hends
  exact ⟨n + 1, Nat.succ_le_succ hn, hrow.statement hoperator hquestion
    (hstart Tier.relational.row_ne_statement)⟩

private theorem legible_oneSided {condition body : Node} (hcondition : condition.Legible)
    (hbody : body.Legible) : (Node.branch condition body (.noOp condition.token)).Legible := by
  intro d
  refine ⟨4 * (condition.rows (d + 1)).length + 4 * (body.rows (d + 1)).length + 4, ?_, ?_⟩
  · simp only [rows, List.length_cons, List.length_append, List.length_nil]
    show _ + 0 ≤ _
    omega
  · intro next tokens hspells hends
    have hprint : (Node.branch condition body (.noOp condition.token)).printAt .statement =
        condition.printAt (.row .relational) ++
          .mark .question :: (body.printAt (.row .relational) ++ []) := rfl
    obtain ⟨cs, rest, rfl, hcs, hrest⟩ := Spells.append (hprint ▸ hspells)
    obtain ⟨mark, ts, rfl, hmark, hts⟩ := hrest.cons
    rw [List.append_nil] at hts
    obtain ⟨m, hm, hreads, hstart⟩ := hcondition.condition (d + 1) hcs
    obtain ⟨hends', hoperator⟩ := hends.relational
    obtain ⟨n, hn, hreads'⟩ := hbody.side (d + 1) hts hends' hoperator hends.2.2.2.2.2.1
    have hbranch := Reads.oneSided hreads hstart hmark hreads' hends.2.2.2.2.2.2
    exact ⟨_, by omega, hbranch, fun h => absurd rfl h⟩

private theorem legible_twoSided {condition body other : Node} (hcondition : condition.Legible)
    (hbody : body.Legible) (hother : other.Legible) (hne : ∀ t, other ≠ .noOp t) :
    (Node.branch condition body other).Legible := by
  intro d
  refine ⟨4 * (condition.rows (d + 1)).length + 4 * (body.rows (d + 1)).length +
    4 * (other.rows (d + 1)).length + 4, ?_, ?_⟩
  · simp only [rows, List.length_cons, List.length_append]
    show _ + 0 ≤ _
    omega
  · intro next tokens hspells hends
    have hprint : (Node.branch condition body other).printAt .statement =
        condition.printAt (.row .relational) ++ .mark .question ::
          (body.printAt (.row .relational) ++ .mark .colon :: other.printAt .statement) := by
      cases other with
      | noOp t => exact absurd rfl (hne t)
      | _ => rfl
    obtain ⟨cs, rest, rfl, hcs, hrest⟩ := Spells.append (hprint ▸ hspells)
    obtain ⟨mark, rest, rfl, hmark, hrest⟩ := hrest.cons
    obtain ⟨ts, rest, rfl, hts, hrest⟩ := hrest.append
    obtain ⟨colon, us, rfl, hcolon, hus⟩ := hrest.cons
    obtain ⟨l, hl, hreads, hstart⟩ := hcondition.condition (d + 1) hcs
    have hcolonEnds : (Slot.row .relational).Ends .colon := by decide
    obtain ⟨m, hm, hreads'⟩ := hbody.side (d + 1) hts hcolonEnds (by decide) (by decide)
    obtain ⟨n, hn, hreads'', -⟩ := hother.statement (d + 1) hus hends
    have hbranch := Reads.twoSided hreads hstart hmark hreads' hcolon hreads''
    exact ⟨_, by omega, hbranch, fun h => absurd rfl h⟩

private theorem legible_each {token item source : Token} {body : Node} (htoken : token.IsWord "each")
    (hitem : item.kind = .identifier) (hsource : source.kind = .identifier) (hbody : body.Legible) :
    (Node.each token item source body).Legible := by
  intro d
  refine ⟨4 * (body.rows (d + 1)).length + 1, ?_, ?_⟩
  · simp only [rows, Link.rows, Link.rowsOfAll, List.length_append, List.length_cons, List.length_nil]
    show _ + 0 ≤ _
    omega
  · intro next tokens hspells hends
    have hprint : (Node.each token item source body).printAt .statement =
        .own token :: .own item :: .word "in" :: .own source :: .mark .question ::
          body.printAt .statement := rfl
    obtain ⟨t, rest, rfl, ht, hrest⟩ := Spells.cons (hprint ▸ hspells)
    obtain ⟨i, rest, rfl, hi, hrest⟩ := hrest.cons
    obtain ⟨word, rest, rfl, hword, hrest⟩ := hrest.cons
    obtain ⟨s, rest, rfl, hs, hrest⟩ := hrest.cons
    obtain ⟨mark, ts, rfl, hmark, hts⟩ := hrest.cons
    obtain rfl : t = token := ht
    obtain rfl : i = item := hi
    obtain rfl : s = source := hs
    obtain ⟨n, hn, hreads, -⟩ := hbody.statement (d + 1) hts hends
    have hloop := Reads.loop htoken hitem hword hsource hmark hreads
    exact ⟨n + 1, Nat.succ_le_succ hn, hloop, fun h => absurd rfl h⟩

/-! ### Links and arguments -/

/-- Whatever tokens spell the link, it is read off them. -/
def Link.Legible (link : Link) : Prop :=
  ∀ ⦃d next tokens⦄, Spells link.print tokens → next ≠ .lParen →
    ∃ n, n + 4 ≤ 4 * (link.rows d).length ∧ Reads next n tokens (.link link)

/-- Arguments are read off whatever tokens spell them, if each of them is. -/
theorem exists_reads_args {nodes : List Node} (h : ∀ node ∈ nodes, node.Legible) {d : Nat}
    {tokens : List Token} (hspells : Spells (Node.printArgs nodes) tokens) :
    ∃ n ≤ 4 * (Node.rowsOfAll d nodes).length, Reads .rParen n tokens (.args nodes) := by
  induction nodes generalizing tokens with
  | nil =>
    obtain rfl := Spells.nil hspells
    exact ⟨0, Nat.zero_le _, .noArgs⟩
  | cons node nodes ih =>
    obtain ⟨hnode, hnodes⟩ := List.forall_mem_cons.mp h
    cases nodes with
    | nil =>
      have hparen : Slot.statement.Ends .rParen := by decide
      obtain ⟨n, hn, hreads, -⟩ := hnode.statement d hspells hparen
      refine ⟨n, ?_, .lastArg hreads⟩
      simp only [rowsOfAll, List.append_nil]
      exact hn
    | cons node' nodes =>
      have hcomma : Slot.statement.Ends .comma := by decide
      obtain ⟨ts, rest, rfl, hts, hrest⟩ := Spells.append hspells
      obtain ⟨comma, us, rfl, hkind, hus⟩ := hrest.cons
      obtain ⟨m, hm, hreads, -⟩ := hnode.statement d hts hcomma
      obtain ⟨n, hn, hreads'⟩ := ih hnodes hus
      refine ⟨_, ?_, .comma hreads hkind hreads'⟩
      rw [rowsOfAll, List.length_append]
      omega

private theorem legible_read {token : Token} (h : token.kind = .identifier) :
    (Link.read token).Legible := by
  intro d next tokens hspells hnext
  obtain ⟨t, rfl, ht⟩ := Spells.one hspells
  obtain rfl : t = token := ht
  exact ⟨0, Nat.le_refl 4, .name h hnext⟩

private theorem legible_call {token : Token} {args : List Node} (h : token.kind = .identifier)
    (hargs : ∀ node ∈ args, node.Legible) : (Link.call token args).Legible := by
  intro d next tokens hspells _
  obtain ⟨t, rest, rfl, ht, hrest⟩ := Spells.cons hspells
  obtain ⟨opening, rest, rfl, hopening, hrest⟩ := hrest.cons
  obtain ⟨ts, us, rfl, hts, hus⟩ := hrest.append
  obtain ⟨closing, rfl, hclosing⟩ := hus.one
  obtain rfl : t = token := ht
  obtain ⟨n, hn, hreads⟩ := exists_reads_args (d := d + 1) hargs hts
  refine ⟨n, ?_, .call h hopening hreads hclosing⟩
  rw [Link.rows, List.length_cons]
  omega

/-- A link with those behind its dot is read off whatever tokens spell them, if each of them is. -/
theorem exists_reads_access {head : Link} {members : List Link}
    (h : ∀ link ∈ head :: members, link.Legible) {d : Nat} {next : Kind} {tokens : List Token}
    (hspells : Spells (head.print ++ Link.printAll members) tokens) (hparen : next ≠ .lParen)
    (hdot : next ≠ .dot) :
    ∃ n, n + 2 ≤ 4 * (head.rows d ++ Link.rowsOfAll (d + 1) members).length ∧
      Reads next n tokens (.access head members) := by
  induction members generalizing head d tokens with
  | nil =>
    obtain ⟨hhead, -⟩ := List.forall_mem_cons.mp h
    obtain ⟨ts, us, rfl, hts, hus⟩ := hspells.append
    obtain rfl := hus.nil
    obtain ⟨n, hn, hreads⟩ := hhead (d := d) hts hparen
    rw [List.append_nil]
    refine ⟨n + 1, ?_, .lastLink hreads hdot⟩
    rw [List.length_append]
    omega
  | cons member members ih =>
    obtain ⟨hhead, hmembers⟩ := List.forall_mem_cons.mp h
    obtain ⟨ts, rest, rfl, hts, hrest⟩ := hspells.append
    obtain ⟨dot, us, rfl, hkind, hus⟩ := hrest.cons
    obtain ⟨m, hm, hreads⟩ := hhead (d := d) hts (show Kind.dot ≠ .lParen from nofun)
    obtain ⟨n, hn, hreads'⟩ := ih (d := d + 1) hmembers hus
    refine ⟨_, ?_, .dot hreads hkind hreads'⟩
    rw [List.length_append, Link.rowsOfAll]
    omega

private theorem Spells.starts_of_access {head : Link} {pieces : List Piece} {tokens : List Token}
    (h : Spells (head.print ++ pieces) tokens) : ∃ ts, tokens = head.token :: ts := by
  cases head with
  | bare t | read t | call t =>
    obtain ⟨t', ts, rfl, ht, -⟩ := Spells.cons h
    obtain rfl : t' = t := ht
    exact ⟨ts, rfl⟩

/-- An access of legible links, unless its first name is the word that starts a loop. -/
private theorem legible_access {head : Link} {members : List Link}
    (h : ∀ link ∈ head :: members, link.Legible) (hword : ¬ head.token.IsWord "each") :
    (Node.access head members).Legible := by
  intro d
  refine ⟨4 * ((Node.access head members).rows d).length - 1, ?_, ?_⟩
  · have hpos : 0 < ((Node.access head members).rows d).length := by
      rw [rows_eq, List.length_cons]
      exact Nat.succ_pos _
    show _ + 1 ≤ _
    omega
  · intro next tokens hspells hends
    obtain ⟨n, hn, hreads⟩ := exists_reads_access (d := d) h hspells hends.1 hends.2
    refine ⟨n + 1, ?_, .reference hreads, fun _ => ?_⟩
    · rw [rows]
      omega
    · obtain ⟨ts, rfl⟩ := Spells.starts_of_access hspells
      rintro ⟨t', ht', hloop⟩
      obtain rfl := Option.mem_some_iff.mp ht'
      exact hword hloop

/-- The other side of a regular branch is missing or regular. -/
theorem Node.Regular.of_branch {condition thenBody elseBody : Node}
    (h : (Node.branch condition thenBody elseBody).Regular) :
    condition.Regular ∧ thenBody.Regular ∧
      (elseBody = .noOp condition.token ∨ elseBody.Regular ∧ ∀ t, elseBody ≠ .noOp t) := by
  cases elseBody with
  | noOp token =>
    obtain ⟨hcondition, hthen, htoken⟩ := h
    exact ⟨hcondition, hthen, .inl (congrArg Node.noOp htoken)⟩
  | _ =>
    obtain ⟨hcondition, hthen, helse⟩ := h
    exact ⟨hcondition, hthen, .inr ⟨helse, nofun⟩⟩

mutual
/-- **Regular trees are read back.** -/
theorem Node.Regular.legible : {node : Node} → node.Regular → node.Legible
  | .terminal _ _, h => legible_terminal h
  | .null _, h => legible_null h
  | .access head members, ⟨hword, hhead, hmembers⟩ =>
    legible_access (List.forall_mem_cons.mpr ⟨hhead.legible, Link.AllRegular.legible hmembers⟩) hword
  | .binary op left right, ⟨hop, hleft, hright⟩ => legible_binary hop hleft.legible hright.legible
  | .unary op operand, ⟨hop, hoperand⟩ => legible_unary hop hoperand.legible
  | .branch condition thenBody elseBody, h => by
    obtain ⟨hcondition, hthen, helse | ⟨helse, hne⟩⟩ := h.of_branch
    · exact helse ▸ legible_oneSided hcondition.legible hthen.legible
    · exact legible_twoSided hcondition.legible hthen.legible helse.legible hne
  | .each token _ _ body, ⟨htoken, ⟨item, rfl, hitem⟩, ⟨source, rfl, hsource⟩, hbody⟩ =>
    legible_each htoken hitem hsource hbody.legible

private theorem Node.AllRegular.legible :
    {nodes : List Node} → Node.AllRegular nodes → ∀ node ∈ nodes, node.Legible
  | [], _ => List.forall_mem_nil _
  | _ :: _, ⟨hnode, hnodes⟩ =>
    List.forall_mem_cons.mpr ⟨hnode.legible, Node.AllRegular.legible hnodes⟩

private theorem Link.Regular.legible : {link : Link} → link.Regular → link.Legible
  | .read _, h => legible_read h
  | .call _ _, ⟨h, hargs⟩ => legible_call h (Node.AllRegular.legible hargs)

private theorem Link.AllRegular.legible :
    {links : List Link} → Link.AllRegular links → ∀ link ∈ links, link.Legible
  | [], _ => List.forall_mem_nil _
  | _ :: _, ⟨hlink, hlinks⟩ =>
    List.forall_mem_cons.mpr ⟨hlink.legible, Link.AllRegular.legible hlinks⟩
end

/-! ## Reading what was printed -/

/-- **Reading undoes printing.** Whatever tokens spell a regular tree, that very tree is read off them,
or there are not enough levels for it; for 64 nodes there are. -/
theorem Node.ofSupply_of_spells {node : Node} {tokens : List Token} (hregular : node.Regular)
    (hspells : Spells (node.printAt .statement) tokens) :
    (ofSupply .program (.ofTokens tokens) = .ok node ∨
      ∃ found, ofSupply .program (.ofTokens tokens) = .error (.grammatical ⟨found, .fewerLevels⟩)) ∧
    ((node.rows 0).length ≤ 64 → ofSupply .program (.ofTokens tokens) = .ok node) := by
  have hend : Slot.statement.Ends .eof := by decide
  obtain ⟨n, hn, hreads, -⟩ := hregular.legible.statement 0 hspells hend
  have hends := Token.Supply.ends_ofTokens tokens
  have hread : Reads .eof n (Token.Supply.ofTokens tokens).significant (.statement node) := by
    rw [hreads.significant_ofTokens]
    exact hreads
  have hok (hlevels : n ≤ maxDepth) : ofSupply .program (.ofTokens tokens) = .ok node :=
    ofSupply_program_eq_ok.mpr ⟨hends, n, hlevels, hread⟩
  constructor
  · by_cases hlevels : n ≤ maxDepth
    · exact .inl (hok hlevels)
    · exact .inr (ofSupply_program_of_tooDeep hends hread (Nat.not_le.mp hlevels))
  · intro hsize
    -- four levels for each of the 64 nodes are all that there are
    have hmax : maxDepth = 4 * 64 := rfl
    exact hok (by omega)

/-- The sum in `(1+2)*x` needs its parentheses, and is read back with them. -/
theorem Node.ofSupply_product_of_sum :
    let sum : Node := .binary ⟨.plus, "+", 2⟩ (.terminal ⟨.integerConst, "1", 1⟩ (.int 1))
      (.terminal ⟨.integerConst, "2", 3⟩ (.int 2))
    let product : Node := .binary ⟨.mul, "*", 5⟩ sum (.access (.read ⟨.identifier, "x", 6⟩) [])
    let tokens : List Token := [⟨.lParen, "(", 0⟩, ⟨.integerConst, "1", 1⟩, ⟨.plus, "+", 2⟩,
      ⟨.integerConst, "2", 3⟩, ⟨.rParen, ")", 4⟩, ⟨.mul, "*", 5⟩, ⟨.identifier, "x", 6⟩]
    product.Regular ∧ Spells (product.printAt .statement) tokens ∧
      ofSupply .program (.ofTokens tokens) = .ok product := by
  intro sum product tokens
  have hregular : product.Regular := by
    refine ⟨by decide, ⟨by decide, ?_, ?_⟩, by decide, rfl, trivial⟩ <;> rfl
  have hspells : Spells (product.printAt .statement) tokens := by
    repeat' constructor
  exact ⟨hregular, hspells, (ofSupply_of_spells hregular hspells).2 (by decide)⟩

end Stencil
