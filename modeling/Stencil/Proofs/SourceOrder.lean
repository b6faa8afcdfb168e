import Stencil.Proofs.Printing
import Stencil.Proofs.Reading.Template

/-!
# The tokens of a tree

A tree that is read holds the tokens of the text in their order (`Node.sourceOrder`), but for those that
only give the text its form: blanks, parentheses, braces, commas, dots, question marks, colons and the
word for "not" (`Token.lasting`). No token gets lost on the way, none is there twice and none has changed
places (`Node.spells_of_ofSupply`). The one token that a tree does not hold and that is still more than
form is the `in` of a loop, of which it is known where it stands.
-/

namespace Stencil

/-! ## Tokens that last -/

namespace Token

/-- The kinds of the tokens that leave no trace in a tree. -/
def passing : List Kind :=
  [.whitespace, .lParen, .rParen, .lBrace, .rBrace, .comma, .dot, .question, .colon, .not, .eof]

/-- The tokens that are there in a tree. -/
def lasting (tokens : List Token) : List Token := tokens.filter fun t => decide (t.kind ∉ passing)

variable {t : Token} {ts us : List Token}

private theorem lasting_append : lasting (ts ++ us) = lasting ts ++ lasting us := List.filter_append _ _

private theorem lasting_cons (h : t.kind ∉ passing) : lasting (t :: ts) = t :: lasting ts :=
  List.filter_cons_of_pos (decide_eq_true h)

private theorem lasting_of_passing (h : t.kind ∈ passing) : lasting (t :: ts) = lasting ts :=
  List.filter_cons_of_neg (by rw [decide_eq_true_iff]; exact fun hn => hn h)

private theorem lasting_eq_nil : lasting ts = [] ↔ ∀ t ∈ ts, t.kind ∈ passing := by
  simp only [lasting, List.filter_eq_nil_iff, decide_eq_true_iff, Classical.not_not]

/-- Blanks do not last. -/
theorem lasting_solid (ts : List Token) : lasting (solid ts) = lasting ts := by
  unfold lasting solid
  rw [List.filter_filter]
  refine List.filter_congr fun t _ => ?_
  rw [Bool.and_eq_left_iff_imp, decide_eq_true_iff, decide_eq_true_iff]
  exact fun h hblank => h (hblank ▸ by decide)

end Token

/-! ## The order of the source -/

open Piece in
mutual
/-- **What a tree holds, in the order of the text.** An operator stands between its operands, a missing
side of a branch is nothing, and the word in the middle of a loop is known by its text alone. -/
def Node.sourceOrder : Node → List Piece
  | .template _ children => Node.sourceOrderOfAll children
  | .terminal token _ | .null token => [own token]
  | .noOp _ => []
  | .access head members => head.sourceOrder ++ Link.sourceOrderOfAll members
  | .binary op left right => left.sourceOrder ++ own op :: right.sourceOrder
  | .unary op operand => own op :: operand.sourceOrder
  | .branch condition thenBody elseBody =>
    condition.sourceOrder ++ (thenBody.sourceOrder ++ elseBody.sourceOrder)
  | .each token item source body =>
    own token :: (item.sourceOrder ++ word "in" :: (source.sourceOrder ++ body.sourceOrder))
/-- Nodes one after the other. -/
def Node.sourceOrderOfAll : List Node → List Piece
  | [] => []
  | node :: nodes => node.sourceOrder ++ Node.sourceOrderOfAll nodes
/-- The name of a link, and the arguments of a call. -/
def Link.sourceOrder : Link → List Piece
  | .bare token | .read token => [own token]
  | .call token args => own token :: Node.sourceOrderOfAll args
/-- Links one after the other. -/
def Link.sourceOrderOfAll : List Link → List Piece
  | [] => []
  | link :: links => link.sourceOrder ++ Link.sourceOrderOfAll links
end

/-- What is made of a phrase, in the order of the text. -/
def Phrase.sourceOrder : Phrase → List Piece
  | .statement node | .row _ _ node | .tier _ node | .factor node => node.sourceOrder
  | .link l => l.sourceOrder
  | .access head members => (Node.access head members).sourceOrder
  | .args nodes => Node.sourceOrderOfAll nodes

/-! ## Derivations -/

open Stencil.Parser

namespace Spells

variable {pieces more : List Piece} {t : Token} {ts us : List Token} {kind : Kind}

/-- Nothing spells nothing. -/
theorem none : Spells [] (Token.lasting []) := List.Forall₂.nil

/-- Pieces one after the other are spelled one after the other. -/
theorem trans (h : Spells pieces (Token.lasting ts)) (h' : Spells more (Token.lasting us)) :
    Spells (pieces ++ more) (Token.lasting (ts ++ us)) := by
  rw [Token.lasting_append]
  exact List.rel_append h h'

/-- A token that lasts spells itself. -/
theorem own (hlasts : t.kind ∉ Token.passing) (h : Spells pieces (Token.lasting ts)) :
    Spells (.own t :: pieces) (Token.lasting (t :: ts)) := by
  rw [Token.lasting_cons hlasts]
  exact List.Forall₂.cons rfl h

/-- A word spells what is known by its text. -/
theorem word {text : String} (hword : t.IsWord text) (h : Spells pieces (Token.lasting ts)) :
    Spells (.word text :: pieces) (Token.lasting (t :: ts)) := by
  rw [Token.lasting_cons (by rw [hword.1]; decide)]
  exact List.Forall₂.cons hword h

/-- A token that does not last spells nothing. -/
theorem form (hkind : t.kind = kind) (h : Spells pieces (Token.lasting ts))
    (hpasses : kind ∈ Token.passing := by decide) : Spells pieces (Token.lasting (t :: ts)) := by
  rwa [Token.lasting_of_passing (hkind ▸ hpasses)]

/-- Nor does it at the end. -/
theorem closed (hkind : t.kind = kind) (h : Spells pieces (Token.lasting ts))
    (hpasses : kind ∈ Token.passing := by decide) :
    Spells pieces (Token.lasting (ts ++ [t])) := by
  rw [← List.append_nil pieces]
  exact h.trans (none.form hkind hpasses)

end Spells

namespace Token

variable {t : Token}

private theorem lasts_of_kind {kind : Kind} (hkind : t.kind = kind) (h : kind ∉ passing := by decide) :
    t.kind ∉ passing :=
  hkind ▸ h

private theorem lasts_of_literal? {value : Literal} (h : t.literal? = some value) :
    t.kind ∉ passing := by
  have hkind := kind_of_literal? h
  revert hkind
  cases t.kind <;> decide

/-- An operator lasts. -/
theorem lasts_of_mem_operators {tier : Tier} (h : t.kind ∈ tier.operators) : t.kind ∉ passing := by
  revert h
  cases tier <;> cases t.kind <;> decide

end Token

private theorem Tier.sourceOrder_operand (tier : Tier) (node : Node) :
    (tier.operand node).sourceOrder = node.sourceOrder := by
  cases tier <;> rfl

/-- **The tokens that a phrase is derived from are what it holds**, as far as they last. -/
theorem Parser.Reads.spells {next : Kind} {n : Nat} {tokens : List Token} {phrase : Phrase}
    (h : Reads next n tokens phrase) : Spells phrase.sourceOrder (Token.lasting tokens) := by
  induction h with
  | loop heach hitem hword hsource hmark _ ih =>
    have hbody := Spells.own (Token.lasts_of_kind hsource) (ih.form hmark)
    exact .own (Token.lasts_of_kind heach.1) (.own (Token.lasts_of_kind hitem) (.word hword hbody))
  | plain _ _ _ ih => exact ih
  | @oneSided _ _ _ _ _ _ condition body _ _ hmark _ _ ih ih' =>
    show Spells (condition.sourceOrder ++ (body.sourceOrder ++ [])) _
    rw [List.append_nil]
    exact ih.trans (ih'.form hmark)
  | twoSided _ _ hmark _ hcolon _ ih ih' ih'' =>
    exact ih.trans ((ih'.trans (ih''.form hcolon)).form hmark)
  | operand _ ih =>
    rw [Tier.sourceOrder_operand] at ih
    exact ih
  | operator _ hop _ ih ih' =>
    rw [Tier.sourceOrder_operand] at ih'
    exact ih.trans (ih'.own (Token.lasts_of_mem_operators hop))
  | tier _ _ ih => exact ih
  | literal hvalue => exact Spells.none.own (Token.lasts_of_literal? hvalue)
  | null hkind => exact Spells.none.own (Token.lasts_of_kind hkind)
  | sign hkind _ ih =>
    obtain hkind | hkind := hkind <;> exact ih.own (Token.lasts_of_kind hkind)
  | not hkind _ ih => exact ih.form hkind
  | parens hopening _ hclosing ih => exact (ih.closed hclosing).form hopening
  | reference _ ih => exact ih
  | name hkind => exact Spells.none.own (Token.lasts_of_kind hkind)
  | call hkind hopening _ hclosing ih =>
    exact ((ih.closed hclosing).form hopening).own (Token.lasts_of_kind hkind)
  | @lastLink _ _ _ head _ _ ih =>
    show Spells (head.sourceOrder ++ []) _
    rwa [List.append_nil]
  | dot _ hdot _ ih ih' => exact ih.trans (ih'.form hdot)
  | noArgs => exact .none
  | @lastArg _ _ arg _ ih =>
    show Spells (arg.sourceOrder ++ []) _
    rwa [List.append_nil]
  | comma _ hcomma _ ih ih' => exact ih.trans (ih'.form hcomma)

/-- So it is with the fragments of a template. -/
theorem Parser.ReadsFragments.spells {tokens : List Token} {nodes : List Node}
    (h : ReadsFragments tokens nodes) :
    Spells (Node.sourceOrderOfAll nodes) (Token.lasting tokens) := by
  induction h with
  | nil => exact .none
  | text htext _ ih => exact ih.own (Token.lasts_of_kind htext)
  | program hopening _ hreads hclosing _ ih =>
    have hbody := hreads.spells
    rw [Token.lasting_solid] at hbody
    exact .form hopening (hbody.trans (ih.form hclosing))

/-! ## Whole texts -/

/-- **A tree that is read holds the tokens of the text, each once and in their order**, but for those that
only give the text its form. The text ends with the first token for the end: all tokens of a supply
are there in the tree exactly if none that would last stands behind it. -/
theorem Node.spells_of_ofSupply {mode : Mode} {supply : Token.Supply} {node : Node}
    (h : ofSupply mode supply = .ok node) :
    Spells node.sourceOrder (Token.lasting supply.front) ∧
      (Spells node.sourceOrder (Token.lasting supply.ahead) ↔
        ∀ t ∈ supply.ahead.drop supply.front.length, t.kind ∈ Token.passing) := by
  have hfront : Spells node.sourceOrder (Token.lasting supply.front) := by
    cases mode with
    | program =>
      obtain ⟨-, n, -, hreads⟩ := ofSupply_program_eq_ok.mp h
      rw [← Token.lasting_solid]
      exact hreads.spells
    | text =>
      obtain ⟨-, token, nodes, -, hreads, rfl⟩ := ofSupply_text_eq_ok.mp h
      exact hreads.spells
  refine ⟨hfront, ?_⟩
  have hsplit : supply.ahead = supply.front ++ supply.ahead.drop supply.front.length :=
    (List.prefix_iff_eq_append.mp (List.takeWhile_prefix _)).symm
  generalize supply.ahead.drop supply.front.length = behind at hsplit
  rw [hsplit, Token.lasting_append, ← Token.lasting_eq_nil]
  constructor
  · intro hall
    have hlength := hfront.length_eq.symm.trans hall.length_eq
    rw [List.length_append] at hlength
    exact List.eq_nil_of_length_eq_zero (by omega)
  · intro hnone
    rwa [hnone, List.append_nil]

/-- Of a loop and the call in its body the question mark, the word for "not" and the parentheses are left
out. -/
theorem Node.exists_spells_loop :
    let name (offset : Nat) (text : String) : Token := ⟨.identifier, text, offset⟩
    let tokens : List Token := [name 0 "each", name 5 "x", name 7 "in", name 10 "xs",
      ⟨.question, "?", 13⟩, ⟨.not, "!", 15⟩, name 16 "f", ⟨.lParen, "(", 17⟩, name 18 "x",
      ⟨.rParen, ")", 19⟩]
    ∃ node, ofSupply .program (.ofTokens tokens) = .ok node ∧
      Spells node.sourceOrder
        [name 0 "each", name 5 "x", name 7 "in", name 10 "xs", name 16 "f", name 18 "x"] := by
  intro name tokens
  have hok : (ofSupply .program (.ofTokens tokens)).isOk = true := by decide +kernel
  cases h : ofSupply .program (.ofTokens tokens) with
  | error e =>
    rw [h] at hok
    cases hok
  | ok node => exact ⟨node, rfl, (spells_of_ofSupply h).1⟩

end Stencil
