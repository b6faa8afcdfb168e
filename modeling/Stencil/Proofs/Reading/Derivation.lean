import Stencil.Tree.Parser

/-!
# Derivations of trees

How the significant tokens of a text make a tree, as an inductive relation between tokens and
**phrases**. A phrase is what one of the functions of the reader is after, with what it answers. A
derivation also says with which kind of token the text goes on (`next`), since that is what tells a
reader where a phrase ends, and how many levels are entered at most while the phrase is read.

The relation decides nothing by itself. `sound_readers` and `complete_readers` say that it holds of
exactly what the reader reads; whatever is claimed of trees and their texts is proved by induction
on it.
-/

namespace Stencil

namespace Token

/-- The token is this name. -/
def IsWord (t : Token) (word : String) : Prop := t.kind = .identifier ∧ t.text = word

instance (t : Token) (word : String) : Decidable (t.IsWord word) :=
  inferInstanceAs (Decidable (_ ∧ _))

/-- The value that a token stands for by itself. -/
def literal? (t : Token) : Option Literal :=
  match t.kind with
  | .integerConst => (Integer.read? t.text.toList).map .int
  | .realConst => (Real.read? t.text.toList).map .real
  | .textLiteral => some (.text t.text)
  | .true => some (.bool true)
  | .false => some (.bool false)
  | _ => none

/-- The token may stand in a program, where it is no blank. -/
def InsideProgram (t : Token) : Prop := t.kind ∉ [Kind.eof, .whitespace, .lBrace, .rBrace]

/-- A token is inside a program unless it is of one of four kinds. -/
private theorem InsideProgram.of_kind {t : Token} {kind : Kind} (hkind : t.kind = kind)
    (h : kind ∉ [Kind.eof, .whitespace, .lBrace, .rBrace] := by decide) : t.InsideProgram := by
  rw [InsideProgram, hkind]
  exact h

/-- Inside a program there is no end of the text. -/
theorem InsideProgram.not_eof {t : Token} (h : t.InsideProgram) : t.kind ≠ .eof :=
  fun hkind => h (hkind ▸ List.mem_cons_self)

/-- And no blank is counted. -/
theorem InsideProgram.not_blank {t : Token} (h : t.InsideProgram) : t.kind ≠ .whitespace :=
  fun hkind => h (hkind ▸ List.mem_cons_of_mem _ List.mem_cons_self)

/-- Only tokens of these kinds stand for values. -/
theorem kind_of_literal? {t : Token} {value : Literal} (h : t.literal? = some value) :
    t.kind ∈ [Kind.integerConst, .realConst, .textLiteral, .true, .false] := by
  unfold literal? at h
  cases hkind : t.kind <;> simp only [hkind, reduceCtorEq] at h <;> decide

end Token

/-- The tiers of operators, from the loosest to the tightest. -/
inductive Tier where
  | relational | additive | multiplicative
deriving DecidableEq, Repr

/-- The operators of a tier. -/
def Tier.operators : Tier → List Kind
  | relational => Parser.relational
  | additive => Parser.additive
  | multiplicative => Parser.multiplicative

/-- What is read, with what is made of it. -/
inductive Phrase where
  | statement (node : Node)
  /-- Operands of a tier with its operators between them, which the text may go on with. -/
  | row (tier : Tier) (operators : Nat) (node : Node)
  /-- As many operands of a tier as there are in a row. -/
  | tier (tier : Tier) (node : Node)
  | factor (node : Node)
  /-- A link by itself. -/
  | link (link : Link)
  /-- A link and those behind its dot. -/
  | access (head : Link) (members : List Link)
  /-- The arguments of a call. -/
  | args (nodes : List Node)

/-- An operand of a tier is a row of the next one, and a factor in the end. -/
def Tier.operand : Tier → Node → Phrase
  | relational => .tier .additive
  | additive => .tier .multiplicative
  | multiplicative => .factor

namespace Phrase

/-- The levels that a phrase enters by itself. In a row each operator lies on one of its own, and the
operand behind it on another. -/
def least : Phrase → Nat
  | statement _ | tier _ _ | factor _ | access _ _ => 1
  | row _ operators _ => operators + 1
  | link _ | args _ => 0

private theorem one_le_least_operand (t : Tier) (node : Node) : 1 ≤ (t.operand node).least := by
  cases t <;> exact Nat.le_refl 1

end Phrase

/-- The node is a plain name, with nothing behind a dot. -/
def Node.IsName (node : Node) : Prop := ∃ token : Token, node = .name token ∧ token.kind = .identifier

namespace Parser

/-- Do the tokens start with the word that starts a loop? -/
def StartsLoop (tokens : List Token) : Prop := ∃ t ∈ tokens.head?, t.IsWord "each"

/-- Only a name starts a loop. -/
theorem not_startsLoop_cons {t : Token} {ts : List Token} (h : t.kind ≠ .identifier) :
    ¬ StartsLoop (t :: ts) := by
  rintro ⟨t', ht, hloop⟩
  obtain rfl := Option.mem_some_iff.mp ht
  exact h hloop.1

/-- **Significant tokens make a phrase.** `Reads next levels tokens phrase`: in front of a token of the
kind `next` the tokens make the phrase, and at most so many levels are entered on the way. -/
inductive Reads : Kind → Nat → List Token → Phrase → Prop
  | loop {next : Kind} {n : Nat} {ts : List Token} {each item word source mark : Token} {body : Node} :
      each.IsWord "each" → item.kind = .identifier → word.IsWord "in" → source.kind = .identifier →
      mark.kind = .question → Reads next n ts (.statement body) →
      Reads next (n + 1) (each :: item :: word :: source :: mark :: ts)
        (.statement (.each each item source body))
  | plain {next : Kind} {n : Nat} {ts : List Token} {node : Node} :
      Reads next n ts (.tier .relational node) → ¬ StartsLoop ts → next ≠ .question →
      Reads next (n + 1) ts (.statement node)
  | oneSided {next : Kind} {m n : Nat} {cs ts : List Token} {mark : Token} {condition body : Node} :
      Reads .question m cs (.tier .relational condition) → ¬ StartsLoop cs → mark.kind = .question →
      Reads next n ts (.statement body) → next ≠ .colon →
      Reads next (max m n + 1) (cs ++ mark :: ts) (.statement (.ifThen condition body none))
  | twoSided {next : Kind} {l m n : Nat} {cs ts us : List Token} {mark colon : Token}
      {condition body other : Node} :
      Reads .question l cs (.tier .relational condition) → ¬ StartsLoop cs → mark.kind = .question →
      Reads .colon m ts (.statement body) → colon.kind = .colon →
      Reads next n us (.statement other) →
      Reads next (max l (max m n) + 1) (cs ++ mark :: (ts ++ colon :: us))
        (.statement (.ifThen condition body (some other)))
  | operand {next : Kind} {n : Nat} {ts : List Token} {tier : Tier} {node : Node} :
      Reads next n ts (tier.operand node) → Reads next n ts (.row tier 0 node)
  /-- An operator in a row lies as many levels deep as there are before it, and one more. -/
  | operator {next : Kind} {k m n : Nat} {ts us : List Token} {op : Token} {tier : Tier}
      {left right : Node} :
      Reads op.kind m ts (.row tier k left) → op.kind ∈ tier.operators →
      Reads next n us (tier.operand right) →
      Reads next (max m (k + 1 + n)) (ts ++ op :: us) (.row tier (k + 1) (.binary op left right))
  | tier {next : Kind} {k n : Nat} {ts : List Token} {tier : Tier} {node : Node} :
      Reads next n ts (.row tier k node) → next ∉ tier.operators → Reads next n ts (.tier tier node)
  | literal {next : Kind} {t : Token} {value : Literal} :
      t.literal? = some value → Reads next 1 [t] (.factor (.terminal t value))
  | null {next : Kind} {t : Token} : t.kind = .null → Reads next 1 [t] (.factor (.null t))
  | sign {next : Kind} {n : Nat} {ts : List Token} {op : Token} {node : Node} :
      op.kind = .plus ∨ op.kind = .minus → Reads next n ts (.factor node) →
      Reads next (n + 1) (op :: ts) (.factor (.unary op node))
  | not {next : Kind} {n : Nat} {ts : List Token} {t : Token} {node : Node} :
      t.kind = .not → Reads next n ts (.factor node) → Reads next (n + 1) (t :: ts) (.factor node)
  | parens {next : Kind} {n : Nat} {ts : List Token} {opening closing : Token} {node : Node} :
      opening.kind = .lParen → Reads .rParen n ts (.statement node) → closing.kind = .rParen →
      Reads next (n + 1) (opening :: (ts ++ [closing])) (.factor node)
  | reference {next : Kind} {n : Nat} {ts : List Token} {head : Link} {members : List Link} :
      Reads next n ts (.access head members) → Reads next (n + 1) ts (.factor (.access head members))
  | name {next : Kind} {t : Token} :
      t.kind = .identifier → next ≠ .lParen → Reads next 0 [t] (.link (.read t))
  | call {next : Kind} {n : Nat} {ts : List Token} {t opening closing : Token} {args : List Node} :
      t.kind = .identifier → opening.kind = .lParen → Reads .rParen n ts (.args args) →
      closing.kind = .rParen →
      Reads next n (t :: opening :: (ts ++ [closing])) (.link (.call t args))
  | lastLink {next : Kind} {n : Nat} {ts : List Token} {head : Link} :
      Reads next n ts (.link head) → next ≠ .dot → Reads next (n + 1) ts (.access head [])
  | dot {next : Kind} {m n : Nat} {ts us : List Token} {dot : Token} {head member : Link}
      {members : List Link} :
      Reads .dot m ts (.link head) → dot.kind = .dot → Reads next n us (.access member members) →
      Reads next (max m n + 1) (ts ++ dot :: us) (.access head (member :: members))
  | noArgs : Reads .rParen 0 [] (.args [])
  | lastArg {n : Nat} {ts : List Token} {arg : Node} :
      Reads .rParen n ts (.statement arg) → Reads .rParen n ts (.args [arg])
  /-- Behind a comma there may be no argument any more. -/
  | comma {m n : Nat} {ts us : List Token} {comma : Token} {arg : Node} {args : List Node} :
      Reads .comma m ts (.statement arg) → comma.kind = .comma → Reads .rParen n us (.args args) →
      Reads .rParen (max m n) (ts ++ comma :: us) (.args (arg :: args))

namespace Reads

variable {next : Kind} {n : Nat} {tokens : List Token}

/-- Whatever is read starts with a token that closes no parenthesis, arguments apart. -/
theorem starts {phrase : Phrase} (h : Reads next n tokens phrase)
    (hphrase : ∀ nodes, phrase ≠ .args nodes) : ∃ t us, tokens = t :: us ∧ t.kind ≠ .rParen := by
  induction h with
  | loop heach => exact ⟨_, _, rfl, by rw [heach.1]; decide⟩
  | plain _ _ _ ih => exact ih nofun
  | oneSided _ _ _ _ _ ih =>
    obtain ⟨t, us, rfl, ht⟩ := ih nofun
    exact ⟨t, _, rfl, ht⟩
  | twoSided _ _ _ _ _ _ ih =>
    obtain ⟨t, us, rfl, ht⟩ := ih nofun
    exact ⟨t, _, rfl, ht⟩
  | @operand _ _ _ tier _ _ ih => exact ih (by cases tier <;> exact nofun)
  | operator _ _ _ ih =>
    obtain ⟨t, us, rfl, ht⟩ := ih nofun
    exact ⟨t, _, rfl, ht⟩
  | tier _ _ ih => exact ih nofun
  | @literal _ t _ hvalue =>
    have hkind := Token.kind_of_literal? hvalue
    exact ⟨t, [], rfl, fun h => by rw [h] at hkind; revert hkind; decide⟩
  | null hkind => exact ⟨_, _, rfl, by rw [hkind]; decide⟩
  | sign hkind => exact ⟨_, _, rfl, by rcases hkind with hkind | hkind <;> rw [hkind] <;> decide⟩
  | not hkind => exact ⟨_, _, rfl, by rw [hkind]; decide⟩
  | parens hkind => exact ⟨_, _, rfl, by rw [hkind]; decide⟩
  | reference _ ih => exact ih nofun
  | name hkind => exact ⟨_, _, rfl, by rw [hkind]; decide⟩
  | call hkind => exact ⟨_, _, rfl, by rw [hkind]; decide⟩
  | lastLink _ _ ih => exact ih nofun
  | dot _ _ _ ih =>
    obtain ⟨t, us, rfl, ht⟩ := ih nofun
    exact ⟨t, _, rfl, ht⟩
  | noArgs => exact absurd rfl (hphrase [])
  | lastArg => exact absurd rfl (hphrase _)
  | comma => exact absurd rfl (hphrase _)

/-- No derivation uses a token that ends the text, is a blank or opens or closes a program. -/
theorem insideProgram {phrase : Phrase} (h : Reads next n tokens phrase) :
    ∀ t ∈ tokens, t.InsideProgram := by
  induction h with
  | loop heach hitem hword hsource hmark _ ih =>
    simp only [List.forall_mem_cons]
    exact ⟨.of_kind heach.1, .of_kind hitem, .of_kind hword.1, .of_kind hsource, .of_kind hmark, ih⟩
  | plain _ _ _ ih => exact ih
  | oneSided _ _ hmark _ _ ih ih' =>
    simp only [List.forall_mem_append, List.forall_mem_cons]
    exact ⟨ih, .of_kind hmark, ih'⟩
  | twoSided _ _ hmark _ hcolon _ ih ih' ih'' =>
    simp only [List.forall_mem_append, List.forall_mem_cons]
    exact ⟨ih, .of_kind hmark, ih', .of_kind hcolon, ih''⟩
  | operand _ ih => exact ih
  | @operator _ _ _ _ _ _ op tier _ _ _ hop _ ih ih' =>
    simp only [List.forall_mem_append, List.forall_mem_cons]
    refine ⟨ih, ?_, ih'⟩
    -- no operator of any tier is among the four kinds
    unfold Token.InsideProgram
    revert hop
    cases op.kind <;> cases tier <;> decide
  | tier _ _ ih => exact ih
  | @literal _ t _ hvalue =>
    have hkind := Token.kind_of_literal? hvalue
    rw [List.forall_mem_singleton, Token.InsideProgram]
    revert hkind
    cases t.kind <;> decide
  | null hkind => exact List.forall_mem_singleton.mpr (.of_kind hkind)
  | sign hkind _ ih =>
    refine List.forall_mem_cons.mpr ⟨?_, ih⟩
    obtain hkind | hkind := hkind <;> exact .of_kind hkind
  | not hkind _ ih => exact List.forall_mem_cons.mpr ⟨.of_kind hkind, ih⟩
  | parens hopening _ hclosing ih =>
    simp only [List.forall_mem_cons, List.forall_mem_append]
    exact ⟨.of_kind hopening, ih, .of_kind hclosing, List.forall_mem_nil _⟩
  | reference _ ih => exact ih
  | name hkind => exact List.forall_mem_singleton.mpr (.of_kind hkind)
  | call hkind hopening _ hclosing ih =>
    simp only [List.forall_mem_cons, List.forall_mem_append]
    exact ⟨.of_kind hkind, .of_kind hopening, ih, .of_kind hclosing, List.forall_mem_nil _⟩
  | lastLink _ _ ih => exact ih
  | dot _ hdot _ ih ih' =>
    simp only [List.forall_mem_append, List.forall_mem_cons]
    exact ⟨ih, .of_kind hdot, ih'⟩
  | noArgs => exact List.forall_mem_nil _
  | lastArg _ ih => exact ih
  | comma _ hcomma _ ih ih' =>
    simp only [List.forall_mem_append, List.forall_mem_cons]
    exact ⟨ih, .of_kind hcomma, ih'⟩

/-- A link starts with its name. -/
theorem access_starts {head : Link} {members : List Link}
    (h : Reads next n tokens (.access head members)) :
    ∃ t us, tokens = t :: us ∧ t.kind = .identifier := by
  have hlink {next : Kind} {n : Nat} {ts : List Token} (h : Reads next n ts (.link head)) :
      ∃ t us, ts = t :: us ∧ t.kind = .identifier := by
    cases h with
    | name hkind => exact ⟨_, _, rfl, hkind⟩
    | call hkind => exact ⟨_, _, rfl, hkind⟩
  cases h with
  | lastLink hhead => exact hlink hhead
  | dot hhead =>
    obtain ⟨t, us, rfl, ht⟩ := hlink hhead
    exact ⟨t, _, rfl, ht⟩

/-- Every argument takes a token at least. -/
theorem length_args_le {args : List Node} (h : Reads next n tokens (.args args)) :
    args.length ≤ tokens.length := by
  induction args generalizing next n tokens with
  | nil => exact Nat.zero_le _
  | cons arg args ih =>
    cases h with
    | lastArg harg =>
      obtain ⟨t, us, rfl, -⟩ := harg.starts nofun
      exact Nat.succ_le_succ (Nat.zero_le _)
    | comma harg _ hargs =>
      have hlength := ih hargs
      rw [List.length_append, List.length_cons, List.length_cons]
      omega

/-- A phrase enters as many levels as it needs by itself. -/
theorem least_le {phrase : Phrase} (h : Reads next n tokens phrase) : phrase.least ≤ n := by
  induction h with
  | operand h ih => exact Nat.le_trans (Phrase.one_le_least_operand _ _) ih
  | operator _ _ _ ih ih' =>
    simp only [Phrase.least] at ih ⊢
    have hright := Nat.le_trans (Phrase.one_le_least_operand _ _) ih'
    omega
  | tier _ _ ih => exact Nat.le_trans (Nat.le_add_left _ _) ih
  | name | call | noArgs | lastArg | comma => exact Nat.zero_le _
  | literal | null => exact Nat.le_refl 1
  | loop | plain | oneSided | twoSided | sign | not | parens | reference | lastLink | dot =>
    exact Nat.le_add_left 1 _

end Reads

end Parser

end Stencil
