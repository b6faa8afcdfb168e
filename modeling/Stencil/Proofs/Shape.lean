import Stencil.Evaluation
import Stencil.Proofs.Reading.Template

/-!
# The shape of trees that are read

Not every tree can be read off tokens. In one that can, operators stand where they belong, a plain name is
only the variable of a loop or what the loop goes through, and nothing is left out but the other side of
a branch (`Node.InShape`). Whoever puts a tree together by hand need not keep to this, and evaluation has
something to do for other trees in three places: where what stands between two operands is no operator,
where what stands before one is no sign, and where a name is plain.

For trees that are read this is idle. They are evaluated with anything whatsoever in these places
(`Strays`), and it makes no difference (`Node.strays_idle`).
-/

namespace Stencil

open Stencil.Parser

/-! ## Shape -/

/-- The operators that stand between two operands. -/
def binaryOperators : List Kind := relational ++ additive ++ multiplicative

private theorem Tier.mem_binaryOperators {tier : Tier} {kind : Kind} (h : kind ∈ tier.operators) :
    kind ∈ binaryOperators := by
  unfold binaryOperators
  cases tier with
  | relational => exact List.mem_append_left _ (List.mem_append_left _ h)
  | additive => exact List.mem_append_left _ (List.mem_append_right _ h)
  | multiplicative => exact List.mem_append_right _ h

mutual
/-- **The tree can stand in a program.** A plain name stands nowhere but for what a loop binds and goes
through. -/
def Node.InShape : Node → Prop
  | .template _ _ | .noOp _ => False
  | .terminal _ _ | .null _ => True
  | .access head members => head.InShape ∧ Link.AllInShape members
  | .binary op left right => op.kind ∈ binaryOperators ∧ left.InShape ∧ right.InShape
  | .unary op operand => (op.kind = .plus ∨ op.kind = .minus) ∧ operand.InShape
  | .branch condition thenBody elseBody =>
    condition.InShape ∧ thenBody.InShape ∧ (elseBody = .noOp condition.token ∨ elseBody.InShape)
  | .each _ item source body => item.IsName ∧ source.IsName ∧ body.InShape
/-- All of the trees can stand in a program. -/
def Node.AllInShape : List Node → Prop
  | [] => True
  | node :: nodes => node.InShape ∧ Node.AllInShape nodes
/-- The link is a name that is read, or a call. -/
def Link.InShape : Link → Prop
  | .bare _ => False
  | .read _ => True
  | .call _ args => Node.AllInShape args
/-- All of the links are names that are read, or calls. -/
def Link.AllInShape : List Link → Prop
  | [] => True
  | link :: links => link.InShape ∧ Link.AllInShape links
end

/-- The node is a literal text. -/
def Node.IsLiteralText (node : Node) : Prop :=
  ∃ t, t.kind = .textLiteral ∧ node = .terminal t (.text t.text)

/-- **The tree can be a whole text**: a program, or a template of literal texts and programs. -/
def Node.WholeInShape (node : Node) : Mode → Prop
  | .program => node.InShape
  | .text => ∃ token children, node = .template token children ∧
    ∀ child ∈ children, child.IsLiteralText ∨ child.InShape

private theorem Node.allInShape_iff {nodes : List Node} :
    AllInShape nodes ↔ ∀ node ∈ nodes, node.InShape := by
  induction nodes with
  | nil => exact iff_of_true trivial (List.forall_mem_nil _)
  | cons node nodes ih => rw [AllInShape, ih, List.forall_mem_cons]

private theorem Node.IsLiteralText.inShape {node : Node} (h : node.IsLiteralText) : node.InShape := by
  obtain ⟨t, -, rfl⟩ := h
  exact trivial

/-- All nodes of a phrase are in shape. -/
def Phrase.InShape : Phrase → Prop
  | .statement node | .row _ _ node | .tier _ node | .factor node => node.InShape
  | .link l => l.InShape
  | .access head members => (Node.access head members).InShape
  | .args nodes => Node.AllInShape nodes

private theorem Tier.inShape_operand {tier : Tier} {node : Node} :
    (tier.operand node).InShape ↔ node.InShape := by
  cases tier <;> exact Iff.rfl

/-- **What is read is in shape.** -/
theorem Parser.Reads.inShape {next : Kind} {n : Nat} {tokens : List Token} {phrase : Phrase}
    (h : Reads next n tokens phrase) : phrase.InShape := by
  induction h with
  | loop _ hitem _ hsource _ _ ih => exact ⟨⟨_, rfl, hitem⟩, ⟨_, rfl, hsource⟩, ih⟩
  | plain _ _ _ ih => exact ih
  | oneSided _ _ _ _ _ ih ih' => exact ⟨ih, ih', .inl rfl⟩
  | twoSided _ _ _ _ _ _ ih ih' ih'' => exact ⟨ih, ih', .inr ih''⟩
  | operand _ ih => exact Tier.inShape_operand.mp ih
  | operator _ hop _ ih ih' => exact ⟨Tier.mem_binaryOperators hop, ih, Tier.inShape_operand.mp ih'⟩
  | tier _ _ ih => exact ih
  | literal _ | null _ => exact trivial
  | sign hop _ ih => exact ⟨hop, ih⟩
  | not _ _ ih => exact ih
  | parens _ _ _ ih => exact ih
  | reference _ ih => exact ih
  | name => exact trivial
  | call _ _ _ _ ih => exact ih
  | lastLink _ _ ih => exact ⟨ih, trivial⟩
  | dot _ _ _ ih ih' => exact ⟨ih, ih'⟩
  | noArgs => exact trivial
  | lastArg _ ih => exact ⟨ih, trivial⟩
  | comma _ _ _ ih ih' => exact ⟨ih, ih'⟩

/-- So are the fragments of a template. -/
theorem Parser.ReadsFragments.inShape {tokens : List Token} {nodes : List Node}
    (h : ReadsFragments tokens nodes) : ∀ node ∈ nodes, node.IsLiteralText ∨ node.InShape := by
  induction h with
  | nil => exact List.forall_mem_nil _
  | text hkind _ ih => exact List.forall_mem_cons.mpr ⟨.inl ⟨_, hkind, rfl⟩, ih⟩
  | program _ _ hreads _ _ ih => exact List.forall_mem_cons.mpr ⟨.inr hreads.inShape, ih⟩

/-- **A whole text is in shape.** -/
theorem Node.wholeInShape_of_ofSupply {mode : Mode} {supply : Token.Supply} {node : Node}
    (h : ofSupply mode supply = .ok node) : node.WholeInShape mode := by
  cases mode with
  | program =>
    obtain ⟨-, n, -, hreads⟩ := ofSupply_program_eq_ok.mp h
    exact hreads.inShape
  | text =>
    obtain ⟨-, token, nodes, -, hreads, rfl⟩ := ofSupply_text_eq_ok.mp h
    exact ⟨token, nodes, rfl, hreads.inShape⟩

/-! ## Places for other trees -/

open Evaluation

/-- Of tokens that are no operators evaluation only says that they are none. -/
theorem Token.applyBinary_of_stray {op : Token} (h : op.kind ∉ binaryOperators) (a b : Value) :
    op.applyBinary a b = .error (.notBinary op.kind) := by
  unfold Token.applyBinary
  split
  case h_13 => rfl
  all_goals
    next hkind => exact absurd (hkind ▸ by decide) h

private theorem Token.applyUnary_of_stray {op : Token} (h : ¬(op.kind = .plus ∨ op.kind = .minus))
    (v : Value) :
    op.applyUnary v = .error (.notUnary op.kind) := by
  unfold Token.applyUnary
  split
  · next hkind => exact absurd (.inr hkind) h
  · next hkind => exact absurd (.inl hkind) h
  · rfl

/-- **What is done in the places that are for other trees**: with what stands between two operands or
before one and is no operator, and with a plain name. -/
structure Strays where
  binary : Token → Value → Value → Evaluation Value
  unary : Token → Value → Evaluation Value
  bare : Token → Evaluation Value

namespace Strays

/-- What evaluation does there. -/
def actual : Strays where
  binary op _ _ := lift "BinaryOperation" op (.error (.notBinary op.kind))
  unary op _ := lift "UnaryOperation" op (.error (.notUnary op.kind))
  bare token := lookup "Identifier" token token.text

variable (strays : Strays)

/-- The value of two operands with a token between them. -/
def applyBinary (op : Token) (a b : Value) : Evaluation Value :=
  if op.kind ∈ binaryOperators then lift "BinaryOperation" op (op.applyBinary a b)
  else strays.binary op a b

/-- The value of an operand with a token before it. -/
def applyUnary (op : Token) (v : Value) : Evaluation Value :=
  if op.kind = .plus ∨ op.kind = .minus then lift "UnaryOperation" op (op.applyUnary v)
  else strays.unary op v

private theorem applyBinary_eq {strays : Strays} {op : Token}
    (h : strays = actual ∨ op.kind ∈ binaryOperators)
    (a b : Value) : strays.applyBinary op a b = lift "BinaryOperation" op (op.applyBinary a b) := by
  unfold applyBinary
  split
  · rfl
  · next hnot =>
    obtain rfl := h.resolve_right hnot
    rw [Token.applyBinary_of_stray hnot]
    rfl

private theorem applyUnary_eq {strays : Strays} {op : Token}
    (h : strays = actual ∨ op.kind = .plus ∨ op.kind = .minus) (v : Value) :
    strays.applyUnary op v = lift "UnaryOperation" op (op.applyUnary v) := by
  unfold applyUnary
  split
  · rfl
  · next hnot =>
    obtain rfl := h.resolve_right hnot
    rw [Token.applyUnary_of_stray hnot]
    rfl

end Strays

mutual
/-- The value of a tree, with these strays. -/
def Node.evalOr (strays : Strays) (host : Host) : Node → Evaluation Value
  | .template _ children => do
    return .text (String.join (Value.displays (← Node.evalAllOr strays host children)))
  | .terminal _ literal => return literal.value
  | .null _ => return .null
  | .noOp _ => return .text ""
  | .access (.bare token) _ => strays.bare token
  | .access head members => do
    Link.evalMembersOr strays host (← head.evalHeadOr strays host) members
  | .binary op left right => do
    let a ← left.evalOr strays host
    let b ← right.evalOr strays host
    strays.applyBinary op a b
  | .unary op operand => do
    let v ← operand.evalOr strays host
    strays.applyUnary op v
  | .branch condition thenBody elseBody => do
    match ← condition.evalOr strays host with
    | .boolean true => thenBody.evalOr strays host
    | .boolean false => elseBody.evalOr strays host
    | v => lift "Branch" condition.token (.error (.conditionType v.typeName))
  | .each token item source body => loop host token item.token source.token (body.evalOr strays host)
/-- The values of trees, from the left. -/
def Node.evalAllOr (strays : Strays) (host : Host) : List Node → Evaluation (List Value)
  | [] => return []
  | node :: nodes => do
    let v ← node.evalOr strays host
    return v :: (← Node.evalAllOr strays host nodes)
/-- The value of the link that an access starts with. -/
def Link.evalHeadOr (strays : Strays) (host : Host) : Link → Evaluation Value
  | .bare token => strays.bare token
  | .read token => lookup "VariableAccess" token token.text
  | .call token args => do
    match ← lookup "ProcedureCall" token token.text with
    | .procedure p =>
      let args ← Node.evalAllOr strays host args
      lift "ProcedureCall" token (host.callProcedure p token.text args)
    | _ => lift "ProcedureCall" token (.error (.notProcedure token.text))
/-- The value of a link behind a dot. -/
def Link.evalMemberOr (strays : Strays) (host : Host) (receiver : Value) : Link → Evaluation Value
  | .bare token => lift "Identifier" token (host.readMember receiver token.text)
  | .read token => lift "VariableAccess" token (host.readMember receiver token.text)
  | .call token args =>
    match host.classFor receiver token.text with
    | .error cause => lift "ProcedureCall" token (.error cause)
    | .ok c => do
      let args ← Node.evalAllOr strays host args
      lift "ProcedureCall" token (c.callMethod receiver token.text args)
/-- The value of links of which each follows the dot of the one before it. -/
def Link.evalMembersOr (strays : Strays) (host : Host) (receiver : Value) :
    List Link → Evaluation Value
  | [] => return receiver
  | link :: links => do
    Link.evalMembersOr strays host (← link.evalMemberOr strays host receiver) links
end

mutual
/-- **In a tree in shape it makes no difference what is done with strays**, and in any tree it makes none
if what is done is what evaluation does. -/
theorem Node.evalOr_eq {strays : Strays} (host : Host) :
    (node : Node) → strays = .actual ∨ node.InShape → node.evalOr strays host = node.eval host
  | .template _ children, h => by
    rw [Node.evalOr, Node.eval, Node.evalAllOr_eq host children (.inl (h.resolve_right id))]
  | .terminal _ _, _ | .null _, _ | .noOp _, _ => by rw [Node.evalOr, Node.eval]
  | .access (.bare token) members, h => by
    obtain rfl := h.resolve_right (·.1)
    rw [Node.evalOr, Node.eval]
    rfl
  | .access (.read token) members, h => by
    have hmembers receiver := Link.evalMembersOr_eq host receiver members (h.imp_right (·.2))
    rw [Node.evalOr, Node.eval, Link.evalHeadOr_eq host (.read token) (h.imp_right (·.1))]
    · simp only [hmembers]
    all_goals exact nofun
  | .access (.call token args) members, h => by
    have hmembers receiver := Link.evalMembersOr_eq host receiver members (h.imp_right (·.2))
    rw [Node.evalOr, Node.eval, Link.evalHeadOr_eq host (.call token args) (h.imp_right (·.1))]
    · simp only [hmembers]
    all_goals exact nofun
  | .binary op left right, h => by
    have happly := Strays.applyBinary_eq (h.imp_right (·.1))
    rw [Node.evalOr, Node.eval, left.evalOr_eq host (h.imp_right (·.2.1)),
      right.evalOr_eq host (h.imp_right (·.2.2))]
    simp only [happly]
  | .unary op operand, h => by
    have happly := Strays.applyUnary_eq (h.imp_right (·.1))
    rw [Node.evalOr, Node.eval, operand.evalOr_eq host (h.imp_right (·.2))]
    simp only [happly]
  | .branch condition thenBody elseBody, h => by
    have helse : elseBody.evalOr strays host = elseBody.eval host := by
      obtain hactual | ⟨-, -, hnone | helse⟩ := h
      · exact elseBody.evalOr_eq host (.inl hactual)
      · rw [hnone, Node.evalOr, Node.eval]
      · exact elseBody.evalOr_eq host (.inr helse)
    rw [Node.evalOr, condition.evalOr_eq host (h.imp_right (·.1)),
      thenBody.evalOr_eq host (h.imp_right (·.2.1)), helse]
    rfl
  | .each token item source body, h => by
    rw [Node.evalOr, Node.eval, body.evalOr_eq host (h.imp_right (·.2.2))]

private theorem Node.evalAllOr_eq {strays : Strays} (host : Host) : (nodes : List Node) →
    strays = .actual ∨ Node.AllInShape nodes →
    Node.evalAllOr strays host nodes = Node.evalAll host nodes
  | [], _ => rfl
  | node :: nodes, h => by
    rw [Node.evalAllOr, Node.evalAll, node.evalOr_eq host (h.imp_right (·.1)),
      Node.evalAllOr_eq host nodes (h.imp_right (·.2))]

private theorem Link.evalHeadOr_eq {strays : Strays} (host : Host) : (head : Link) →
    strays = .actual ∨ head.InShape → head.evalHeadOr strays host = head.evalHead host
  | .bare token, h => by
    obtain rfl := h.resolve_right id
    rfl
  | .read token, _ => rfl
  | .call token args, h => by
    rw [Link.evalHeadOr, Node.evalAllOr_eq host args h]
    rfl

private theorem Link.evalMemberOr_eq {strays : Strays} (host : Host) (receiver : Value) :
    (link : Link) →
    strays = .actual ∨ link.InShape →
    link.evalMemberOr strays host receiver = link.evalMember host receiver
  | .bare token, _ | .read token, _ => rfl
  | .call token args, h => by
    rw [Link.evalMemberOr, Node.evalAllOr_eq host args h]
    rfl

private theorem Link.evalMembersOr_eq {strays : Strays} (host : Host) (receiver : Value) :
    (links : List Link) → strays = .actual ∨ Link.AllInShape links →
    Link.evalMembersOr strays host receiver links = Link.evalMembers host receiver links
  | [], _ => rfl
  | link :: links, h => by
    have hlinks receiver := Link.evalMembersOr_eq host receiver links (h.imp_right (·.2))
    rw [Link.evalMembersOr, Link.evalMembers, link.evalMemberOr_eq host receiver (h.imp_right (·.1))]
    simp only [hlinks]
end

namespace Evaluation

/-- The fragments of a template in writing, with these strays. -/
def fragmentsOr (strays : Strays) (host : Host) (onError : OnError) : List Node → Evaluation (List String)
  | [] => return []
  | node :: nodes => do
    let first ← fragment onError (node.evalOr strays host)
    return first :: (← fragmentsOr strays host onError nodes)

/-- A tree in writing, with these strays. -/
def renderOr (strays : Strays) (host : Host) (onError : OnError) : Node → Evaluation String
  | .template _ children => return String.join (← fragmentsOr strays host onError children)
  | node => return (← node.evalOr strays host).display

private theorem fragmentsOr_eq {strays : Strays} (host : Host) (onError : OnError) (nodes : List Node)
    (h : Node.AllInShape nodes) :
    fragmentsOr strays host onError nodes = fragments host onError nodes := by
  induction nodes with
  | nil => rfl
  | cons node nodes ih =>
    rw [fragmentsOr, fragments, node.evalOr_eq host (.inr h.1), ih h.2]

end Evaluation

namespace Node

/-- In a whole text it makes no difference either what is done with strays. -/
theorem WholeInShape.evalOr_eq {mode : Mode} {node : Node} (h : node.WholeInShape mode)
    (strays : Strays) (host : Host) : node.evalOr strays host = node.eval host ∧
      ∀ onError, renderOr strays host onError node = render host onError node := by
  cases mode with
  | program =>
    have heval : node.evalOr strays host = node.eval host := Node.evalOr_eq host node (.inr h)
    refine ⟨heval, fun onError => ?_⟩
    cases node with
    | template => exact h.elim
    | _ => exact congrArg (fun v => do return (← v).display) heval
  | text =>
    obtain ⟨token, children, rfl, hchildren⟩ := h
    have hall : AllInShape children := allInShape_iff.mpr fun child hchild =>
      (hchildren child hchild).elim (·.inShape) id
    refine ⟨?_, fun onError => ?_⟩
    · rw [evalOr, eval, evalAllOr_eq host children (.inr hall)]
    · rw [renderOr, render, fragmentsOr_eq host onError children hall]

/-- **Trees that are read never stray.** A tree that is read off any tokens is in shape. It is evaluated and
rendered against any bindings as it would be if anything else were done with two operands and no operator
between them, with one and no sign before it, and with a plain name. What is done there is part of the
evaluation of all trees. -/
theorem strays_idle {mode : Mode} {supply : Token.Supply} {node : Node}
    (h : ofSupply mode supply = .ok node) :
    node.WholeInShape mode ∧
    ∀ host : Host, (∀ any : Node, any.evalOr .actual host = any.eval host) ∧
      ∀ strays : Strays, node.evalOr strays host = node.eval host ∧
        ∀ onError, renderOr strays host onError node = render host onError node := by
  have hshape := wholeInShape_of_ofSupply h
  exact ⟨hshape, fun host => ⟨fun any => any.evalOr_eq host (.inl rfl),
    fun strays => hshape.evalOr_eq strays host⟩⟩

/-- So it is where the texts of the tokens are those of other ones. -/
theorem strays_idle_other_texts :
    let tokens : List Token := [⟨.textLiteral, "\x7b", 0⟩, ⟨.lBrace, "", 1⟩, ⟨.minus, "!", 2⟩,
      ⟨.identifier, "+", 3⟩, ⟨.plus, "each", 4⟩, ⟨.integerConst, "1", 8⟩, ⟨.question, ":", 9⟩,
      ⟨.null, "x", 10⟩, ⟨.rBrace, "(", 11⟩]
    ∃ node, ofSupply .text (.ofTokens tokens) = .ok node ∧ node.WholeInShape .text ∧
      ∀ host strays onError, renderOr strays host onError node = render host onError node := by
  intro tokens
  have hok : (ofSupply .text (.ofTokens tokens)).isOk = true := by decide +kernel
  cases h : ofSupply .text (.ofTokens tokens) with
  | error e =>
    rw [h] at hok
    cases hok
  | ok node =>
    obtain ⟨hshape, hidle⟩ := strays_idle h
    exact ⟨node, rfl, hshape, fun host strays => ((hidle host).2 strays).2⟩

end Node

end Stencil
