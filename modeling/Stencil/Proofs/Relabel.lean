import Stencil.Proofs.Reading.Derivation
import Stencil.Evaluation

/-!
# Other tokens in the place of tokens

Only the kind and the text of a token matter to reading and to evaluation; where it stands does not.
So tokens may be changed in everything else (`Token.Relabels`): what was derived is derived from the
changed tokens (`Parser.Reads.mapTokens`), and the tree with the changed tokens has the same value, or
fails for the same reason at the changed token (`Node.eval_mapTokens`).
-/

namespace Stencil

/-- Kind and text of every token stay what they are. -/
def Token.Relabels (f : Token → Token) : Prop := ∀ t, (f t).kind = t.kind ∧ (f t).text = t.text

/-! ## Trees -/

mutual
/-- The tree with its tokens changed. -/
def Node.mapTokens (f : Token → Token) : Node → Node
  | .template token children => .template (f token) (Node.mapTokensOfAll f children)
  | .terminal token value => .terminal (f token) value
  | .null token => .null (f token)
  | .noOp token => .noOp (f token)
  | .access head members => .access (head.mapTokens f) (Link.mapTokensOfAll f members)
  | .binary op left right => .binary (f op) (left.mapTokens f) (right.mapTokens f)
  | .unary op operand => .unary (f op) (operand.mapTokens f)
  | .branch condition thenBody elseBody =>
    .branch (condition.mapTokens f) (thenBody.mapTokens f) (elseBody.mapTokens f)
  | .each token item source body =>
    .each (f token) (item.mapTokens f) (source.mapTokens f) (body.mapTokens f)
/-- Trees side by side with their tokens changed. -/
def Node.mapTokensOfAll (f : Token → Token) : List Node → List Node
  | [] => []
  | node :: nodes => node.mapTokens f :: Node.mapTokensOfAll f nodes
/-- A link with its tokens changed. -/
def Link.mapTokens (f : Token → Token) : Link → Link
  | .bare token => .bare (f token)
  | .read token => .read (f token)
  | .call token args => .call (f token) (Node.mapTokensOfAll f args)
/-- Links one behind the other with their tokens changed. -/
def Link.mapTokensOfAll (f : Token → Token) : List Link → List Link
  | [] => []
  | link :: links => link.mapTokens f :: Link.mapTokensOfAll f links
end

section
variable {f g : Token → Token}

/-- The token of a link is changed with it. -/
theorem Link.token_mapTokens (link : Link) : (link.mapTokens f).token = f link.token := by
  cases link <;> rfl

/-- And so is that of a node. -/
theorem Node.token_mapTokens : (node : Node) → (node.mapTokens f).token = f node.token
  | .template _ _ | .terminal _ _ | .null _ | .noOp _ => rfl
  | .access head _ => head.token_mapTokens
  | .binary _ _ _ | .unary _ _ | .each _ _ _ _ => rfl
  | .branch condition _ _ => condition.token_mapTokens

private theorem Node.mapTokens_ifThen (condition body : Node) (other : Option Node) :
    (ifThen condition body other).mapTokens f =
      ifThen (condition.mapTokens f) (body.mapTokens f) (other.map (mapTokens f)) := by
  cases other with
  | none => rw [ifThen, ifThen, mapTokens, condition.token_mapTokens]; rfl
  | some other => rfl

mutual
/-- What a change takes back is back. -/
theorem Node.mapTokens_of_inverse (h : ∀ t, g (f t) = t) :
    (node : Node) → (node.mapTokens f).mapTokens g = node
  | .template _ children => by
    rw [Node.mapTokens, Node.mapTokens, h, Node.mapTokensOfAll_of_inverse h children]
  | .terminal _ _ | .null _ | .noOp _ => by rw [Node.mapTokens, Node.mapTokens, h]
  | .access head members => by
    rw [Node.mapTokens, Node.mapTokens, Link.mapTokens_of_inverse h head,
      Link.mapTokensOfAll_of_inverse h members]
  | .binary _ left right => by
    rw [Node.mapTokens, Node.mapTokens, h, Node.mapTokens_of_inverse h left,
      Node.mapTokens_of_inverse h right]
  | .unary _ operand => by
    rw [Node.mapTokens, Node.mapTokens, h, Node.mapTokens_of_inverse h operand]
  | .branch condition thenBody elseBody => by
    rw [Node.mapTokens, Node.mapTokens, Node.mapTokens_of_inverse h condition,
      Node.mapTokens_of_inverse h thenBody, Node.mapTokens_of_inverse h elseBody]
  | .each _ item source body => by
    rw [Node.mapTokens, Node.mapTokens, h, Node.mapTokens_of_inverse h item,
      Node.mapTokens_of_inverse h source, Node.mapTokens_of_inverse h body]

private theorem Node.mapTokensOfAll_of_inverse (h : ∀ t, g (f t) = t) :
    (nodes : List Node) → Node.mapTokensOfAll g (Node.mapTokensOfAll f nodes) = nodes
  | [] => rfl
  | node :: nodes => by
    rw [Node.mapTokensOfAll, Node.mapTokensOfAll, Node.mapTokens_of_inverse h node,
      Node.mapTokensOfAll_of_inverse h nodes]

/-- A link by itself. -/
theorem Link.mapTokens_of_inverse (h : ∀ t, g (f t) = t) :
    (link : Link) → (link.mapTokens f).mapTokens g = link
  | .bare _ | .read _ => by rw [Link.mapTokens, Link.mapTokens, h]
  | .call _ args => by
    rw [Link.mapTokens, Link.mapTokens, h, Node.mapTokensOfAll_of_inverse h args]

private theorem Link.mapTokensOfAll_of_inverse (h : ∀ t, g (f t) = t) :
    (links : List Link) → Link.mapTokensOfAll g (Link.mapTokensOfAll f links) = links
  | [] => rfl
  | link :: links => by
    rw [Link.mapTokensOfAll, Link.mapTokensOfAll, Link.mapTokens_of_inverse h link,
      Link.mapTokensOfAll_of_inverse h links]
end

end

/-! ## Reading -/

/-- What is read with its tokens changed. -/
def Phrase.mapTokens (f : Token → Token) : Phrase → Phrase
  | .statement node => .statement (node.mapTokens f)
  | .row t operators node => .row t operators (node.mapTokens f)
  | .tier t node => .tier t (node.mapTokens f)
  | .factor node => .factor (node.mapTokens f)
  | .link l => .link (l.mapTokens f)
  | .access head members => .access (head.mapTokens f) (Link.mapTokensOfAll f members)
  | .args nodes => .args (Node.mapTokensOfAll f nodes)

private theorem Phrase.mapTokens_operand {f : Token → Token} (t : Tier) (node : Node) :
    (t.operand node).mapTokens f = t.operand (node.mapTokens f) := by
  cases t <;> rfl

namespace Token.Relabels

open Stencil.Parser

variable {f : Token → Token} {t : Token}

/-- The kind of a token is kept. -/
theorem kind (hf : Relabels f) : (f t).kind = t.kind := (hf t).1

/-- It is the same word. -/
theorem isWord (hf : Relabels f) {word : String} : (f t).IsWord word ↔ t.IsWord word := by
  rw [IsWord, IsWord, (hf t).1, (hf t).2]

/-- It stands for the same value. -/
theorem literal? (hf : Relabels f) : (f t).literal? = t.literal? := by
  rw [Token.literal?, Token.literal?, (hf t).1, (hf t).2]

private theorem startsLoop (hf : Relabels f) {tokens : List Token} :
    StartsLoop (tokens.map f) ↔ StartsLoop tokens := by
  cases tokens with
  | nil => exact Iff.rfl
  | cons t ts =>
    constructor
    · rintro ⟨t', ht, hloop⟩
      obtain rfl := Option.mem_some_iff.mp ht
      exact ⟨t, rfl, hf.isWord.mp hloop⟩
    · rintro ⟨t', ht, hloop⟩
      obtain rfl := Option.mem_some_iff.mp ht
      exact ⟨_, rfl, hf.isWord.mpr hloop⟩

end Token.Relabels

namespace Parser

variable {f : Token → Token} {next : Kind} {n : Nat} {tokens : List Token} {phrase : Phrase}

/-- **What is derived is derived from the changed tokens.** -/
theorem Reads.mapTokens (h : Reads next n tokens phrase) (hf : Token.Relabels f) :
    Reads next n (tokens.map f) (phrase.mapTokens f) := by
  have hkind (t : Token) : (f t).kind = t.kind := hf.kind
  induction h with
  | loop heach hitem hword hsource hmark _ ih =>
    exact .loop (hf.isWord.mpr heach) ((hkind _).trans hitem) (hf.isWord.mpr hword)
      ((hkind _).trans hsource) ((hkind _).trans hmark) ih
  | plain _ hstart hnext ih => exact .plain ih (mt hf.startsLoop.mp hstart) hnext
  | oneSided _ hstart hmark _ hnext ih ih' =>
    rw [List.map_append, List.map_cons, Phrase.mapTokens, Node.mapTokens_ifThen]
    exact .oneSided ih (mt hf.startsLoop.mp hstart) ((hkind _).trans hmark) ih' hnext
  | twoSided _ hstart hmark _ hcolon _ ih ih' ih'' =>
    rw [List.map_append, List.map_cons, List.map_append, List.map_cons, Phrase.mapTokens,
      Node.mapTokens_ifThen]
    exact .twoSided ih (mt hf.startsLoop.mp hstart) ((hkind _).trans hmark) ih'
      ((hkind _).trans hcolon) ih''
  | operand _ ih =>
    rw [Phrase.mapTokens_operand] at ih
    exact .operand ih
  -- the left operand is read up to the operator, whose kind is that of the changed one
  | @operator _ _ _ _ _ _ op tier _ _ _ hop _ ih ih' =>
    rw [List.map_append, List.map_cons]
    rw [← hkind op] at ih hop
    rw [Phrase.mapTokens_operand] at ih'
    exact .operator ih hop ih'
  | tier _ hnext ih => exact .tier ih hnext
  | literal hvalue => exact .literal (hf.literal?.trans hvalue)
  | null hnull => exact .null ((hkind _).trans hnull)
  | @sign _ _ _ op _ hop _ ih =>
    rw [← hkind op] at hop
    exact .sign hop ih
  | not hnot _ ih => exact .not ((hkind _).trans hnot) ih
  | parens hopening _ hclosing ih =>
    rw [List.map_cons, List.map_append]
    exact .parens ((hkind _).trans hopening) ih ((hkind _).trans hclosing)
  | reference _ ih => exact .reference ih
  | name hname hnext => exact .name ((hkind _).trans hname) hnext
  | call hname hopening _ hclosing ih =>
    rw [List.map_cons, List.map_cons, List.map_append]
    exact .call ((hkind _).trans hname) ((hkind _).trans hopening) ih ((hkind _).trans hclosing)
  | lastLink _ hnext ih => exact .lastLink ih hnext
  | dot _ hdot _ ih ih' =>
    rw [List.map_append, List.map_cons]
    exact .dot ih ((hkind _).trans hdot) ih'
  | noArgs => exact .noArgs
  | lastArg _ ih => exact .lastArg ih
  | comma _ hcomma _ ih ih' =>
    rw [List.map_append, List.map_cons]
    exact .comma ih ((hkind _).trans hcomma) ih'

/-- No phrase goes on with a token of this kind. -/
def EndsPhrase (next : Kind) : Prop :=
  next ∉ relational ++ additive ++ multiplicative ++ [.question, .colon, .lParen, .dot]

instance (next : Kind) : Decidable (EndsPhrase next) := inferInstanceAs (Decidable (¬ _))

private theorem EndsPhrase.not_mem_operators (h : EndsPhrase next) (tier : Tier) :
    next ∉ tier.operators := by
  intro hmem
  refine h (List.mem_append_left _ ?_)
  cases tier with
  | relational => exact List.mem_append_left _ (List.mem_append_left _ hmem)
  | additive => exact List.mem_append_left _ (List.mem_append_right _ hmem)
  | multiplicative => exact List.mem_append_right _ hmem

private theorem EndsPhrase.ne {kind : Kind} (h : EndsPhrase next)
    (hkind : kind ∈ [Kind.question, .colon, .lParen, .dot] := by decide) : next ≠ kind := by
  rintro rfl
  exact h (List.mem_append_right _ hkind)

/-- **What ends a phrase does not matter**, but for arguments, which end in one way only. -/
theorem Reads.inFrontOf (h : Reads next n tokens phrase) (next' : Kind) (hnext : EndsPhrase next')
    (hphrase : ∀ nodes, phrase ≠ .args nodes) : Reads next' n tokens phrase := by
  induction h with
  | loop heach hitem hword hsource hmark _ ih =>
    exact .loop heach hitem hword hsource hmark (ih nofun)
  | plain _ hstart _ ih => exact .plain (ih nofun) hstart hnext.ne
  | oneSided hcondition hstart hmark _ _ _ ih =>
    exact .oneSided hcondition hstart hmark (ih nofun) hnext.ne
  | twoSided hcondition hstart hmark hbody hcolon _ _ _ ih =>
    exact .twoSided hcondition hstart hmark hbody hcolon (ih nofun)
  | @operand _ _ _ tier _ _ ih => exact .operand (ih (by cases tier <;> exact nofun))
  | @operator _ _ _ _ _ _ _ tier _ _ hleft hop _ _ ih =>
    exact .operator hleft hop (ih (by cases tier <;> exact nofun))
  | tier _ _ ih => exact .tier (ih nofun) (hnext.not_mem_operators _)
  | literal hvalue => exact .literal hvalue
  | null hnull => exact .null hnull
  | sign hop _ ih => exact .sign hop (ih nofun)
  | not hnot _ ih => exact .not hnot (ih nofun)
  | parens hopening hstatement hclosing => exact .parens hopening hstatement hclosing
  | reference _ ih => exact .reference (ih nofun)
  | name hname => exact .name hname hnext.ne
  | call hname hopening hargs hclosing => exact .call hname hopening hargs hclosing
  | lastLink _ _ ih => exact .lastLink (ih nofun) hnext.ne
  | dot hhead hdot _ _ ih => exact .dot hhead hdot (ih nofun)
  | noArgs => exact absurd rfl (hphrase [])
  | lastArg => exact absurd rfl (hphrase _)
  | comma => exact absurd rfl (hphrase _)

end Parser

/-! ## Evaluation -/

namespace Evaluation

variable {α β : Type} {f : Token → Token} {host : Host}

/-- An evaluation whose errors are at changed tokens. -/
def relabel (f : Token → Token) (e : Evaluation α) : Evaluation α := fun bindings =>
  match e bindings with
  | .ok a bindings => .ok a bindings
  | .error e bindings => .error { e with token := f e.token } bindings

private theorem relabel_pure (a : α) : relabel f (pure a : Evaluation α) = pure a := rfl

private theorem relabel_bind (e : Evaluation α) (k : α → Evaluation β) :
    relabel f (e >>= k) = relabel f e >>= fun a => relabel f (k a) := by
  funext bindings
  show relabel f (EStateM.bind e k) bindings = EStateM.bind (relabel f e) _ bindings
  cases he : e bindings <;> simp only [relabel, EStateM.bind, he]

private theorem relabel_get : relabel f (get : Evaluation Bindings) = get := rfl

private theorem relabel_lift (name : String) (token : Token) (result : Except Cause α) :
    relabel f (lift name token result) = lift name (f token) result := by
  cases result <;> rfl

private theorem relabel_lookup (name : String) (token : Token) (key : String) :
    relabel f (lookup name token key) = lookup name (f token) key := by
  rw [lookup, lookup, relabel_bind, relabel_get]
  congr 1
  funext bindings
  cases bindings.get? key with
  | none => exact relabel_lift _ _ _
  | some v => rfl

private theorem relabel_assign (name : String) (token : Token) (key : String) (v : Value) :
    relabel f (assign name token key v) = assign name (f token) key v := by
  rw [assign, assign, relabel_bind, relabel_get]
  congr 1
  funext bindings
  cases bindings.set key v with
  | error e => exact relabel_lift _ _ _
  | ok bindings => rfl

private theorem relabel_forItems (hf : Token.Relabels f) (token item : Token) (body : Evaluation Value)
    (items : List Value) :
    relabel f (forItems token item body items) =
      forItems (f token) (f item) (relabel f body) items := by
  induction items with
  | nil => rfl
  | cons v vs ih =>
    simp only [forItems, relabel_bind, relabel_assign, ih, (hf item).2, relabel_pure]

private theorem relabel_loop (hf : Token.Relabels f) (token item source : Token)
    (body : Evaluation Value) :
    relabel f (loop host token item source body) =
      loop host (f token) (f item) (f source) (relabel f body) := by
  unfold loop
  rw [relabel_bind, relabel_get, (hf item).2, (hf source).2]
  congr 1
  funext bindings
  split <;>
    simp only [relabel_bind, relabel_lookup, relabel_lift, relabel_forItems hf, relabel_pure]

end Evaluation

section
variable {f : Token → Token}

open Evaluation

/-- An operator does what it did before. -/
theorem Token.Relabels.applyBinary (hf : Token.Relabels f) (op : Token) (a b : Value) :
    (f op).applyBinary a b = op.applyBinary a b := by
  simp only [Token.applyBinary, Value.ordered, Value.logical, (hf op).1, (hf op).2]

/-- And so does a sign. -/
theorem Token.Relabels.applyUnary (hf : Token.Relabels f) (op : Token) (v : Value) :
    (f op).applyUnary v = op.applyUnary v := by
  simp only [Token.applyUnary, (hf op).1]

mutual
/-- **A tree with changed tokens has the same value**, or fails for the same reason at the changed
token. -/
theorem Node.eval_mapTokens (host : Host) (hf : Token.Relabels f) :
    (node : Node) → (node.mapTokens f).eval host = relabel f (node.eval host)
  | .template _ children => by
    simp only [Node.mapTokens, Node.eval, relabel_bind, Node.evalAll_mapTokens host hf children,
      relabel_pure]
  | .terminal _ _ | .null _ | .noOp _ => by simp only [Node.mapTokens, Node.eval, relabel_pure]
  | .access (.bare token) _ => by
    simp only [Node.mapTokens, Link.mapTokens, Node.eval, relabel_lookup, (hf token).2]
  | .access (.read token) members => by
    simp only [Node.mapTokens, Link.mapTokens, Node.eval, Link.evalHead, relabel_bind, relabel_lookup,
      (hf token).2, Link.evalMembers_mapTokens host hf members]
  | .access (.call token args) members => by
    have hhead := Link.evalHead_mapTokens host hf (.call token args)
    simp only [Node.mapTokens, Link.mapTokens, Node.eval, relabel_bind] at hhead ⊢
    simp only [hhead, Link.evalMembers_mapTokens host hf members]
  | .binary op left right => by
    simp only [Node.mapTokens, Node.eval, relabel_bind, Node.eval_mapTokens host hf left,
      Node.eval_mapTokens host hf right, relabel_lift, hf.applyBinary]
  | .unary op operand => by
    simp only [Node.mapTokens, Node.eval, relabel_bind, Node.eval_mapTokens host hf operand,
      relabel_lift, hf.applyUnary]
  | .branch condition thenBody elseBody => by
    simp only [Node.mapTokens, Node.eval, relabel_bind, Node.eval_mapTokens host hf condition,
      Node.eval_mapTokens host hf thenBody, Node.eval_mapTokens host hf elseBody, Node.token_mapTokens]
    congr 1
    funext v
    split <;> simp only [relabel_lift]
  | .each token item source body => by
    simp only [Node.mapTokens, Node.eval, Node.eval_mapTokens host hf body, Node.token_mapTokens,
      relabel_loop hf]

private theorem Node.evalAll_mapTokens (host : Host) (hf : Token.Relabels f) : (nodes : List Node) →
    Node.evalAll host (Node.mapTokensOfAll f nodes) = relabel f (Node.evalAll host nodes)
  | [] => rfl
  | node :: nodes => by
    simp only [Node.mapTokensOfAll, Node.evalAll, relabel_bind, Node.eval_mapTokens host hf node,
      Node.evalAll_mapTokens host hf nodes, relabel_pure]

private theorem Link.evalHead_mapTokens (host : Host) (hf : Token.Relabels f) :
    (link : Link) → (link.mapTokens f).evalHead host = relabel f (link.evalHead host)
  | .bare token | .read token => by
    simp only [Link.mapTokens, Link.evalHead, relabel_lookup, (hf token).2]
  | .call token args => by
    simp only [Link.mapTokens, Link.evalHead, relabel_bind, relabel_lookup, (hf token).2]
    congr 1
    funext v
    cases v <;> simp only [relabel_bind, relabel_lift, Node.evalAll_mapTokens host hf args]

private theorem Link.evalMember_mapTokens (host : Host) (hf : Token.Relabels f) (receiver : Value) :
    (link : Link) →
    (link.mapTokens f).evalMember host receiver = relabel f (link.evalMember host receiver)
  | .bare token | .read token => by
    simp only [Link.mapTokens, Link.evalMember, relabel_lift, (hf token).2]
  | .call token args => by
    simp only [Link.mapTokens, Link.evalMember, (hf token).2]
    split <;> simp only [relabel_bind, relabel_lift, Node.evalAll_mapTokens host hf args]

private theorem Link.evalMembers_mapTokens (host : Host) (hf : Token.Relabels f) :
    (links : List Link) → (receiver : Value) →
      Link.evalMembers host receiver (Link.mapTokensOfAll f links) =
        relabel f (Link.evalMembers host receiver links)
  | [], _ => rfl
  | link :: links, receiver => by
    simp only [Link.mapTokensOfAll, Link.evalMembers, relabel_bind,
      Link.evalMember_mapTokens host hf receiver link, Link.evalMembers_mapTokens host hf links]
end

end

end Stencil
