import Stencil.Engine
import Stencil.Proofs.Reading.Nodes
import Stencil.Proofs.Scanning.Scans

/-!
# Where evaluation fails

An error of evaluation names a node of the tree, by its kind and its token (`RuntimeError.PointsInto`).
This holds of trees that are put together by hand as well. In a tree that was read the token is one of
the text, so that the error tells where in the text it is. It makes no difference whether the tree is
evaluated or rendered, or whether it is only the form of its value that is wrong.
-/

namespace Stencil

/-- **The error names a node of the tree**, by its kind and its token. -/
def RuntimeError.PointsInto (e : RuntimeError) (node : Node) : Prop :=
  ∃ depth inner, node.HasAt depth inner ∧ inner.kindName = e.nodeName ∧ inner.token = e.token

namespace RuntimeError

private theorem pointsInto_root (node : Node) (cause : Cause) :
    PointsInto ⟨node.kindName, node.token, cause⟩ node :=
  ⟨0, node, .root, rfl, rfl⟩

/-- An error that points into a child points into the tree. -/
theorem PointsInto.of_child {e : RuntimeError} {node child : Node} (hchild : child ∈ node.children)
    (h : e.PointsInto child) : e.PointsInto node := by
  obtain ⟨depth, inner, hat, hname, htoken⟩ := h
  exact ⟨depth + 1, inner, .inside hchild hat, hname, htoken⟩

/-- The error names a node of one of the trees. -/
def PointsIntoAny (nodes : List Node) (e : RuntimeError) : Prop := ∃ node ∈ nodes, e.PointsInto node

/-- So does one that points into any of the children. -/
theorem PointsInto.of_children {e : RuntimeError} {node : Node}
    (h : e.PointsIntoAny node.children) : e.PointsInto node := by
  obtain ⟨child, hchild, hpoints⟩ := h
  exact hpoints.of_child hchild

/-- An error that points into one of some nodes points into one of more. -/
theorem PointsIntoAny.mono {e : RuntimeError} {nodes more : List Node} (h : e.PointsIntoAny nodes)
    (hsub : nodes ⊆ more) : e.PointsIntoAny more := by
  obtain ⟨node, hmem, hpoints⟩ := h
  exact ⟨node, hsub hmem, hpoints⟩

/-- An error that points into a node of a template points into the template. -/
private theorem PointsInto.of_template {e : RuntimeError} {token : Token} {nodes : List Node}
    (h : e.PointsIntoAny nodes) : e.PointsInto (.template token nodes) :=
  of_children h

/-- An argument of a call is a child of the access. -/
theorem PointsInto.of_args {e : RuntimeError} {head : Link} {members : List Link}
    (h : e.PointsIntoAny head.args) : e.PointsInto (.access head members) :=
  of_children (h.mono (List.subset_append_left _ _))

/-- And so is the link behind its dot. -/
theorem PointsInto.of_members {e : RuntimeError} {head : Link} {members : List Link}
    (h : e.PointsIntoAny (Node.ofMembers members)) : e.PointsInto (.access head members) :=
  of_children (h.mono (List.subset_append_right _ _))

end RuntimeError

/-! ## What an evaluation can fail with -/

namespace Evaluation

/-- Whatever the evaluation fails with is such an error. -/
def FailsWith {α : Type} (P : RuntimeError → Prop) (e : Evaluation α) : Prop :=
  ∀ ⦃b err b'⦄, e b = .error err b' → P err

namespace FailsWith

variable {α β : Type} {P Q : RuntimeError → Prop} {e : Evaluation α} {k : α → Evaluation β}
  {host : Host} {name : String} {token item source : Token}

/-- An evaluation whose errors are of one sort has errors of any wider sort. -/
theorem imp (h : FailsWith P e) (himp : ∀ err, P err → Q err) : FailsWith Q e :=
  fun _ err _ herror => himp err (h herror)

/-- A value alone fails with nothing. -/
theorem pure (a : α) : FailsWith P (pure a : Evaluation α) := by
  intro b err b' h
  cases h

/-- To read the table fails with nothing. -/
theorem get : FailsWith P (get : Evaluation Bindings) := by
  intro b err b' h
  cases h

/-- Nor does to replace it. -/
theorem set (bindings : Bindings) : FailsWith P (set bindings : Evaluation PUnit) := by
  intro b err b' h
  cases h

/-- One after the other they fail as either of them does. -/
theorem bind (he : FailsWith P e) (hk : ∀ a, FailsWith P (k a)) : FailsWith P (e >>= k) := by
  intro b err b' h
  cases hrun : e b with
  | ok a m =>
    rw [bind_of_ok hrun] at h
    exact hk a h
  | error err' m =>
    rw [bind_of_error hrun] at h
    cases h
    exact he hrun

/-- An operation fails with the errors of its own node. -/
theorem lift (result : Except Cause α) (h : ∀ cause, P ⟨name, token, cause⟩) :
    FailsWith P (lift name token result) := by
  cases result with
  | ok a => exact pure a
  | error cause =>
    intro b err b' herror
    cases herror
    exact h cause

/-- A name that is looked up fails at its own token. -/
theorem lookup (key : String) (h : ∀ cause, P ⟨name, token, cause⟩) :
    FailsWith P (lookup name token key) := by
  refine get.bind fun bindings => ?_
  cases bindings.get? key with
  | some v => exact pure v
  | none => exact lift _ h

/-- And so does an assignment. -/
theorem assign (key : String) (v : Value) (h : ∀ cause, P ⟨name, token, cause⟩) :
    FailsWith P (assign name token key v) := by
  refine get.bind fun bindings => ?_
  cases bindings.set key v with
  | ok bindings => exact set bindings
  | error err => exact lift _ h

variable {body : Evaluation Value}

/-- A loop over items fails as its body does, or at the loop. -/
theorem forItems (hbody : FailsWith P body) (h : ∀ cause, P ⟨"EachLoop", token, cause⟩)
    (items : List Value) : FailsWith P (forItems token item body items) := by
  induction items with
  | nil => exact pure []
  | cons v vs ih =>
    refine (assign item.text v h).bind fun _ => ?_
    exact hbody.bind fun first => ih.bind fun rest => pure _

/-- A loop fails by itself or in its body. -/
theorem loop (hbody : FailsWith P body) (h : ∀ cause, P ⟨"EachLoop", token, cause⟩) :
    FailsWith P (loop host token item source body) := by
  have hitems : FailsWith P (do
      let v ← Evaluation.lookup "EachLoop" token source.text
      let items ← Evaluation.lift "EachLoop" token (host.items v source.text)
      return Value.text (String.join (← Evaluation.forItems token item body items))) := by
    refine (lookup source.text h).bind fun v => (lift _ h).bind fun items => ?_
    exact (hbody.forItems h items).bind fun texts => pure _
  refine get.bind fun bindings => ?_
  cases bindings.has item.text with
  | false => exact hitems
  | true => exact (lift _ h).bind fun _ => hitems

/-- A fragment fails as its program does, if at all. -/
theorem fragment {onError : OnError} (hbody : FailsWith P body) :
    FailsWith P (fragment onError body) := by
  intro b err b' h
  unfold Evaluation.fragment at h
  cases hrun : body b with
  | ok v m => simp only [hrun, reduceCtorEq] at h
  | error err' m =>
    cases onError with
    | stop =>
      simp only [hrun, EStateM.Result.error.injEq] at h
      exact h.1 ▸ hbody hrun
    | substitute => simp only [hrun, reduceCtorEq] at h

end FailsWith

end Evaluation

/-! ## Trees -/

open Evaluation RuntimeError

mutual
/-- **Evaluation fails at a node of the tree.** -/
theorem Node.failsWith_pointsInto (host : Host) :
    (node : Node) → FailsWith (·.PointsInto node) (node.eval host)
  | .template token children => by
    rw [Node.eval]
    refine .bind ?_ fun values => .pure _
    exact (Node.failsWith_pointsIntoAny host children).imp fun _ => .of_template
  | .terminal _ _ | .null _ | .noOp _ => by
    rw [Node.eval]
    exact .pure _
  | .access (.bare token) members => by
    rw [Node.eval]
    exact .lookup _ (pointsInto_root (.access (.bare token) members))
  | .access (.read token) members => by
    rw [Node.eval]
    · refine .bind (Link.failsWith_head host (.read token) members) fun v => ?_
      exact (Link.failsWith_members host members v).imp fun _ => .of_members
    · exact nofun
  | .access (.call token args) members => by
    rw [Node.eval]
    · refine .bind (Link.failsWith_head host (.call token args) members) fun v => ?_
      exact (Link.failsWith_members host members v).imp fun _ => .of_members
    · exact nofun
  | .binary op left right => by
    rw [Node.eval]
    refine .bind ?_ fun a => .bind ?_ fun b => .lift _ (pointsInto_root (.binary op left right))
    · exact (left.failsWith_pointsInto host).imp fun _ => .of_child List.mem_cons_self
    · exact (right.failsWith_pointsInto host).imp fun _ =>
        .of_child (List.mem_cons_of_mem _ List.mem_cons_self)
  | .unary op operand => by
    rw [Node.eval]
    refine .bind ?_ fun v => .lift _ (pointsInto_root (.unary op operand))
    exact (operand.failsWith_pointsInto host).imp fun _ => .of_child List.mem_cons_self
  | .branch condition thenBody elseBody => by
    rw [Node.eval]
    refine .bind ?_ fun v => ?_
    · exact (condition.failsWith_pointsInto host).imp fun _ => .of_child List.mem_cons_self
    · split
      · exact (thenBody.failsWith_pointsInto host).imp fun _ =>
          .of_child (List.mem_cons_of_mem _ List.mem_cons_self)
      · exact (elseBody.failsWith_pointsInto host).imp fun _ =>
          .of_child (List.mem_cons_of_mem _ (List.mem_cons_of_mem _ List.mem_cons_self))
      · exact .lift _ (pointsInto_root (.branch condition thenBody elseBody))
  | .each token item source body => by
    rw [Node.eval]
    refine .loop ?_ (pointsInto_root (.each token item source body))
    exact (body.failsWith_pointsInto host).imp fun _ =>
      .of_child (List.mem_cons_of_mem _ (List.mem_cons_of_mem _ List.mem_cons_self))

private theorem Node.failsWith_pointsIntoAny (host : Host) :
    (nodes : List Node) → FailsWith (PointsIntoAny nodes) (Node.evalAll host nodes)
  | [] => .pure _
  | node :: nodes => by
    rw [Node.evalAll]
    refine .bind ?_ fun v => .bind ?_ fun values => .pure _
    · exact (node.failsWith_pointsInto host).imp fun err herr => ⟨node, List.mem_cons_self, herr⟩
    · exact (Node.failsWith_pointsIntoAny host nodes).imp fun err herr =>
        herr.mono (List.subset_cons_self _ _)

/-- The first link of an access fails at the access itself or in an argument. -/
theorem Link.failsWith_head (host : Host) : (head : Link) → (members : List Link) →
    FailsWith (·.PointsInto (.access head members)) (head.evalHead host)
  | .bare token, members => .lookup _ (pointsInto_root (.access (.bare token) members))
  | .read token, members => .lookup _ (pointsInto_root (.access (.read token) members))
  | .call token args, members => by
    have hroot := pointsInto_root (.access (.call token args) members)
    rw [Link.evalHead]
    refine .bind (.lookup _ hroot) fun v => ?_
    split
    · refine .bind ?_ fun values => .lift _ hroot
      exact (Node.failsWith_pointsIntoAny host args).imp fun err herr => .of_args herr
    · exact .lift _ hroot

/-- So does a link behind a dot, which makes an access with those behind it. -/
theorem Link.failsWith_member (host : Host) (receiver : Value) : (link : Link) →
    (links : List Link) → FailsWith (·.PointsInto (.access link links)) (link.evalMember host receiver)
  | .bare token, links => .lift _ (pointsInto_root (.access (.bare token) links))
  | .read token, links => .lift _ (pointsInto_root (.access (.read token) links))
  | .call token args, links => by
    have hroot := pointsInto_root (.access (.call token args) links)
    rw [Link.evalMember]
    split
    · exact .lift _ hroot
    · refine .bind ?_ fun values => .lift _ hroot
      exact (Node.failsWith_pointsIntoAny host args).imp fun err herr => .of_args herr

private theorem Link.failsWith_members (host : Host) : (links : List Link) → (receiver : Value) →
    FailsWith (PointsIntoAny (Node.ofMembers links)) (Link.evalMembers host receiver links)
  | [], receiver => .pure receiver
  | link :: links, receiver => by
    rw [Link.evalMembers]
    refine .bind ?_ fun v => ?_
    · exact (Link.failsWith_member host receiver link links).imp fun err herr =>
        ⟨_, List.mem_cons_self, herr⟩
    · exact (Link.failsWith_members host links v).imp fun err herr =>
        ⟨_, List.mem_cons_self, .of_members herr⟩
end

/-- In a template it is a fragment that fails. -/
theorem Evaluation.fragments_failsWith (host : Host) (onError : OnError) (nodes : List Node) :
    FailsWith (PointsIntoAny nodes) (fragments host onError nodes) := by
  induction nodes with
  | nil => exact .pure _
  | cons node nodes ih =>
    refine .bind (.fragment ?_) fun first => .bind ?_ fun rest => .pure _
    · exact (node.failsWith_pointsInto host).imp fun err herr => ⟨node, List.mem_cons_self, herr⟩
    · exact ih.imp fun err herr => herr.mono (List.subset_cons_self _ _)

/-- **Rendering fails at a node of the tree.** -/
theorem Evaluation.render_failsWith (host : Host) (onError : OnError) (node : Node) :
    FailsWith (·.PointsInto node) (render host onError node) := by
  cases node with
  | template token nodes =>
    refine .bind ?_ fun texts => .pure _
    exact (fragments_failsWith host onError nodes).imp fun _ => .of_template
  | _ => exact (Node.failsWith_pointsInto host _).bind fun v => .pure _

/-- **So does the conversion of a value**, which fails at the root. -/
theorem Engine.inForm_failsWith (host : Host) (form : Form) (node : Node) :
    FailsWith (·.PointsInto node) (do inForm form node (← node.eval host)) :=
  (node.failsWith_pointsInto host).bind fun _ => .lift _ (pointsInto_root node)

/-! ## Trees that are read -/

/-- An error that points into a tree whose nodes are found among tokens has one of the tokens. -/
theorem RuntimeError.PointsInto.token_mem {e : RuntimeError} {tokens : List Token} {node : Node}
    (h : e.PointsInto node) (hfound : node.Throughout (Node.FoundIn tokens)) : e.token ∈ tokens := by
  obtain ⟨depth, inner, hat, -, htoken⟩ := h
  exact htoken ▸ (hfound depth inner hat).token_mem

namespace Node

variable {mode : Mode} {supply : Token.Supply} {node : Node}

/-- **A tree that is read fails at a token of the text**, in front of the end. -/
theorem failsWith_token_mem (host : Host) (h : ofSupply mode supply = .ok node) :
    FailsWith (·.token ∈ supply.front) (node.eval host) ∧
      ∀ onError, FailsWith (·.token ∈ supply.front) (render host onError node) := by
  obtain hfound | ⟨token, nodes, rfl, hfound⟩ := foundIn_of_ofSupply h
  · refine ⟨(node.failsWith_pointsInto host).imp fun err herr => herr.token_mem hfound, ?_⟩
    exact fun onError => (render_failsWith host onError node).imp fun err herr => herr.token_mem hfound
  · have hany (err : RuntimeError) (herr : err.PointsIntoAny nodes) : err.token ∈ supply.front := by
      obtain ⟨child, hchild, hpoints⟩ := herr
      exact hpoints.token_mem (hfound child hchild)
    refine ⟨?_, fun onError => ?_⟩
    · rw [Node.eval]
      exact ((failsWith_pointsIntoAny host nodes).imp hany).bind fun values => .pure _
    · exact ((fragments_failsWith host onError nodes).imp hany).bind fun texts => .pure _

end Node

namespace Engine

variable {α : Type} {parsed : Except ParseError Node} {k : Node → Evaluation α} {b b' : Bindings}
  {e : RuntimeError}

/-- What fails with an error of evaluation has a tree, and the evaluation of the tree fails. -/
theorem ofEvaluation_of_ofParse_eq_error :
    (do ofEvaluation (k (← ofParse parsed)) : Engine α) b = .error (.runtime e) b' ↔
      ∃ node, parsed = .ok node ∧ k node b = .error e b' := by
  cases parsed with
  | error err =>
    refine iff_of_false (fun h => ?_) (fun ⟨_, h, _⟩ => nomatch h)
    cases h
  | ok node =>
    show ofEvaluation (k node) b = _ ↔ _
    unfold ofEvaluation
    cases hrun : k node b with
    | ok a m => simp only [reduceCtorEq, Except.ok.injEq, exists_eq_left', hrun]
    | error err m =>
      simp only [EStateM.Result.error.injEq, EngineError.runtime.injEq, Except.ok.injEq,
        exists_eq_left', hrun]

end Engine

/-- **Errors point at the failing node.** Whatever tree is evaluated, with its value in whatever form, or
rendered with either way to treat errors: the error has the kind and the token of a node of the tree. If
the tree is read off a supply of tokens, the token is one of those; and if it is read off a text, it
is a token that the text is made up of. -/
theorem RuntimeError.points_into_tree (host : Host) :
    (∀ (node : Node) (b b' : Bindings) (e : RuntimeError),
      (node.eval host b = .error e b' → e.PointsInto node) ∧
      (∀ onError, render host onError node b = .error e b' → e.PointsInto node) ∧
      ∀ form, (do Engine.inForm form node (← node.eval host)) b = .error e b' → e.PointsInto node) ∧
    (∀ (mode : Mode) (supply : Token.Supply) (node : Node), Node.ofSupply mode supply = .ok node →
      ∀ (b b' : Bindings) (e : RuntimeError),
        (node.eval host b = .error e b' → e.token ∈ supply.ahead) ∧
        ∀ onError, render host onError node b = .error e b' → e.token ∈ supply.ahead) ∧
    ∀ (source : List Char) (b b' : Bindings) (e : RuntimeError),
      (∀ onError, Engine.execute host onError source b = .error (.runtime e) b' →
        ∃ node, Node.ofText .text source = .ok node ∧ e.PointsInto node ∧
          e.token ∈ (Cursor.start .text source).drain.1) ∧
      ∀ form, Engine.evaluate host form source b = .error (.runtime e) b' →
        ∃ node, Node.ofText .program source = .ok node ∧ e.PointsInto node ∧
          e.token ∈ (Cursor.start .program source).drain.1 := by
  have hahead (supply : Token.Supply) : supply.front ⊆ supply.ahead := List.takeWhile_subset _
  have htext (mode : Mode) (source : List Char) :
      (Token.Supply.ofText mode source).ahead = (Cursor.start mode source).drain.1 := by
    unfold Token.Supply.ofText
    split <;> next h => rw [h]
  refine ⟨fun node b b' e => ⟨?_, ?_, ?_⟩, fun mode supply node hnode b b' e => ⟨?_, ?_⟩,
    fun source b b' e => ⟨?_, ?_⟩⟩
  · exact fun h => node.failsWith_pointsInto host h
  · exact fun onError h => render_failsWith host onError node h
  · exact fun form h => Engine.inForm_failsWith host form node h
  · exact fun h => hahead supply ((Node.failsWith_token_mem host hnode).1 h)
  · exact fun onError h => hahead supply ((Node.failsWith_token_mem host hnode).2 onError h)
  · intro onError h
    obtain ⟨node, hnode, hrun⟩ := Engine.ofEvaluation_of_ofParse_eq_error.mp h
    refine ⟨node, hnode, render_failsWith host onError node hrun, ?_⟩
    rw [← htext]
    exact hahead _ ((Node.failsWith_token_mem host hnode).2 onError hrun)
  · intro form h
    obtain ⟨node, hnode, hrun⟩ := Engine.ofEvaluation_of_ofParse_eq_error.mp h
    have hpoints := Engine.inForm_failsWith host form node hrun
    refine ⟨node, hnode, hpoints, ?_⟩
    rw [← htext]
    -- a program is no template, so that the root is found as well
    obtain ⟨-, n, -, hreads⟩ := Node.ofSupply_program_eq_ok.mp hnode
    exact hahead _ (List.mem_filter.mp (hpoints.token_mem hreads.foundIn)).1

/-- The sign in the body of a loop is to blame for an item that has none. -/
theorem RuntimeError.points_into_tree_sign :
    let source := "each c in s?-c".toList
    ∃ e b', Engine.evaluate .empty .value source [("s", ⟨.text "ab", (Value.text "ab").fixes?⟩)] =
        .error (.runtime e) b' ∧
      e.nodeName = "UnaryOperation" ∧ e.token = ⟨.minus, "-", 12⟩ ∧
      ∃ node, Node.ofText .program source = .ok node ∧ e.PointsInto node ∧
        e.token ∈ (Cursor.start .program source).drain.1 := by
  intro source
  let b : Bindings := [("s", ⟨.text "ab", (Value.text "ab").fixes?⟩)]
  let e : RuntimeError := ⟨"UnaryOperation", ⟨.minus, "-", 12⟩, .fault (.operand "-" "text")⟩
  have hfails : failure? (answer (Engine.evaluate .empty .value source b)) = some (.runtime e) := by
    decide +kernel
  obtain ⟨b', hrun⟩ := answer_eq_error.mp (failure?_eq_some.mp hfails)
  exact ⟨e, b', hrun, rfl, rfl, ((points_into_tree .empty).2.2 source b b' e).2 .value hrun⟩

end Stencil
