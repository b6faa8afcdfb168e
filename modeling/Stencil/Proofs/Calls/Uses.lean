import Stencil.Proofs.Bindings.Growth

/-!
# What evaluation asks of a host

An evaluation reads properties, calls methods and procedures, and asks for the items of what a loop goes
through. What it uses in this way depends on the bindings that it begins with, and on what its earlier
steps have come to (`Node.uses`, `Evaluation.usesOfRender`). There is nothing else in which one host is
told from another: hosts that give the same answers to what is used give the same evaluation
(`Node.eval_of_sameIn`, `Evaluation.render_of_sameIn`).
-/

namespace Stencil

/-- Something that is asked of a host or of the class of a value. -/
inductive Use where
  | property (receiver : Value) (name : String)
  | method (receiver : Value) (name : String) (args : List Value)
  /-- The items of the value that is bound to `name`. -/
  | items (source : Value) (name : String)
  | procedure (p : Procedure) (name : String) (args : List Value)

/-- The result of a method that is looked up in the class of its receiver. -/
def Host.callMember (host : Host) (receiver : Value) (name : String) (args : List Value) :
    Except Cause Value :=
  match host.classFor receiver name with
  | .ok c => c.callMethod receiver name args
  | .error cause => .error cause

/-- Both hosts give the same answer. -/
def Use.SameIn (host host' : Host) : Use → Prop
  | property receiver name => host.readMember receiver name = host'.readMember receiver name
  | method receiver name args => host.callMember receiver name args = host'.callMember receiver name args
  | items source name => host.items source name = host'.items source name
  | procedure p name args => host.callProcedure p name args = host'.callProcedure p name args

/-- What an evaluation uses that begins with given bindings. -/
abbrev Uses := Bindings → Use → Prop

namespace Uses

open Evaluation

/-- Nothing is used. -/
def none : Uses := fun _ _ => False

/-- One thing is used, with any bindings. -/
def one (use : Use) : Uses := fun _ other => other = use

/-- What is used first, and what is used next if the first evaluation comes to a result. -/
def inTurn {α : Type} (first : Uses) (e : Evaluation α) (next : α → Uses) : Uses := fun b use =>
  first b use ∨ ∃ a m, e b = .ok a m ∧ next a m use

/-- A loop asks for its items if its variable is free. -/
def ofItems (item source : Token) : Uses := fun b use =>
  b.has item.text = false ∧ ∃ v, b.get? source.text = some v ∧ use = .items v source.text

/-- What the body of a loop uses, item by item. -/
def ofBody (token item : Token) (body : Evaluation Value) (used : Uses) : List Value → Uses
  | [] => none
  | v :: vs =>
    inTurn none (assign "EachLoop" token item.text v) fun _ =>
      inTurn used body fun _ => ofBody token item body used vs

/-- What a loop uses, whose body is given by its evaluation and by what it uses. -/
def ofLoop (host : Host) (token item source : Token) (body : Evaluation Value) (used : Uses) : Uses :=
  inTurn (ofItems item source) (itemsOf host token item source) (ofBody token item body used)

variable {item source : Token} {b : Bindings}

/-- Where nothing is used next, it is what is used first. -/
theorem inTurn_none {α : Type} (uses : Uses) (e : Evaluation α) (b : Bindings) :
    inTurn uses e (fun _ => none) b = uses b := by
  funext use
  simp [inTurn, none]

/-- A loop whose variable is bound already asks for nothing. -/
theorem ofItems_of_bound (h : b.has item.text = true) : ofItems item source b = none b := by
  funext use
  simp [ofItems, none, h]

/-- One whose variable is free asks for the items of what it goes through. -/
theorem ofItems_of_free (h : b.has item.text = false) (token : Token) : ofItems item source b =
    inTurn none (lookup "EachLoop" token source.text) (fun v => one (.items v source.text)) b := by
  funext use
  cases hv : b.get? source.text with
  | none =>
    have hrun := lookup_of_none hv "EachLoop" token
    simp [ofItems, inTurn, none, hv, hrun]
  | some v =>
    have hrun := lookup_of_some hv "EachLoop" token
    simp [ofItems, inTurn, none, one, h, hv, hrun]

end Uses

open Uses Evaluation in
mutual
/-- What the evaluation of a tree uses. -/
def Node.uses (host : Host) : Node → Uses
  | .template _ children => Node.usesOfAll host children
  | .terminal _ _ | .null _ | .noOp _ => none
  | .access (.bare _) _ => none
  | .access head members =>
    inTurn (head.usesOfHead host) (head.evalHead host) fun v => Link.usesOfMembers host v members
  | .binary _ left right => inTurn (left.uses host) (left.eval host) fun _ => right.uses host
  | .unary _ operand => operand.uses host
  | .branch condition thenBody elseBody =>
    inTurn (condition.uses host) (condition.eval host) fun
      | .boolean true => thenBody.uses host
      | .boolean false => elseBody.uses host
      | _ => none
  | .each token item source body =>
    ofLoop host token item.token source.token (body.eval host) (body.uses host)
/-- What trees use that are evaluated from the left. -/
def Node.usesOfAll (host : Host) : List Node → Uses
  | [] => none
  | node :: nodes => inTurn (node.uses host) (node.eval host) fun _ => Node.usesOfAll host nodes
/-- What the link uses that an access starts with. -/
def Link.usesOfHead (host : Host) : Link → Uses
  | .bare _ | .read _ => none
  | .call token args =>
    inTurn none (lookup "ProcedureCall" token token.text) fun
      | .procedure p =>
        inTurn (Node.usesOfAll host args) (Node.evalAll host args) fun args =>
          one (.procedure p token.text args)
      | _ => none
/-- What a link behind a dot uses. -/
def Link.usesOfMember (host : Host) (receiver : Value) : Link → Uses
  | .bare token | .read token => one (.property receiver token.text)
  | .call token args =>
    match host.classFor receiver token.text with
    | .error _ => none
    | .ok _ =>
      inTurn (Node.usesOfAll host args) (Node.evalAll host args) fun args =>
        one (.method receiver token.text args)
/-- What links use of which each follows the dot of the one before it. -/
def Link.usesOfMembers (host : Host) (receiver : Value) : List Link → Uses
  | [] => none
  | link :: links =>
    inTurn (link.usesOfMember host receiver) (link.evalMember host receiver) fun v =>
      Link.usesOfMembers host v links
end

namespace Evaluation

/-- What the fragments of a template use. One that fails may be followed by others. -/
def usesOfFragments (host : Host) (onError : OnError) : List Node → Uses
  | [] => .none
  | node :: nodes =>
    .inTurn (node.uses host) (fragment onError (node.eval host)) fun _ =>
      usesOfFragments host onError nodes

/-- What the rendering of a tree uses. -/
def usesOfRender (host : Host) (onError : OnError) : Node → Uses
  | .template _ children => usesOfFragments host onError children
  | node => node.uses host

/-! ## Nothing else is asked -/

variable {α β : Type} {host host' : Host} {uses : Uses} {e e' : Evaluation α}

/-- Hosts that give the same answers to what is used give the same evaluation. -/
def AlikeBy (host host' : Host) (uses : Uses) (e e' : Evaluation α) : Prop :=
  ∀ b, (∀ use, uses b use → use.SameIn host host') → e b = e' b

namespace AlikeBy

/-- An evaluation that asks no host anything is the same for both. -/
theorem refl (e : Evaluation α) : AlikeBy host host' uses e e := fun _ _ => rfl

/-- A sequence is alike where its first part is, and the rest for whatever value that gives. -/
theorem bind {next : α → Uses} {k k' : α → Evaluation β} (he : AlikeBy host host' uses e e')
    (hk : ∀ a, AlikeBy host host' (next a) (k a) (k' a)) :
    AlikeBy host host' (.inTurn uses e next) (e >>= k) (e' >>= k') := by
  intro b hsame
  have hfirst := he b fun use huse => hsame use (.inl huse)
  cases hrun : e b with
  | ok a m =>
    rw [bind_of_ok hrun, bind_of_ok (hfirst ▸ hrun)]
    exact hk a m fun use huse => hsame use (.inr ⟨a, m, hrun, huse⟩)
  | error err m => rw [bind_of_error hrun, bind_of_error (hfirst ▸ hrun)]

/-- What goes on alike, whatever comes first. -/
theorem bind_left {k k' : α → Evaluation β} (he : AlikeBy host host' uses e e')
    (hk : ∀ a, k a = k' a) : AlikeBy host host' uses (e >>= k) (e' >>= k') := by
  intro b hsame
  rw [funext hk]
  exact bind_of_eq (he b hsame)

/-- An operation is alike where the two hosts agree on the one use that it makes. -/
theorem lift {use : Use} {result result' : Except Cause α}
    (h : use.SameIn host host' → result = result') (nodeName : String) (token : Token) :
    AlikeBy host host' (.one use) (lift nodeName token result) (lift nodeName token result') :=
  fun _ hsame => by rw [h (hsame use rfl)]

variable {body body' : Evaluation Value} {token item source : Token}

/-- The items of a loop are one use. -/
theorem itemsOf : AlikeBy host host' (.ofItems item source) (itemsOf host token item source)
    (itemsOf host' token item source) := by
  intro b hsame
  rw [itemsOf_run, itemsOf_run]
  cases hfree : b.has item.text with
  | true => rfl
  | false =>
    rw [if_neg Bool.false_ne_true, if_neg Bool.false_ne_true]
    cases hv : b.get? source.text with
    | none =>
      have hfails := lookup_of_none hv "EachLoop" token
      rw [bind_of_error hfails, bind_of_error hfails]
    | some v =>
      have hfound := lookup_of_some hv "EachLoop" token
      have hitems : host.items v source.text = host'.items v source.text :=
        hsame (.items v source.text) ⟨hfree, v, hv, rfl⟩
      rw [bind_of_ok hfound, bind_of_ok hfound, hitems]

/-- The body is run for one item after the other. -/
theorem forItems (h : AlikeBy host host' uses body body') (items : List Value) :
    AlikeBy host host' (.ofBody token item body uses items) (forItems token item body items)
      (forItems token item body' items) := by
  induction items with
  | nil => exact refl _
  | cons v vs ih => exact (refl _).bind fun _ => h.bind fun first => ih.bind_left fun rest => rfl

/-- And a loop is its items and then its body. -/
theorem loop (h : AlikeBy host host' uses body body') :
    AlikeBy host host' (.ofLoop host token item source body uses) (loop host token item source body)
      (loop host' token item source body') := by
  rw [loop_eq, loop_eq]
  exact itemsOf.bind fun items => (h.forItems items).bind_left fun texts => rfl

/-- What is done with an error is nothing to the host. -/
theorem fragment {onError : OnError} (h : AlikeBy host host' uses body body') :
    AlikeBy host host' uses (fragment onError body) (fragment onError body') := by
  intro b hsame
  unfold Evaluation.fragment
  rw [h b hsame]

end AlikeBy

end Evaluation

/-- Whether a value has a class is the same for all hosts, and so is why it has none. -/
theorem Host.classFor_cases (host host' : Host) (receiver : Value) (name : String) :
    (∃ cause, host.classFor receiver name = .error cause ∧
      host'.classFor receiver name = .error cause) ∨
    ∃ c c', host.classFor receiver name = .ok c ∧ host'.classFor receiver name = .ok c' := by
  cases receiver with
  | null => exact .inl ⟨_, rfl, rfl⟩
  | procedure p => exact .inl ⟨_, rfl, rfl⟩
  | object o =>
    obtain ⟨number, classRef, display⟩ := o
    cases classRef <;> exact .inr ⟨_, _, rfl, rfl⟩
  | _ => exact .inr ⟨_, _, rfl, rfl⟩

open Evaluation AlikeBy

section
variable (host host' : Host)

mutual
/-- A node is evaluated alike by hosts that agree on each of its uses. -/
private theorem Node.alikeBy : (node : Node) →
    AlikeBy host host' (node.uses host) (node.eval host) (node.eval host')
  | .template _ children => by
    rw [Node.uses, Node.eval, Node.eval]
    exact (Node.alikeByAll children).bind_left fun values => rfl
  | .terminal _ _ | .null _ | .noOp _ => by
    rw [Node.eval, Node.eval]
    exact .refl _
  | .access (.bare _) _ => by
    rw [Node.eval, Node.eval]
    exact .refl _
  | .access (.read token) members => by
    rw [Node.uses, Node.eval, Node.eval]
    · exact (Link.alikeByHead (.read token)).bind fun v => Link.alikeByMembers members v
    all_goals exact nofun
  | .access (.call token args) members => by
    rw [Node.uses, Node.eval, Node.eval]
    · exact (Link.alikeByHead (.call token args)).bind fun v => Link.alikeByMembers members v
    all_goals exact nofun
  | .binary op left right => by
    rw [Node.uses, Node.eval, Node.eval]
    exact (Node.alikeBy left).bind fun a => (Node.alikeBy right).bind_left fun b => rfl
  | .unary op operand => by
    rw [Node.uses, Node.eval, Node.eval]
    exact (Node.alikeBy operand).bind_left fun v => rfl
  | .branch condition thenBody elseBody => by
    rw [Node.uses, Node.eval, Node.eval]
    refine (Node.alikeBy condition).bind fun v => ?_
    cases v with
    | boolean b =>
      cases b with
      | true => exact Node.alikeBy thenBody
      | false => exact Node.alikeBy elseBody
    | _ => exact .refl _
  | .each token item source body => by
    rw [Node.uses, Node.eval, Node.eval]
    exact (Node.alikeBy body).loop

private theorem Node.alikeByAll : (nodes : List Node) →
    AlikeBy host host' (Node.usesOfAll host nodes) (Node.evalAll host nodes) (Node.evalAll host' nodes)
  | [] => .refl _
  | node :: nodes => by
    rw [Node.usesOfAll, Node.evalAll, Node.evalAll]
    exact (Node.alikeBy node).bind fun v => (Node.alikeByAll nodes).bind_left fun values => rfl

private theorem Link.alikeByHead : (link : Link) →
    AlikeBy host host' (link.usesOfHead host) (link.evalHead host) (link.evalHead host')
  | .bare token | .read token => .refl _
  | .call token args => by
    rw [Link.usesOfHead, Link.evalHead, Link.evalHead]
    refine (AlikeBy.refl _).bind fun v => ?_
    cases v with
    | procedure p => exact (Node.alikeByAll args).bind fun args => .lift id _ _
    | _ => exact .refl _

private theorem Link.alikeByMember : (link : Link) → (receiver : Value) →
    AlikeBy host host' (link.usesOfMember host receiver) (link.evalMember host receiver)
      (link.evalMember host' receiver)
  | .bare token, receiver | .read token, receiver => .lift id _ _
  | .call token args, receiver => by
    rw [Link.usesOfMember, Link.evalMember, Link.evalMember]
    rcases host.classFor_cases host' receiver token.text with
      ⟨cause, hclass, hclass'⟩ | ⟨c, c', hclass, hclass'⟩
    · rw [hclass, hclass']
      exact .refl _
    · rw [hclass, hclass']
      refine (Node.alikeByAll args).bind fun args => .lift (fun hsame => ?_) _ _
      simpa only [Use.SameIn, Host.callMember, hclass, hclass'] using hsame

private theorem Link.alikeByMembers : (links : List Link) → (receiver : Value) →
    AlikeBy host host' (Link.usesOfMembers host receiver links) (Link.evalMembers host receiver links)
      (Link.evalMembers host' receiver links)
  | [], _ => .refl _
  | link :: links, receiver => by
    rw [Link.usesOfMembers, Link.evalMembers, Link.evalMembers]
    exact (Link.alikeByMember link receiver).bind fun v => Link.alikeByMembers links v
end

private theorem Evaluation.alikeBy_fragments (onError : OnError) (nodes : List Node) :
    AlikeBy host host' (usesOfFragments host onError nodes) (fragments host onError nodes)
      (fragments host' onError nodes) := by
  induction nodes with
  | nil => exact .refl _
  | cons node nodes ih =>
    exact (node.alikeBy host host').fragment.bind fun first => ih.bind_left fun rest => rfl

end

variable {host host' : Host} {b : Bindings}

/-- **Evaluation depends on its host by what it uses alone.** -/
theorem Node.eval_of_sameIn (node : Node) (h : ∀ use, node.uses host b use → use.SameIn host host') :
    node.eval host b = node.eval host' b :=
  node.alikeBy host host' b h

/-- **So does rendering.** -/
theorem Evaluation.render_of_sameIn (onError : OnError) (node : Node)
    (h : ∀ use, usesOfRender host onError node b use → use.SameIn host host') :
    render host onError node b = render host' onError node b := by
  cases node with
  | template token children =>
    exact ((alikeBy_fragments host host' onError children).bind_left fun texts => rfl) b h
  | _ => exact ((Node.alikeBy host host' _).bind_left fun v => rfl) b h

end Stencil
