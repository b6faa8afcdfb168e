import Stencil.Evaluation
import Stencil.Proofs.Steps

/-!
# Evaluation with a journal

What an evaluation does to the bindings on its way is not to be seen from what it leaves. So trees are
evaluated once more with a journal, in which every change of the bindings is an event: the variable of
a loop gets an item, whereupon the body of the loop is run, or a name is bound from outside.

An evaluation of a tree is put together from few parts: names that are looked up, operations that
may fail, and loops. The evaluation with a journal is put together from the same parts in the same way,
and names are looked up and bound only where the tree mentions them (`Node.journals_of_subset`). What
holds of the parts, and of what is put together from them, holds of all trees.
-/

namespace Stencil

/-! ## Names in a tree -/

/-- A name that a tree mentions. -/
inductive Mention where
  /-- The name is looked up: of an access, or of a loop's items. -/
  | reads (name : String)
  /-- The name is the variable of a loop. -/
  | binds (name : String)
deriving DecidableEq, Repr

/-- The name that is mentioned. -/
def Mention.name : Mention → String
  | reads name | binds name => name

mutual
/-- What a tree mentions. Names behind a dot are members and not mentioned. -/
def Node.mentions : Node → List Mention
  | .template _ children => Node.mentionsOfAll children
  | .terminal _ _ | .null _ | .noOp _ => []
  | .access head members => .reads head.token.text :: (head.mentions ++ Link.mentionsOfAll members)
  | .binary _ left right => left.mentions ++ right.mentions
  | .unary _ operand => operand.mentions
  | .branch condition thenBody elseBody =>
    condition.mentions ++ (thenBody.mentions ++ elseBody.mentions)
  | .each _ item source body => .binds item.token.text :: .reads source.token.text :: body.mentions
/-- What trees side by side mention. -/
def Node.mentionsOfAll : List Node → List Mention
  | [] => []
  | node :: nodes => node.mentions ++ Node.mentionsOfAll nodes
/-- What the arguments of a link mention. -/
def Link.mentions : Link → List Mention
  | .bare _ | .read _ => []
  | .call _ args => Node.mentionsOfAll args
/-- What the arguments of links mention. -/
def Link.mentionsOfAll : List Link → List Mention
  | [] => []
  | link :: links => link.mentions ++ Link.mentionsOfAll links
end

/-- The names that a tree mentions. -/
def Node.names (node : Node) : List String := node.mentions.map Mention.name

/-! ## Journals -/

/-- A change of the bindings. -/
inductive Event where
  /-- A name is bound from outside. -/
  | assigned (name : String) (v : Value)
  /-- The variable of a loop is bound to an item, and the body is run. The loop is told from others by
  the number of events before its first item. -/
  | iterated (loop : Nat) (name : String) (v : Value)

namespace Event

/-- The name that is bound. -/
def name : Event → String
  | assigned name _ | iterated _ name _ => name

/-- The value that the name is bound to. -/
def value : Event → Value
  | assigned _ v | iterated _ _ v => v

/-- Is the change made by a loop? -/
def isIterated : Event → Bool
  | assigned .. => false
  | iterated .. => true

end Event

/-- Bindings, and all the changes that have led to them, in order. -/
structure Journal where
  bindings : Bindings
  events : List Event

/-- An evaluation that keeps a journal. -/
abbrev Journaled := EStateM RuntimeError Journal

namespace Journaled

open Evaluation

/-- An evaluation that does not change the bindings, or whose changes are entered by whoever asks. -/
def of {α : Type} (e : Evaluation α) : Journaled α := fun s =>
  match e s.bindings with
  | .ok a bindings => .ok a { s with bindings }
  | .error e bindings => .error e { s with bindings }

/-- Enters a change. -/
def enter (event : Event) : Journaled Unit := modify fun s => { s with events := s.events ++ [event] }

/-- The written forms of the body, one for each item. -/
def forItems (token item : Token) (loop : Nat) (body : Journaled Value) :
    List Value → Journaled (List String)
  | [] => return []
  | v :: vs => do
    of (assign "EachLoop" token item.text v)
    enter (.iterated loop item.text v)
    let first ← body
    return first.display :: (← forItems token item loop body vs)

end Journaled

namespace Evaluation

/-- The items of a loop, whose variable must not be bound. -/
def itemsOf (host : Host) (token item source : Token) : Evaluation (List Value) := do
  if (← get).has item.text then lift "EachLoop" token (.error (.loopVariableTaken item.text))
  let v ← lookup "EachLoop" token source.text
  lift "EachLoop" token (host.items v source.text)

/-- A loop goes through its items. -/
theorem loop_eq (host : Host) (token item source : Token) (body : Evaluation Value) :
    loop host token item source body = do
      let items ← itemsOf host token item source
      return .text (String.join (← forItems token item body items)) := by
  unfold loop itemsOf
  rw [bind_assoc]
  congr 1
  funext bindings
  split <;> simp only [bind_assoc]

end Evaluation

namespace Journaled

/-- A loop, whose body is given by its evaluation. -/
def loop (host : Host) (token item source : Token) (body : Journaled Value) : Journaled Value := do
  let items ← of (Evaluation.itemsOf host token item source)
  let first := (← get).events.length
  return .text (String.join (← forItems token item first body items))

/-- The written form of a value, or of the error if that is wanted. -/
def fragment (onError : OnError) (v : Journaled Value) : Journaled String := fun s =>
  match v s, onError with
  | .ok v s, _ => .ok v.display s
  | .error e s, .stop => .error e s
  | .error e s, .substitute => .ok e.message s

end Journaled

open Evaluation in
mutual
/-- The value of a tree. -/
def Node.journal (host : Host) : Node → Journaled Value
  | .template _ children => do
    return .text (String.join (Value.displays (← Node.journalAll host children)))
  | .terminal _ literal => return literal.value
  | .null _ => return .null
  | .noOp _ => return .text ""
  | .access (.bare token) _ => .of (lookup "Identifier" token token.text)
  | .access head members => do Link.journalMembers host (← head.journalHead host) members
  | .binary op left right => do
    let a ← left.journal host
    let b ← right.journal host
    .of (lift "BinaryOperation" op (op.applyBinary a b))
  | .unary op operand => do
    let v ← operand.journal host
    .of (lift "UnaryOperation" op (op.applyUnary v))
  | .branch condition thenBody elseBody => do
    match ← condition.journal host with
    | .boolean true => thenBody.journal host
    | .boolean false => elseBody.journal host
    | v => .of (lift "Branch" condition.token (.error (.conditionType v.typeName)))
  | .each token item source body =>
    Journaled.loop host token item.token source.token (body.journal host)
/-- The values of trees, from the left. -/
def Node.journalAll (host : Host) : List Node → Journaled (List Value)
  | [] => return []
  | node :: nodes => do
    let v ← node.journal host
    return v :: (← Node.journalAll host nodes)
/-- The value of the link that an access starts with. -/
def Link.journalHead (host : Host) : Link → Journaled Value
  | .bare token => .of (lookup "Identifier" token token.text)
  | .read token => .of (lookup "VariableAccess" token token.text)
  | .call token args => do
    match ← Journaled.of (lookup "ProcedureCall" token token.text) with
    | .procedure p =>
      let args ← Node.journalAll host args
      .of (lift "ProcedureCall" token (host.callProcedure p token.text args))
    | _ => .of (lift "ProcedureCall" token (.error (.notProcedure token.text)))
/-- The value of a link behind a dot. -/
def Link.journalMember (host : Host) (receiver : Value) : Link → Journaled Value
  | .bare token => .of (lift "Identifier" token (host.readMember receiver token.text))
  | .read token => .of (lift "VariableAccess" token (host.readMember receiver token.text))
  | .call token args =>
    match host.classFor receiver token.text with
    | .error cause => .of (lift "ProcedureCall" token (.error cause))
    | .ok c => do
      let args ← Node.journalAll host args
      .of (lift "ProcedureCall" token (c.callMethod receiver token.text args))
/-- The value of links of which each follows the dot of the one before it. -/
def Link.journalMembers (host : Host) (receiver : Value) : List Link → Journaled Value
  | [] => return receiver
  | link :: links => do Link.journalMembers host (← link.journalMember host receiver) links
end

namespace Journaled

/-- The fragments of a template in writing. -/
def fragments (host : Host) (onError : OnError) : List Node → Journaled (List String)
  | [] => return []
  | node :: nodes => do
    let first ← fragment onError (node.journal host)
    return first :: (← fragments host onError nodes)

/-- A tree in writing. -/
def render (host : Host) (onError : OnError) : Node → Journaled String
  | .template _ children => return String.join (← fragments host onError children)
  | node => return (← node.journal host).display

end Journaled

/-! ## Parts -/

open Evaluation in
/-- **An evaluation and the one with a journal are put together from the same parts.** Names are looked
up and bound only where they are among those mentioned. -/
inductive Journals (host : Host) (mentioned : List Mention) :
    {α : Type} → Evaluation α → Journaled α → Prop
  | pure {α : Type} (a : α) : Journals host mentioned (pure a) (pure a)
  | bind {α β : Type} {e : Evaluation α} {j : Journaled α} {f : α → Evaluation β}
      {g : α → Journaled β} : Journals host mentioned e j →
      (∀ a, Journals host mentioned (f a) (g a)) → Journals host mentioned (e >>= f) (j >>= g)
  | lift {α : Type} (nodeName : String) (token : Token) (result : Except Cause α) :
      Journals host mentioned (lift nodeName token result) (.of (lift nodeName token result))
  | lookup (nodeName : String) (token : Token) {name : String} : .reads name ∈ mentioned →
      Journals host mentioned (lookup nodeName token name) (.of (lookup nodeName token name))
  | loop (token : Token) {item source : Token} {e : Evaluation Value} {j : Journaled Value} :
      .binds item.text ∈ mentioned → .reads source.text ∈ mentioned → Journals host mentioned e j →
      Journals host mentioned (loop host token item source e) (.loop host token item source j)
  | fragment (onError : OnError) {e : Evaluation Value} {j : Journaled Value} :
      Journals host mentioned e j →
      Journals host mentioned (fragment onError e) (.fragment onError j)

section
variable {mentioned : List Mention}

mutual
/-- **Trees are evaluated with a journal as they are without one.** -/
theorem Node.journals_of_subset (host : Host) : (node : Node) → node.mentions ⊆ mentioned →
    Journals host mentioned (node.eval host) (node.journal host)
  | .template _ children, h => by
    rw [Node.eval, Node.journal]
    exact .bind (Node.journalsAll_of_subset host children h) fun _ => .pure _
  | .terminal _ _, _ | .null _, _ | .noOp _, _ => by
    rw [Node.eval, Node.journal]
    exact .pure _
  | .access (.bare token) _, h => by
    rw [Node.eval, Node.journal]
    exact .lookup _ _ (h List.mem_cons_self)
  | .access (.read token) members, h => by
    obtain ⟨hname, hmembers⟩ := List.cons_subset.mp h
    rw [Node.eval, Node.journal, Link.evalHead, Link.journalHead]
    · exact .bind (.lookup _ _ hname) fun _ => Link.journalsMembers_of_subset host members hmembers _
    all_goals exact nofun
  | .access (.call token args) members, h => by
    obtain ⟨hname, hlinks⟩ := List.cons_subset.mp h
    obtain ⟨hargs, hmembers⟩ := List.append_subset.mp hlinks
    rw [Node.eval, Node.journal]
    · exact .bind (Link.journalsHead_of_subset host (.call token args) hname hargs)
        fun _ => Link.journalsMembers_of_subset host members hmembers _
    all_goals exact nofun
  | .binary op left right, h => by
    obtain ⟨hleft, hright⟩ := List.append_subset.mp h
    rw [Node.eval, Node.journal]
    exact .bind (Node.journals_of_subset host left hleft) fun _ =>
      .bind (Node.journals_of_subset host right hright) fun _ => .lift _ _ _
  | .unary op operand, h => by
    rw [Node.eval, Node.journal]
    exact .bind (Node.journals_of_subset host operand h) fun _ => .lift _ _ _
  | .branch condition thenBody elseBody, h => by
    obtain ⟨hcondition, hsides⟩ := List.append_subset.mp h
    obtain ⟨hthen, helse⟩ := List.append_subset.mp hsides
    rw [Node.eval, Node.journal]
    refine .bind (Node.journals_of_subset host condition hcondition) fun v => ?_
    cases v with
    | boolean b =>
      cases b with
      | true => exact Node.journals_of_subset host thenBody hthen
      | false => exact Node.journals_of_subset host elseBody helse
    | _ => exact .lift _ _ _
  | .each token item source body, h => by
    obtain ⟨hitem, hmore⟩ := List.cons_subset.mp h
    obtain ⟨hsource, hbody⟩ := List.cons_subset.mp hmore
    rw [Node.eval, Node.journal]
    exact .loop token hitem hsource (Node.journals_of_subset host body hbody)

/-- Nodes one after the other are journalled if each is. -/
theorem Node.journalsAll_of_subset (host : Host) : (nodes : List Node) →
    Node.mentionsOfAll nodes ⊆ mentioned →
    Journals host mentioned (Node.evalAll host nodes) (Node.journalAll host nodes)
  | [], _ => .pure _
  | node :: nodes, h => by
    obtain ⟨hnode, hnodes⟩ := List.append_subset.mp h
    rw [Node.evalAll, Node.journalAll]
    exact .bind (Node.journals_of_subset host node hnode) fun _ =>
      .bind (Node.journalsAll_of_subset host nodes hnodes) fun _ => .pure _

/-- The head of an access. -/
theorem Link.journalsHead_of_subset (host : Host) : (link : Link) →
    .reads link.token.text ∈ mentioned → link.mentions ⊆ mentioned →
    Journals host mentioned (link.evalHead host) (link.journalHead host)
  | .bare token, h, _ | .read token, h, _ => by
    rw [Link.evalHead, Link.journalHead]
    exact .lookup _ _ h
  | .call token args, h, hargs => by
    rw [Link.evalHead, Link.journalHead]
    refine .bind (.lookup _ _ h) fun v => ?_
    cases v with
    | procedure p => exact .bind (Node.journalsAll_of_subset host args hargs) fun _ => .lift _ _ _
    | _ => exact .lift _ _ _

/-- One member of a receiver. -/
theorem Link.journalsMember_of_subset (host : Host) : (link : Link) →
    link.mentions ⊆ mentioned → ∀ receiver,
    Journals host mentioned (link.evalMember host receiver) (link.journalMember host receiver)
  | .bare token, _, _ | .read token, _, _ => by
    rw [Link.evalMember, Link.journalMember]
    exact .lift _ _ _
  | .call token args, hargs, receiver => by
    rw [Link.evalMember, Link.journalMember]
    cases host.classFor receiver token.text with
    | error cause => exact .lift _ _ _
    | ok c => exact .bind (Node.journalsAll_of_subset host args hargs) fun _ => .lift _ _ _

/-- And all members, each of what the one before gives. -/
theorem Link.journalsMembers_of_subset (host : Host) : (links : List Link) →
    Link.mentionsOfAll links ⊆ mentioned → ∀ receiver,
    Journals host mentioned (Link.evalMembers host receiver links)
      (Link.journalMembers host receiver links)
  | [], _, _ => .pure _
  | link :: links, h, receiver => by
    obtain ⟨hlink, hlinks⟩ := List.append_subset.mp h
    rw [Link.evalMembers, Link.journalMembers]
    exact .bind (Link.journalsMember_of_subset host link hlink receiver) fun _ =>
      Link.journalsMembers_of_subset host links hlinks _
end

/-- And so are they rendered. -/
theorem Journals.render_of_subset (host : Host) (onError : OnError) (node : Node)
    (h : node.mentions ⊆ mentioned) :
    Journals host mentioned (Evaluation.render host onError node)
      (Journaled.render host onError node) := by
  have hall (nodes : List Node) (h : Node.mentionsOfAll nodes ⊆ mentioned) :
      Journals host mentioned (Evaluation.fragments host onError nodes)
        (Journaled.fragments host onError nodes) := by
    induction nodes with
    | nil => exact .pure _
    | cons node nodes ih =>
      obtain ⟨hnode, hnodes⟩ := List.append_subset.mp h
      exact .bind (.fragment onError (node.journals_of_subset host hnode)) fun _ =>
        .bind (ih hnodes) fun _ => .pure _
  have hvalue := Journals.bind (node.journals_of_subset host h) fun v => .pure v.display
  cases node with
  | template token children => exact .bind (hall children h) fun _ => .pure _
  | terminal | null | noOp | access | binary | unary | branch | each => exact hvalue

end

end Stencil
