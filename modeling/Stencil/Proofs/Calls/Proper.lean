import Stencil.Proofs.Calls.Receivers

/-!
# Members are used properly

Evaluation that begins with backed values alone comes to no others, whether it succeeds or fails
(`Node.sound`, `Evaluation.render_sound`). So it asks nothing of a class that is not made for the
receiver, and nothing that a member finds is other than promised, but for what a host says of its own
accord (`Host.uses_proper`).
-/

namespace Stencil

namespace Evaluation

variable {α β : Type} {host : Host} {Good : α → Prop} {Good' : β → Prop} {uses : Uses}
  {e : Evaluation α}

/-- An evaluation that begins with these bindings. -/
structure SoundAt (host : Host) (Good : α → Prop) (uses : Uses) (e : Evaluation α) (b : Bindings) :
    Prop where
  /-- It leaves backed values, also where it fails. -/
  backed : (left (e b)).Backed host
  good : ∀ a b', e b = .ok a b' → Good a
  allowed : ∀ err b', e b = .error err b' → host.Allows (uses b) err.cause
  /-- What it uses is used properly. -/
  proper : ∀ use, uses b use → use.Proper host

/-- It is enough that the evaluation begins in the same way, and uses the same. -/
theorem SoundAt.of_eq {e' : Evaluation α} {uses' : Uses} {b : Bindings}
    (h : SoundAt host Good uses e b) (he : e' b = e b) (huses : uses' b = uses b) :
    SoundAt host Good uses' e' b := by
  refine ⟨?_, ?_, ?_, huses ▸ h.proper⟩
  · rw [he]
    exact h.backed
  · rw [he]
    exact h.good
  · rw [he, huses]
    exact h.allowed

/-- So it is wherever it begins with backed values. -/
def Sound (host : Host) (Good : α → Prop) (uses : Uses) (e : Evaluation α) : Prop :=
  ∀ b : Bindings, b.Backed host → SoundAt host Good uses e b

namespace Sound

/-- A sequence is sound with the uses of its parts in turn. -/
theorem bind {next : α → Uses} {k : α → Evaluation β} (he : Sound host Good uses e)
    (hk : ∀ a, Good a → Sound host Good' (next a) (k a)) :
    Sound host Good' (.inTurn uses e next) (e >>= k) := by
  intro b hb
  have hfirst := he b hb
  cases hrun : e b with
  | ok a m =>
    have hm : m.Backed host := by
      have hleft := hfirst.backed
      rwa [hrun] at hleft
    have hnext := hk a (hfirst.good a m hrun) m hm
    refine ⟨?_, ?_, ?_, fun use huse => ?_⟩
    · rw [bind_of_ok hrun]
      exact hnext.backed
    · rw [bind_of_ok hrun]
      exact hnext.good
    · rw [bind_of_ok hrun]
      intro err b' hfails
      exact (hnext.allowed err b' hfails).mono fun use huse => .inr ⟨a, m, hrun, huse⟩
    · rcases huse with huse | ⟨a', m', hrun', huse⟩
      · exact hfirst.proper use huse
      · cases hrun.symm.trans hrun'
        exact hnext.proper use huse
  | error err m =>
    refine ⟨?_, fun c b' h => ?_, fun err' b' h => ?_, fun use huse => ?_⟩
    · have hleft := hfirst.backed
      rw [hrun] at hleft
      rwa [bind_of_error hrun]
    · rw [bind_of_error hrun] at h
      cases h
    · rw [bind_of_error hrun] at h
      cases h
      exact (hfirst.allowed err m hrun).mono fun use huse => .inl huse
    · rcases huse with huse | ⟨a', m', hrun', -⟩
      · exact hfirst.proper use huse
      · cases hrun.symm.trans hrun'

/-- What comes next may use nothing. -/
theorem bind_none {k : α → Evaluation β} (he : Sound host Good uses e)
    (hk : ∀ a, Good a → Sound host Good' .none (k a)) : Sound host Good' uses (e >>= k) := by
  intro b hb
  exact (he.bind hk b hb).of_eq rfl (Uses.inTurn_none uses e b).symm

/-- A value alone uses nothing. -/
theorem pure {a : α} (h : Good a) : Sound host Good .none (pure a) := by
  intro b hb
  refine ⟨hb, fun a' b' hrun => ?_, fun err b' hrun => ?_, fun _ huse => huse.elim⟩
  · cases hrun
    exact h
  · cases hrun

/-- What an operation answers is sound if every answer it gives is, and the operation is proper. -/
theorem lift {result : Except Cause α} (h : ∀ b, host.Answers (uses b) Good result)
    (huses : ∀ b use, uses b use → use.Proper host) (nodeName : String) (token : Token) :
    Sound host Good uses (lift nodeName token result) := by
  intro b hb
  refine ⟨(left_lift nodeName token result).symm ▸ hb, fun a b' hrun => ?_, fun err b' hrun => ?_,
    huses b⟩
  · cases h b with
    | ok ha =>
      cases hrun
      exact ha
    | error => cases hrun
  · cases h b with
    | ok => cases hrun
    | error hcause =>
      cases hrun
      exact hcause

/-- A result for which nothing is used. -/
theorem tell {result : Except Cause α} (h : host.Answers (fun _ => False) Good result)
    (nodeName : String) (token : Token) :
    Sound host Good .none (Evaluation.lift nodeName token result) :=
  .lift (fun _ => h) (fun _ _ huse => huse.elim) nodeName token

/-- A name that is looked up uses nothing, and its value is backed as the table is. -/
theorem lookup (nodeName : String) (token : Token) (name : String) :
    Sound host (Value.Backed host) .none (lookup nodeName token name) := by
  intro b hb
  cases hv : b.get? name with
  | some v =>
    have hrun := lookup_of_some hv nodeName token
    refine ⟨?_, fun a b' h => ?_, fun err b' h => ?_, fun _ huse => huse.elim⟩
    · rw [hrun]
      exact hb
    · cases hrun.symm.trans h
      exact hb name v hv
    · cases hrun.symm.trans h
  | none =>
    have hrun := lookup_of_none hv nodeName token
    refine ⟨?_, fun a b' h => ?_, fun err b' h => ?_, fun _ huse => huse.elim⟩
    · rw [hrun]
      exact hb
    · cases hrun.symm.trans h
    · cases hrun.symm.trans h
      exact Host.allows_of_ne fun _ => nofun

/-- An assignment uses nothing, and leaves a table that is backed. -/
theorem assign {v : Value} (hv : v.Backed host) (nodeName : String) (token : Token) (name : String) :
    Sound host (fun _ => True) .none (assign nodeName token name v) := by
  intro b hb
  cases hset : b.set name v with
  | ok b' =>
    have hrun := assign_of_ok hset nodeName token
    refine ⟨?_, fun _ _ _ => trivial, fun err b'' h => ?_, fun _ huse => huse.elim⟩
    · rw [hrun]
      exact hb.set hv hset
    · cases hrun.symm.trans h
  | error e =>
    have hrun := assign_of_error hset nodeName token
    refine ⟨?_, fun _ _ _ => trivial, fun err b'' h => ?_, fun _ huse => huse.elim⟩
    · rw [hrun]
      exact hb
    · cases hrun.symm.trans h
      exact Host.allows_of_ne fun _ => nofun

variable {body : Evaluation Value} {token item source : Token}

/-- The items of a loop use one iteration. -/
theorem itemsOf (hhost : host.GivesBacked) :
    Sound host (fun items => ∀ v ∈ items, v.Backed host) (.ofItems item source)
      (itemsOf host token item source) := by
  have hitems : Sound host (fun items => ∀ v ∈ items, v.Backed host)
      (.inTurn .none (Evaluation.lookup "EachLoop" token source.text) fun v =>
        .one (.items v source.text))
      (do
        let v ← Evaluation.lookup "EachLoop" token source.text
        Evaluation.lift "EachLoop" token (host.items v source.text)) := by
    refine (lookup "EachLoop" token source.text).bind fun v hv => ?_
    refine lift (fun _ => Host.items_answers hhost hv) (fun b use huse => ?_) "EachLoop" token
    exact huse ▸ Use.proper_items hv
  have htaken : Sound host (fun items : List Value => ∀ v ∈ items, v.Backed host) .none
      (Evaluation.lift "EachLoop" token (.error (.loopVariableTaken item.text))) := by
    refine tell ?_ "EachLoop" token
    exact .cause fun _ => nofun
  intro b hb
  cases hfree : b.has item.text with
  -- a loop whose variable is bound already asks for nothing
  | true =>
    refine (htaken b hb).of_eq ?_ (Uses.ofItems_of_bound hfree)
    rw [itemsOf_run, if_pos hfree]
    rfl
  | false =>
    refine (hitems b hb).of_eq ?_ (Uses.ofItems_of_free hfree token)
    rw [itemsOf_run, hfree, if_neg Bool.false_ne_true]

/-- The body is used for one item after the other, each with what the one before left. -/
theorem forItems (hbody : Sound host (Value.Backed host) uses body) {items : List Value}
    (hitems : ∀ v ∈ items, v.Backed host) :
    Sound host (fun _ => True) (.ofBody token item body uses items) (forItems token item body items) := by
  induction items with
  | nil => exact pure trivial
  | cons v vs ih =>
    obtain ⟨hv, hvs⟩ := List.forall_mem_cons.mp hitems
    refine (assign hv "EachLoop" token item.text).bind fun _ _ => hbody.bind fun first _ => ?_
    exact (ih hvs).bind_none fun rest _ => pure trivial

/-- So a loop uses an iteration and then its body for every item. -/
theorem loop (hhost : host.GivesBacked) (hbody : Sound host (Value.Backed host) uses body) :
    Sound host (Value.Backed host) (.ofLoop host token item source body uses)
      (loop host token item source body) := by
  rw [loop_eq]
  refine (itemsOf hhost).bind fun items hitems => ?_
  exact (hbody.forItems hitems).bind_none fun texts _ => pure (Value.backed_of_kind nofun nofun)

/-- What has failed in the place of a fragment leaves backed values as well. -/
theorem fragment {onError : OnError} (h : Sound host (Value.Backed host) uses body) :
    Sound host (fun _ => True) uses (fragment onError body) := by
  intro b hb
  have hbody := h b hb
  have hleft : left (Evaluation.fragment onError body b) = left (body b) := by
    unfold Evaluation.fragment
    cases body b with
    | ok v m => rfl
    | error err m => cases onError <;> rfl
  refine ⟨hleft ▸ hbody.backed, fun _ _ _ => trivial, fun err b' hrun => ?_, hbody.proper⟩
  unfold Evaluation.fragment at hrun
  cases hfails : body b with
  | ok v m => simp only [hfails, reduceCtorEq] at hrun
  | error err' m =>
    cases onError with
    | stop =>
      simp only [hfails, EStateM.Result.error.injEq] at hrun
      exact hrun.1 ▸ hbody.allowed err' m hfails
    | substitute => simp only [hfails, reduceCtorEq] at hrun

end Sound

end Evaluation

/-! ## Trees -/

open Evaluation

variable {host : Host}

mutual
/-- **Evaluation of backed values comes to backed values.** -/
theorem Node.sound (hhost : host.GivesBacked) : (node : Node) →
    Sound host (Value.Backed host) (node.uses host) (node.eval host)
  | .template _ children => by
    rw [Node.uses, Node.eval]
    exact (Node.soundAll hhost children).bind_none fun _ _ => .pure (Value.backed_of_kind nofun nofun)
  | .terminal _ literal => by
    rw [Node.uses, Node.eval]
    cases literal <;> exact .pure (Value.backed_of_kind nofun nofun)
  | .null _ | .noOp _ => by
    rw [Node.uses, Node.eval]
    exact .pure (Value.backed_of_kind nofun nofun)
  | .access (.bare token) _ => by
    rw [Node.uses, Node.eval]
    exact .lookup "Identifier" token token.text
  | .access (.read token) members => by
    rw [Node.uses, Node.eval]
    · refine (Link.soundHead hhost (.read token)).bind fun v hv => ?_
      exact Link.soundMembers hhost members v hv
    all_goals exact nofun
  | .access (.call token args) members => by
    rw [Node.uses, Node.eval]
    · refine (Link.soundHead hhost (.call token args)).bind fun v hv => ?_
      exact Link.soundMembers hhost members v hv
    all_goals exact nofun
  | .binary op left right => by
    rw [Node.uses, Node.eval]
    refine (Node.sound hhost left).bind fun a _ => (Node.sound hhost right).bind_none fun b _ => ?_
    exact .tell (op.applyBinary_answers a b) "BinaryOperation" op
  | .unary op operand => by
    rw [Node.uses, Node.eval]
    refine (Node.sound hhost operand).bind_none fun v _ => ?_
    exact .tell (op.applyUnary_answers v) "UnaryOperation" op
  -- only the body that is chosen is used
  | .branch condition thenBody elseBody => by
    rw [Node.uses, Node.eval]
    refine (Node.sound hhost condition).bind fun v _ => ?_
    cases v with
    | boolean b =>
      cases b with
      | true => exact Node.sound hhost thenBody
      | false => exact Node.sound hhost elseBody
    | _ =>
      refine .tell ?_ "Branch" condition.token
      exact .cause fun _ => nofun
  | .each token item source body => by
    rw [Node.uses, Node.eval]
    exact (Node.sound hhost body).loop hhost

private theorem Node.soundAll (hhost : host.GivesBacked) : (nodes : List Node) →
    Sound host (fun values => ∀ v ∈ values, v.Backed host) (Node.usesOfAll host nodes)
      (Node.evalAll host nodes)
  | [] => .pure nofun
  | node :: nodes => by
    rw [Node.usesOfAll, Node.evalAll]
    refine (Node.sound hhost node).bind fun v hv => ?_
    refine (Node.soundAll hhost nodes).bind_none fun values hvalues => ?_
    exact .pure (List.forall_mem_cons.mpr ⟨hv, hvalues⟩)

private theorem Link.soundHead (hhost : host.GivesBacked) : (link : Link) →
    Sound host (Value.Backed host) (link.usesOfHead host) (link.evalHead host)
  | .bare token => .lookup "Identifier" token token.text
  | .read token => .lookup "VariableAccess" token token.text
  | .call token args => by
    rw [Link.usesOfHead, Link.evalHead]
    refine (Sound.lookup "ProcedureCall" token token.text).bind fun v _ => ?_
    cases v with
    | procedure p =>
      refine (Node.soundAll hhost args).bind fun args hargs => ?_
      refine .lift (fun _ => Host.callProcedure_answers hhost p hargs) (fun b use huse => ?_) _ _
      exact huse ▸ trivial
    | _ =>
      refine .tell ?_ "ProcedureCall" token
      exact .cause fun _ => nofun

private theorem Link.soundMember (hhost : host.GivesBacked) : (link : Link) → (receiver : Value) →
    receiver.Backed host →
    Sound host (Value.Backed host) (link.usesOfMember host receiver) (link.evalMember host receiver)
  | .bare token, receiver, hreceiver | .read token, receiver, hreceiver => by
    refine .lift (fun _ => Host.readMember_answers hhost hreceiver) (fun b use huse => ?_) _ token
    exact huse ▸ Use.proper_property hreceiver
  | .call token args, receiver, hreceiver => by
    rw [Link.usesOfMember, Link.evalMember]
    cases hclass : host.classFor receiver token.text with
    | error cause => exact .tell (.error (Host.allows_of_classFor hclass)) "ProcedureCall" token
    | ok c =>
      refine (Node.soundAll hhost args).bind fun args hargs => ?_
      have hc := Host.class?_of_classFor hclass
      refine .lift (fun _ => Host.callMethod_answers hhost hreceiver hc hargs) (fun b use huse => ?_) _ token
      exact huse ▸ Use.proper_method hreceiver args

private theorem Link.soundMembers (hhost : host.GivesBacked) :
    (links : List Link) → (receiver : Value) →
    receiver.Backed host →
    Sound host (Value.Backed host) (Link.usesOfMembers host receiver links)
      (Link.evalMembers host receiver links)
  | [], _, hreceiver => .pure hreceiver
  | link :: links, receiver, hreceiver => by
    rw [Link.usesOfMembers, Link.evalMembers]
    -- the value of the link is the receiver of those behind it
    refine (Link.soundMember hhost link receiver hreceiver).bind fun v hv => ?_
    exact Link.soundMembers hhost links v hv
end

/-- The fragments of a template, whatever is done with those that fail. -/
private theorem Evaluation.fragments_sound (hhost : host.GivesBacked) (onError : OnError)
    (nodes : List Node) :
    Sound host (fun _ => True) (usesOfFragments host onError nodes) (fragments host onError nodes) := by
  induction nodes with
  | nil => exact .pure trivial
  | cons node nodes ih =>
    refine (node.sound hhost).fragment.bind fun first _ => ih.bind_none fun rest _ => ?_
    exact .pure trivial

/-- **So does rendering**, also where it goes on behind a fragment that has failed. -/
theorem Evaluation.render_sound (hhost : host.GivesBacked) (onError : OnError) (node : Node) :
    Sound host (fun _ => True) (usesOfRender host onError node) (render host onError node) := by
  cases node with
  | template token children =>
    exact (fragments_sound hhost onError children).bind_none fun _ _ => .pure trivial
  | _ => exact (Node.sound hhost _).bind_none fun _ _ => .pure trivial

/-- **Members are used properly.** Let a host give back backed values for backed ones, and let all values
that are bound be backed, as they are where all objects in them have been made
(`Bindings.backed_of_made`). Then the class in which a property, a method or items are looked up sees the
receiver, whatever tree is evaluated or rendered; a method gets one value for each parameter; and a
misuse of a member is an error only where the body that is called for something that is used says so
itself. What is left is backed again. A method of the library looks at nothing behind its values and
finds all as promised, with one exception: where a text is asked for and no value is passed, the fault
says so, or there is no value, or it is another argument that is looked at first and at fault. -/
theorem Host.uses_proper (host : Host) (hhost : host.GivesBacked) :
    (∀ (node : Node) (b : Bindings), b.Backed host →
      (∀ use, node.uses host b use → use.Proper host) ∧
      (∀ v b', node.eval host b = .ok v b' → v.Backed host) ∧
      (∀ e b', node.eval host b = .error e b' → host.Allows (node.uses host b) e.cause) ∧
      (left (node.eval host b)).Backed host ∧
      ∀ onError, (∀ use, usesOfRender host onError node b use → use.Proper host) ∧
        (∀ e b', render host onError node b = .error e b' →
          host.Allows (usesOfRender host onError node b) e.cause) ∧
        (left (render host onError node b)).Backed host) ∧
    ∀ (c : Class) (m : Method c.Data) (data : c.Data) (args bound : List Value), c.IsBuiltin host.patterns →
      m ∈ c.methods → m.bind args = .ok bound →
      bound.length = m.params.length ∧ m.KeepsTo host.patterns data bound := by
  refine ⟨fun node b hb => ?_, fun c m data args bound hc hm hbind => ?_⟩
  · have heval := node.sound hhost b hb
    refine ⟨heval.proper, heval.good, heval.allowed, heval.backed, fun onError => ?_⟩
    have hrender := render_sound hhost onError node b hb
    exact ⟨hrender.proper, hrender.allowed, hrender.backed⟩
  · exact ⟨Signature.length_of_bind hbind, hc.keepsTo data hm hbind⟩

/-- A counter gives back another counter, whose number is read; and no value in the place of a text is
seen by a method of texts. -/
theorem Host.uses_proper_counter :
    let object (n : Nat) : Object := ⟨n, .declared 0 "Counter", "counter"⟩
    let params : List Param := [{ kind := .integer, default? := some (.integer 1) }]
    let next : Method Nat := ⟨⟨"Next", params⟩, fun n _ => .ok (.object (object (n + 1)))⟩
    let counter : Class := {
      name := "Counter"
      Data := Nat
      view := fun
        | .object o => if o.classRef = .declared 0 "Counter" then some o.number else none
        | _ => none
      properties := [("Number", fun n => .integer (Int64.ofNat n))]
      methods := [next]
      items? := some fun n => (List.range n).map fun k => .object (object k) }
    let host : Host := { classOf := fun _ => counter, call := fun _ _ => .ok .null }
    let b : Bindings := [("c", ⟨.object (object 3), some "Counter"⟩)]
    let node : Node := .access (.read ⟨.identifier, "c", 0⟩)
      [.call ⟨.identifier, "Next", 2⟩ [], .read ⟨.identifier, "Number", 9⟩]
    let use : Use := .property (.object (object 4)) "Number"
    let bound : List Value := [.text "a", .null]
    host.GivesBacked ∧ b.Backed host ∧ node.eval host b = .ok (.integer 4) b ∧
      node.uses host b use ∧ use.Proper host ∧
      Class.replaceMethod.bind bound = .ok bound ∧ Class.replaceMethod.KeepsTo host.patterns "abc".toList bound := by
  intro object params next counter host b node use bound
  have hobject (n : Nat) : (Value.object (object n)).Backed host := by
    intro o ho
    cases ho
    exact ⟨counter, n, rfl, rfl⟩
  have hhost : host.GivesBacked := by
    refine ⟨fun number => ⟨?_, ?_, ?_⟩, fun number args v _ hv => ?_⟩
    · intro name get receiver data hget _ _
      cases List.mem_singleton.mp hget
      exact Value.backed_of_kind nofun nofun
    · intro m hm receiver data args bound v _ _ _ _ hv
      cases List.mem_singleton.mp hm
      cases hv
      exact hobject (data + 1)
    · intro items receiver data hitems _ _ v hv
      cases hitems
      obtain ⟨k, -, rfl⟩ := List.mem_map.mp hv
      exact hobject k
    · cases hv
      exact Value.backed_of_kind nofun nofun
  have hb : b.Backed host := by
    intro name v hv
    rw [Bindings.get?, Bindings.entry?_cons] at hv
    split at hv
    · cases hv
      exact hobject 3
    · cases hv
  have huse : node.uses host b use :=
    .inr ⟨.object (object 3), b, rfl, .inr ⟨.object (object 4), b, rfl, .inl rfl⟩⟩
  have hmem : Class.replaceMethod ∈ Class.text.methods :=
    List.mem_of_getElem? (show Class.text.methods[6]? = some Class.replaceMethod from rfl)
  obtain ⟨htrees, hbuiltin⟩ := uses_proper host hhost
  exact ⟨hhost, hb, rfl, huse, (htrees node b hb).1 use huse, rfl,
    (hbuiltin .text Class.replaceMethod "abc".toList bound bound (.inl ⟨.text, rfl⟩) hmem rfl).2⟩

end Stencil
