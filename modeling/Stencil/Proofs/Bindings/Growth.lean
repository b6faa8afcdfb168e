import Stencil.Engine
import Stencil.Proofs.Bindings.Entry
import Stencil.Proofs.Bindings.Journal
import Mathlib.Logic.Relation

/-!
# Evaluation adds loop variables

An evaluation changes the bindings in one way only, which is a step of a loop: either a loop opens and
binds its variable, which is not bound, to its first item, or a loop that has opened during the same
evaluation goes on to a later item (`Journal.Step`). The journal is kept while the evaluation goes
on as it would without (`Journals.follows`), so that what every step keeps, every evaluation keeps:
names that were bound have their entries still, and what is new are variables of loops of the tree
(`Evaluation.grows`). It does not matter whether the evaluation succeeds.
-/

namespace Stencil

/-- The bindings `b'` have the entries of `b`, and new ones for variables of loops alone. -/
structure Bindings.Grown (mentioned : List Mention) (b b' : Bindings) : Prop where
  /-- What was bound is bound to the same. -/
  kept : ∀ name, b.has name = true → Bindings.entry? b' name = b.entry? name
  /-- What was not is the variable of a loop. -/
  added : ∀ name, b'.has name = true → b.has name = false → .binds name ∈ mentioned

/-! ## Steps -/

namespace Journal

variable {mentioned : List Mention} {start start' : Nat} {s s' : Journal}

/-- A change of the bindings by an evaluation that began after `start` events. -/
inductive Step (mentioned : List Mention) (start : Nat) (s : Journal) : Journal → Prop
  /-- A loop binds its variable to the first item. -/
  | opens {name : String} {v : Value} {b : Bindings} : .binds name ∈ mentioned →
      s.bindings.has name = false → s.bindings.set name v = .ok b →
      Step mentioned start s ⟨b, s.events ++ [.iterated s.events.length name v]⟩
  /-- A loop binds its variable to a later item. -/
  | continues {loop : Nat} {name : String} {v first : Value} {b : Bindings} : start ≤ loop →
      s.events[loop]? = some (.iterated loop name first) → s.bindings.set name v = .ok b →
      Step mentioned start s ⟨b, s.events ++ [.iterated loop name v]⟩

/-- Changes one after the other. -/
abbrev Evolves (mentioned : List Mention) (start : Nat) : Journal → Journal → Prop :=
  Relation.ReflTransGen (Step mentioned start)

/-- An event keeps its place as others are written down. -/
private theorem getElem?_of_prefix {events events' : List Event} {event : Event} {i : Nat}
    (h : events <+: events') (hi : events[i]? = some event) : events'[i]? = some event := by
  obtain ⟨hlt, rfl⟩ := List.getElem?_eq_some_iff.mp hi
  exact List.prefix_iff_getElem?.mp h i hlt

/-- An event is one of those before, or the one that is entered. -/
theorem getElem?_concat_cases {events : List Event} {event last : Event} {i : Nat}
    (h : (events ++ [last])[i]? = some event) :
    (i < events.length ∧ events[i]? = some event) ∨ (i = events.length ∧ event = last) := by
  rcases Nat.lt_trichotomy i events.length with hlt | rfl | hgt
  · exact .inl ⟨hlt, List.getElem?_append_left hlt ▸ h⟩
  · rw [List.getElem?_concat_length] at h
    exact .inr ⟨rfl, (Option.some.inj h).symm⟩
  · have hlength : (events ++ [last]).length ≤ i := by
      rw [List.length_append]
      exact hgt
    rw [List.getElem?_eq_none hlength] at h
    cases h

/-- What is entered stays. -/
theorem Step.events_prefix (h : Step mentioned start s s') : s.events <+: s'.events := by
  cases h <;> exact List.prefix_append _ _

/-- Nothing that was written down is taken back. -/
theorem Evolves.events_prefix (h : Evolves mentioned start s s') : s.events <+: s'.events := by
  induction h with
  | refl => exact List.prefix_refl _
  | tail _ hstep ih => exact ih.trans hstep.events_prefix

/-- What has become of a journal. -/
structure Grown (mentioned : List Mention) (s s' : Journal) : Prop
    extends Bindings.Grown mentioned s.bindings s'.bindings where
  /-- No change was made to what was bound. -/
  fresh : ∀ (i : Nat) (event : Event), s.events.length ≤ i → s'.events[i]? = some event →
    .binds event.name ∈ mentioned ∧ s.bindings.has event.name = false

/-- A journal has grown by nothing of its own. -/
theorem Grown.refl (s : Journal) : Grown mentioned s s where
  kept _ _ := rfl
  added name hbound hfree := by
    rw [hbound] at hfree
    cases hfree
  fresh i event hi hevent := by
    rw [List.getElem?_eq_none hi] at hevent
    cases hevent

/-- What is free now was free then. -/
theorem Grown.free (h : Grown mentioned s s') {name : String} (hfree : s'.bindings.has name = false) :
    s.bindings.has name = false := by
  cases hbound : s.bindings.has name with
  | false => rfl
  | true =>
    rw [Bindings.has, h.kept name hbound, ← Bindings.has, hbound] at hfree
    cases hfree

/-- A change to a variable that was free at the start is one that may be made. -/
theorem Grown.enter (h : Grown mentioned s s') {event : Event} {b : Bindings}
    (hname : .binds event.name ∈ mentioned) (hfree : s.bindings.has event.name = false)
    (hset : s'.bindings.set event.name event.value = .ok b) :
    Grown mentioned s ⟨b, s'.events ++ [event]⟩ where
  kept name hbound := by
    have hother : name ≠ event.name := by
      rintro rfl
      rw [hbound] at hfree
      cases hfree
    exact (Bindings.entry?_of_set hset hother).trans (h.kept name hbound)
  added name hbound hfree' := by
    by_cases hother : name = event.name
    · exact hother ▸ hname
    · rw [Bindings.has, Bindings.entry?_of_set hset hother] at hbound
      exact h.added name hbound hfree'
  fresh i event' hi hevent := by
    rcases getElem?_concat_cases hevent with ⟨-, hevent⟩ | ⟨-, rfl⟩
    · exact h.fresh i event' hi hevent
    · exact ⟨hname, hfree⟩

/-- **A step of an evaluation makes a change to no name that was bound when the evaluation began.** -/
theorem Grown.step (h : Grown mentioned s s') {t : Journal}
    (hstep : Step mentioned s.events.length s' t) : Grown mentioned s t := by
  cases hstep with
  | opens hname hfree hset => exact h.enter hname (h.free hfree) hset
  | continues hstart hopened hset =>
    obtain ⟨hname, hfree⟩ := h.fresh _ _ hstart hopened
    exact h.enter hname hfree hset

/-- What evolves from the end of the journal has grown from all of it. -/
theorem Evolves.grown (h : Evolves mentioned s.events.length s s') : Grown mentioned s s' := by
  induction h with
  | refl => exact .refl s
  | tail _ hstep ih => exact ih.step hstep

/-- Where there are no loops nothing changes. -/
theorem Evolves.eq_of_no_loop (h : Evolves mentioned s.events.length s s')
    (hnone : ∀ name, .binds name ∉ mentioned) : s' = s := by
  induction h with
  | refl => rfl
  | tail _ hstep ih =>
    subst ih
    cases hstep with
    | opens hname => exact absurd hname (hnone _)
    | continues hstart hopened =>
      rw [List.getElem?_eq_none hstart] at hopened
      cases hopened

end Journal

/-! ## Evaluations -/

namespace Journaled

open Journal

variable {α β : Type} {mentioned : List Mention} {start : Nat} {s : Journal}

/-- What a step does, without its journal. -/
def forget : EStateM.Result RuntimeError Journal α → EStateM.Result RuntimeError Bindings α
  | .ok a s => .ok a s.bindings
  | .error e s => .error e s.bindings

/-- To forget the journal and to take the table left commute. -/
private theorem bindings_left (r : EStateM.Result RuntimeError Journal α) :
    (left r).bindings = left (forget r) := by
  cases r <;> rfl

/-- From here on the journal is that of the evaluation, and what is entered are steps of its loops. -/
def FollowsAt (mentioned : List Mention) (start : Nat) (s : Journal) (e : Evaluation α)
    (j : Journaled α) : Prop :=
  forget (j s) = e s.bindings ∧ Evolves mentioned start s (left (j s))

/-- So it is wherever the evaluation begins. -/
def Follows (mentioned : List Mention) (e : Evaluation α) (j : Journaled α) : Prop :=
  ∀ start s, start ≤ s.events.length → FollowsAt mentioned start s e j

/-- What changes nothing has nothing to enter. -/
theorem followsAt_of {e : Evaluation α} (h : left (e s.bindings) = s.bindings) :
    FollowsAt mentioned start s e (.of e) := by
  have hrun : forget (of e s) = e s.bindings ∧ left (of e s) = s := by
    unfold of
    cases he : e s.bindings with
    | ok a b | error a b =>
      rw [he] at h
      obtain rfl : b = s.bindings := h
      exact ⟨rfl, rfl⟩
  exact ⟨hrun.1, hrun.2.symm ▸ .refl⟩

/-- An evaluation that leaves the table alone leaves the journal alone. -/
private theorem of_eq_ok {e : Evaluation α} {a : α} {s' : Journal}
    (h : left (e s.bindings) = s.bindings)
    (hof : of e s = .ok a s') : s' = s ∧ e s.bindings = .ok a s.bindings := by
  unfold of at hof
  cases he : e s.bindings with
  | ok a' b =>
    rw [he] at h hof
    obtain rfl : b = s.bindings := h
    cases hof
    exact ⟨rfl, rfl⟩
  | error err b =>
    rw [he] at hof
    cases hof

/-- A sequence is followed where its first part is, and the rest from whatever journal the first leaves. -/
theorem FollowsAt.bind {e : Evaluation α} {j : Journaled α} {f : α → Evaluation β}
    {g : α → Journaled β} (h : FollowsAt mentioned start s e j)
    (hmore : ∀ a s', j s = .ok a s' → Evolves mentioned start s s' →
      FollowsAt mentioned start s' (f a) (g a)) :
    FollowsAt mentioned start s (e >>= f) (j >>= g) := by
  obtain ⟨hforget, hevolves⟩ := h
  cases hj : j s with
  | ok a s' =>
    rw [hj] at hforget hevolves
    obtain ⟨hforget', hevolves'⟩ := hmore a s' hj hevolves
    rw [FollowsAt, bind_of_ok hforget.symm, bind_of_ok hj]
    exact ⟨hforget', hevolves.trans hevolves'⟩
  | error err s' =>
    rw [hj] at hforget hevolves
    rw [FollowsAt, bind_of_error hforget.symm, bind_of_error hj]
    exact ⟨rfl, hevolves⟩

private theorem followsAt_pure (a : α) : FollowsAt mentioned start s (pure a) (pure a) := ⟨rfl, .refl⟩

end Journaled

namespace Evaluation

variable {α : Type} {b : Bindings} {host : Host}

/-- An operation that reads no table leaves it alone. -/
theorem left_lift (nodeName : String) (token : Token) (result : Except Cause α) :
    left (lift nodeName token result b) = b := by
  cases result <;> rfl

/-- A bound name is worth its value. -/
theorem lookup_of_some {name : String} {v : Value} (h : b.get? name = some v) (nodeName : String)
    (token : Token) : lookup nodeName token name b = .ok v b := by
  rw [lookup, bind_of_ok (get_run b), h]
  rfl

/-- A free name is an error. -/
theorem lookup_of_none {name : String} (h : b.get? name = none) (nodeName : String) (token : Token) :
    lookup nodeName token name b = .error ⟨nodeName, token, .undefined name⟩ b := by
  rw [lookup, bind_of_ok (get_run b), h]
  rfl

private theorem left_lookup (nodeName : String) (token : Token) (name : String) :
    left (lookup nodeName token name b) = b := by
  cases h : b.get? name with
  | some v => rw [lookup_of_some h nodeName token, left]
  | none => rw [lookup_of_none h nodeName token, left]

/-- The variable of a loop is looked at first. -/
theorem itemsOf_run (token item source : Token) :
    itemsOf host token item source b =
      if b.has item.text then .error ⟨"EachLoop", token, .loopVariableTaken item.text⟩ b
      else (do
        let v ← lookup "EachLoop" token source.text
        lift "EachLoop" token (host.items v source.text)) b := by
  unfold itemsOf
  rw [bind_of_ok (get_run b)]
  split <;> rfl

private theorem left_itemsOf (host : Host) (token item source : Token) (b : Bindings) :
    left (itemsOf host token item source b) = b := by
  rw [itemsOf_run]
  split
  · rfl
  · exact left_bind (left_lookup "EachLoop" token source.text) fun v => left_lift "EachLoop" token _

/-- Where a loop has items its variable is free. -/
theorem free_of_itemsOf {token item source : Token} {items : List Value} {b' : Bindings}
    (h : itemsOf host token item source b = .ok items b') : b' = b ∧ b.has item.text = false := by
  have hleft := left_itemsOf host token item source b
  rw [h] at hleft
  refine ⟨hleft, ?_⟩
  rw [itemsOf_run] at h
  split at h
  · cases h
  · next hfree => exact Bool.eq_false_iff.mpr hfree

/-- An assignment that the table takes leaves the table that follows. -/
theorem assign_of_ok {name : String} {v : Value} {b' : Bindings} (h : b.set name v = .ok b')
    (nodeName : String) (token : Token) : assign nodeName token name v b = .ok () b' := by
  rw [assign, bind_of_ok (get_run b), h]
  rfl

/-- One that it refuses is an error and leaves the table alone. -/
theorem assign_of_error {name : String} {v : Value} {e : BindError} (h : b.set name v = .error e)
    (nodeName : String) (token : Token) :
    assign nodeName token name v b = .error ⟨nodeName, token, .binding e⟩ b := by
  rw [assign, bind_of_ok (get_run b), h]
  rfl

end Evaluation

namespace Journaled

open Journal

variable {mentioned : List Mention} {start loop : Nat} {token item : Token} {e : Evaluation Value}
  {j : Journaled Value}

/-- **A loop opens before its first item, and goes on with each later one**, whatever the body does in
between. -/
theorem followsAt_forItems (hbody : Follows mentioned e j) (hitem : .binds item.text ∈ mentioned)
    (hstart : start ≤ loop) (items : List Value) (s : Journal)
    (hready : loop = s.events.length ∧ s.bindings.has item.text = false ∨
      ∃ first, s.events[loop]? = some (.iterated loop item.text first)) :
    FollowsAt mentioned start s (Evaluation.forItems token item e items)
      (forItems token item loop j items) := by
  induction items generalizing s with
  | nil => exact followsAt_pure []
  | cons v vs ih =>
    cases hset : s.bindings.set item.text v with
    | error err =>
      have hassign := Evaluation.assign_of_error hset "EachLoop" token
      refine FollowsAt.bind (followsAt_of (by rw [hassign]; rfl)) fun a s' hok => ?_
      rw [of, hassign] at hok
      cases hok
    | ok b =>
      have hassign := Evaluation.assign_of_ok hset "EachLoop" token
      have hof : of (Evaluation.assign "EachLoop" token item.text v) s = .ok () { s with bindings := b } := by
        rw [of, hassign]
      -- the journal behind the assignment of the item, where the loop has opened
      let s₁ : Journal := ⟨b, s.events ++ [.iterated loop item.text v]⟩
      have hstep : Step mentioned start s s₁ := by
        rcases hready with ⟨rfl, hfree⟩ | ⟨first, hopened⟩
        · exact .opens hitem hfree hset
        · exact .continues hstart hopened hset
      have hopened : ∃ first, s₁.events[loop]? = some (.iterated loop item.text first) := by
        rcases hready with ⟨rfl, -⟩ | ⟨first, hopened⟩
        · exact ⟨v, List.getElem?_concat_length⟩
        · exact ⟨first, getElem?_of_prefix (List.prefix_append _ _) hopened⟩
      have hlt : start ≤ s₁.events.length := by
        obtain ⟨first, hopened⟩ := hopened
        exact Nat.le_of_lt (Nat.lt_of_le_of_lt hstart (List.getElem?_eq_some_iff.mp hopened).1)
      have hrest : FollowsAt mentioned start s₁
          (do return (← e).display :: (← Evaluation.forItems token item e vs))
          (do return (← j).display :: (← forItems token item loop j vs)) := by
        refine (hbody start s₁ hlt).bind fun written s₂ _ hevolves => ?_
        refine (ih s₂ (.inr ?_)).bind fun _ s₃ _ _ => followsAt_pure _
        obtain ⟨first, hopened⟩ := hopened
        exact ⟨first, getElem?_of_prefix hevolves.events_prefix hopened⟩
      have hleft : Evaluation.forItems token item e (v :: vs) s.bindings = _ := bind_of_ok hassign
      have hright : forItems token item loop j (v :: vs) s = _ :=
        (bind_of_ok hof).trans (bind_of_ok (m := s₁) rfl)
      rw [FollowsAt, hleft, hright]
      exact ⟨hrest.1, .head hstep hrest.2⟩

end Journaled

open Journaled in
/-- **Every evaluation that is put together from the parts keeps its journal**, and changes the
bindings by steps of its loops. -/
theorem Journals.follows {host : Host} {mentioned : List Mention} {α : Type} {e : Evaluation α}
    {j : Journaled α} (h : Journals host mentioned e j) : Follows mentioned e j := by
  induction h with
  | pure a => exact fun start s _ => followsAt_pure a
  | bind _ _ ih ih' =>
    intro start s hstart
    refine (ih start s hstart).bind fun a s' _ hevolves => ?_
    exact ih' a start s' (Nat.le_trans hstart hevolves.events_prefix.length_le)
  | lift nodeName token result =>
    exact fun start s _ => followsAt_of (Evaluation.left_lift nodeName token result)
  | lookup nodeName token _ =>
    exact fun start s _ => followsAt_of (Evaluation.left_lookup nodeName token _)
  -- a loop opens where the journal ends just then, at a name that is free
  | loop token hitem _ _ ih =>
    intro start s hstart
    rw [Evaluation.loop_eq, Journaled.loop]
    have hconst (item source : Token) := Evaluation.left_itemsOf host token item source s.bindings
    refine (followsAt_of (hconst _ _)).bind fun items s' hof _ => ?_
    obtain ⟨rfl, hitems⟩ := of_eq_ok (hconst _ _) hof
    obtain ⟨-, hfree⟩ := Evaluation.free_of_itemsOf hitems
    rw [FollowsAt, bind_of_ok (get_run s')]
    exact (followsAt_forItems ih hitem hstart items s' (.inl ⟨rfl, hfree⟩)).bind
      fun _ _ _ _ => followsAt_pure _
  | @fragment onError _ j _ ih =>
    intro start s hstart
    obtain ⟨hforget, hevolves⟩ := ih start s hstart
    unfold FollowsAt Journaled.fragment Evaluation.fragment
    rw [← hforget]
    cases hj : j s with
    | ok v s' =>
      rw [hj] at hevolves
      exact ⟨rfl, hevolves⟩
    | error err s' =>
      rw [hj] at hevolves
      cases onError <;> exact ⟨rfl, hevolves⟩

/-! ## What an evaluation leaves -/

namespace Journals

variable {α : Type} {host : Host} {mentioned : List Mention} {e : Evaluation α} {j : Journaled α}

/-- What an evaluation does with the journal. -/
theorem left_journal (h : Journals host mentioned e j) (s : Journal) :
    (left (j s)).bindings = left (e s.bindings) ∧
      Journal.Evolves mentioned s.events.length s (left (j s)) := by
  obtain ⟨hforget, hevolves⟩ := h.follows s.events.length s (Nat.le_refl _)
  exact ⟨(Journaled.bindings_left _).trans (congrArg left hforget), hevolves⟩

/-- Names that are bound keep their entries, and new ones are variables of loops. -/
theorem grown (h : Journals host mentioned e j) (b : Bindings) :
    Bindings.Grown mentioned b (left (e b)) := by
  obtain ⟨hleft, hevolves⟩ := h.left_journal ⟨b, []⟩
  exact hleft ▸ hevolves.grown.toGrown

/-- Where no loop is nothing changes. -/
theorem left_eq (h : Journals host mentioned e j) (hnone : ∀ name, .binds name ∉ mentioned)
    (b : Bindings) : left (e b) = b := by
  obtain ⟨hleft, hevolves⟩ := h.left_journal ⟨b, []⟩
  rw [← hleft, hevolves.eq_of_no_loop hnone]

end Journals

namespace Engine

variable {host : Host} {b b' : Bindings}

/-- Evaluation has no part in an error of reading. -/
theorem ofEvaluation_ne_parse {α : Type} {e : Evaluation α} {err : ParseError} :
    ofEvaluation e b ≠ .error (.parse err) b' := by
  unfold ofEvaluation
  cases e b <;> exact nofun

/-- What cannot be read changes nothing. -/
theorem eq_of_parse_error {α : Type} {read : Except ParseError Node} {f : Node → Evaluation α}
    {err : ParseError} (h : (ofParse read >>= fun node => ofEvaluation (f node)) b =
      .error (.parse err) b') : b' = b := by
  cases read with
  | ok node => exact absurd h ofEvaluation_ne_parse
  | error e =>
    cases h
    rfl

end Engine

namespace Evaluation

/-- **Evaluation adds loop variables, and changes nothing else.** Whether a tree is evaluated or
rendered, in either mode, and whether that succeeds or fails: every name that was bound is bound to the
same value and fixed to the same type, and every other name that is bound is the variable of a loop of
the tree. A text that cannot be read leaves the bindings as they are, and so does a tree without
loops, which is therefore rendered the same once more. -/
theorem grows (host : Host) (node : Node) (b : Bindings) :
    b.Grown node.mentions (left (node.eval host b)) ∧
    (∀ onError, b.Grown node.mentions (left (render host onError node b))) ∧
    (∀ onError source err b', Engine.execute host onError source b = .error (.parse err) b' → b' = b) ∧
    (∀ form source err b', Engine.evaluate host form source b = .error (.parse err) b' → b' = b) ∧
    ((∀ name, .binds name ∉ node.mentions) → left (node.eval host b) = b ∧
      ∀ onError, left (render host onError node b) = b ∧
        render host onError node (left (render host onError node b)) = render host onError node b) := by
  have heval := node.journals_of_subset host (List.Subset.refl _)
  have hrender (onError : OnError) := Journals.render_of_subset host onError node (List.Subset.refl _)
  refine ⟨heval.grown b, fun onError => (hrender onError).grown b, ?_, ?_, fun hnone => ?_⟩
  · exact fun onError source err b' h => Engine.eq_of_parse_error h
  · exact fun form source err b' h => Engine.eq_of_parse_error h
  · refine ⟨heval.left_eq hnone b, fun onError => ?_⟩
    have hleft := (hrender onError).left_eq hnone b
    exact ⟨hleft, congrArg (render host onError node) hleft⟩

/-- A loop that fails at its second item keeps that item, and the list that it went through. -/
theorem grows_division_by_zero :
    let node : Node := .each ⟨.identifier, "each", 0⟩ (.name ⟨.identifier, "x", 5⟩)
      (.name ⟨.identifier, "xs", 10⟩)
      (.binary ⟨.div, "/", 17⟩ (.terminal ⟨.integerConst, "1", 15⟩ (.int 1))
        (.access (.read ⟨.identifier, "x", 19⟩) []))
    let b : Bindings := [("xs", ⟨.list [.integer 1, .integer 0], some "list"⟩)]
    answer (node.eval .empty b) =
        .error ⟨"BinaryOperation", ⟨.div, "/", 17⟩, .fault .divisionByZero⟩ ∧
      (left (node.eval .empty b)).get? "x" = some (.integer 0) ∧
      Bindings.entry? (left (node.eval .empty b)) "xs" = b.entry? "xs" := by
  intro node b
  exact ⟨rfl, rfl, (grows .empty node b).1.kept "xs" rfl⟩

end Evaluation

end Stencil
