import Stencil.Proofs.Bindings.Growth

/-!
# Sessions

A session asks an engine to bind names, and to render and evaluate texts and trees, one after the other;
what fails is asked and done with. Its journal enters every change of the bindings, whoever makes it.
A change is made by an assignment, by a loop that opens, whose variable is free, or by a loop that goes
on, with nothing but loops at work since it has opened (`Journal.Kept`). From this it follows what the
bindings can be at any time during a session, and what can become of them (`Session.history`).
-/

namespace Stencil

/-! ## Calls -/

/-- Something that is asked of an engine. -/
inductive Call where
  | assign (name : String) (v : Value)
  | execute (onError : OnError) (source : List Char)
  | evaluate (form : Form) (source : List Char)
  | render (onError : OnError) (node : Node)
  | eval (node : Node)

namespace Call

/-- The bindings that a call leaves, whether it succeeds or fails. -/
def run (host : Host) : Call → Bindings → Bindings
  | assign name v, b => left (Engine.assign name v b)
  | execute onError source, b => left (Engine.execute host onError source b)
  | evaluate form source, b => left (Engine.evaluate host form source b)
  | render onError node, b => left (Evaluation.render host onError node b)
  | eval node, b => left (node.eval host b)

/-- What a call does with the journal. -/
def journal (host : Host) : Call → Journal → Journal
  | assign name v, s =>
    match s.bindings.set name v with
    | .ok bindings => ⟨bindings, s.events ++ [.assigned name v]⟩
    | .error _ => s
  | execute onError source, s =>
    match Node.ofText .text source with
    | .ok node => left (Journaled.render host onError node s)
    | .error _ => s
  | evaluate form source, s =>
    match Node.ofText .program source with
    | .ok node => left ((do .of (Engine.inForm form node (← node.journal host)) : Journaled Value) s)
    | .error _ => s
  | render onError node, s => left (Journaled.render host onError node s)
  | eval node, s => left (node.journal host s)

end Call

namespace Session

/-- The bindings that calls leave, at first with no name bound. -/
def run (host : Host) (calls : List Call) : Bindings :=
  calls.foldl (fun b call => call.run host b) []

/-- The journal of calls. -/
def journal (host : Host) (calls : List Call) : Journal :=
  calls.foldl (fun s call => call.journal host s) ⟨[], []⟩

end Session

namespace Engine

variable {b b' : Bindings} {name : String} {v : Value}

/-- What an evaluation leaves is what the session goes on with. -/
private theorem left_ofEvaluation {α : Type} (e : Evaluation α) (b : Bindings) :
    left (ofEvaluation e b) = left (e b) := by
  unfold ofEvaluation
  cases e b <;> rfl

/-- A definition that the table takes leaves the table that follows. -/
theorem assign_of_ok (h : b.set name v = .ok b') : assign name v b = .ok () b' := by
  rw [assign, bind_of_ok (get_run b), h]
  rfl

/-- One that it refuses leaves the table alone. -/
theorem assign_of_error {e : BindError} (h : b.set name v = .error e) :
    assign name v b = .error (.bind e) b := by
  rw [assign, bind_of_ok (get_run b), h]
  rfl

end Engine

/-- **A call assigns, or evaluates; and the journal has the bindings that the call leaves.** -/
theorem Call.journal_cases (host : Host) (call : Call) (s : Journal) :
    (call.journal host s).bindings = call.run host s.bindings ∧
    ((∃ name v b, s.bindings.set name v = .ok b ∧
        call.journal host s = ⟨b, s.events ++ [.assigned name v]⟩) ∨
      ∃ mentioned, Journal.Evolves mentioned s.events.length s (call.journal host s)) := by
  have hevolves {mentioned : List Mention} {α : Type} {e : Evaluation α} {j : Journaled α}
      (h : Journals host mentioned e j) := h.left_journal s
  have hrender (onError : OnError) (node : Node) :=
    hevolves (Journals.render_of_subset host onError node (List.Subset.refl _))
  have heval (node : Node) := node.journals_of_subset host (List.Subset.refl _)
  -- an assignment writes its event down itself, and all else is one evaluation at most
  cases call with
  | assign name v =>
    simp only [journal, run]
    cases hset : s.bindings.set name v with
    | ok b =>
      rw [Engine.assign_of_ok hset]
      exact ⟨rfl, .inl ⟨name, v, b, hset, rfl⟩⟩
    | error err =>
      rw [Engine.assign_of_error hset]
      exact ⟨rfl, .inr ⟨[], .refl⟩⟩
  | execute onError source =>
    simp only [journal, run, Engine.execute]
    cases Node.ofText .text source with
    | ok node =>
      have h := hrender onError node
      exact ⟨h.1.trans (Engine.left_ofEvaluation _ _).symm, .inr ⟨_, h.2⟩⟩
    | error err => exact ⟨rfl, .inr ⟨[], .refl⟩⟩
  | evaluate form source =>
    simp only [journal, run, Engine.evaluate]
    cases Node.ofText .program source with
    | ok node =>
      have h := hevolves ((heval node).bind (f := Engine.inForm form node) fun v => .lift _ _ _)
      exact ⟨h.1.trans (Engine.left_ofEvaluation _ _).symm, .inr ⟨_, h.2⟩⟩
    | error err => exact ⟨rfl, .inr ⟨[], .refl⟩⟩
  | render onError node => exact ⟨(hrender onError node).1, .inr ⟨_, (hrender onError node).2⟩⟩
  | eval node => exact ⟨(hevolves (heval node)).1, .inr ⟨_, (hevolves (heval node)).2⟩⟩

/-! ## Journals of calls -/

namespace Bindings

/-- The bindings after changes, one after the other. -/
def replay (b : Bindings) (events : List Event) : Bindings :=
  events.foldl (fun b event => ((b.set event.name event.value).toOption).getD b) b

/-- To replay one more event is to set its name once more. -/
private theorem replay_concat {b b' : Bindings} {events : List Event} {event : Event}
    (h : (b.replay events).set event.name event.value = .ok b') :
    b.replay (events ++ [event]) = b' := by
  unfold replay at h ⊢
  rw [List.foldl_append, List.foldl_cons, List.foldl_nil, h]
  rfl

end Bindings

namespace Journal

variable {s : Journal} {event : Event} {name : String} {v : Value} {k m loop : Nat}

/-- The changes that can come next. -/
inductive Justified (s : Journal) : Event → Prop
  /-- A name is bound from outside. -/
  | assigned {name : String} {v : Value} : Justified s (.assigned name v)
  /-- A loop binds its variable to the first item. -/
  | opens {name : String} {v : Value} : s.bindings.has name = false →
      Justified s (.iterated s.events.length name v)
  /-- A loop binds its variable to a later item, and only loops have been at work since the first. -/
  | continues {loop : Nat} {name : String} {v first : Value} :
      s.events[loop]? = some (.iterated loop name first) →
      (∀ (i : Nat) (event : Event), loop ≤ i → s.events[i]? = some event → event.isIterated = true) →
      Justified s (.iterated loop name v)

/-- **How a journal of calls comes about.** -/
inductive Kept : Journal → Prop
  | start : Kept ⟨[], []⟩
  | enter {s : Journal} {event : Event} {b : Bindings} : Kept s → Justified s event →
      s.bindings.set event.name event.value = .ok b → Kept ⟨b, s.events ++ [event]⟩

/-- What an evaluation does to the journal is in keeping. -/
theorem Kept.evolves {mentioned : List Mention} {start : Nat} {s' : Journal} (h : Kept s)
    (hstart : s.events.length ≤ start) (hevolves : Evolves mentioned start s s') :
    Kept s' ∧ ∀ (i : Nat) (event : Event), start ≤ i → s'.events[i]? = some event →
      event.isIterated = true := by
  induction hevolves with
  | refl =>
    refine ⟨h, fun i event hi hevent => ?_⟩
    rw [List.getElem?_eq_none (Nat.le_trans hstart hi)] at hevent
    cases hevent
  | @tail t _ _ hstep ih =>
    obtain ⟨hkept, hloops⟩ := ih
    have hconcat {loop : Nat} {name : String} {v : Value} (i : Nat) (event : Event)
        (hi : start ≤ i) (hevent : (t.events ++ [.iterated loop name v])[i]? = some event) :
        event.isIterated = true := by
      rcases getElem?_concat_cases hevent with ⟨-, hevent⟩ | ⟨-, rfl⟩
      · exact hloops i event hi hevent
      · rfl
    cases hstep with
    | opens _ hfree hset => exact ⟨hkept.enter (.opens hfree) hset, hconcat⟩
    | continues hloop hopened hset =>
      refine ⟨hkept.enter (.continues hopened fun i event hi => ?_) hset, hconcat⟩
      exact hloops i event (Nat.le_trans hloop hi)

/-- **A call is in keeping, too**, whether it succeeds or fails. -/
theorem Kept.call (h : Kept s) (host : Host) (call : Call) :
    Kept (call.journal host s) ∧ s.events <+: (call.journal host s).events := by
  rcases (call.journal_cases host s).2 with ⟨name, v, b, hset, hjournal⟩ | ⟨_, hevolves⟩
  · rw [hjournal]
    exact ⟨h.enter .assigned hset, List.prefix_append _ _⟩
  · exact ⟨(h.evolves (Nat.le_refl _) hevolves).1, hevolves.events_prefix⟩

/-- **And so is a session**, which leaves the bindings that the journal has. -/
theorem Kept.calls (h : Kept s) (host : Host) (calls : List Call) :
    let s' := calls.foldl (fun s call => call.journal host s) s
    Kept s' ∧ s.events <+: s'.events ∧
      s'.bindings = calls.foldl (fun b call => call.run host b) s.bindings := by
  induction calls generalizing s with
  | nil => exact ⟨h, List.prefix_refl _, rfl⟩
  | cons call calls ih =>
    obtain ⟨hnext, hprefix⟩ := h.call host call
    obtain ⟨hkept, hprefix', hrun⟩ := ih hnext
    rw [(call.journal_cases host s).1] at hrun
    exact ⟨hkept, hprefix.trans hprefix', hrun⟩

/-! ### In the course of a session -/

/-- The journal after the first `k` changes. -/
def upTo (s : Journal) (k : Nat) : Journal :=
  ⟨Bindings.replay [] (s.events.take k), s.events.take k⟩

private theorem upTo_of_extended {s' : Journal} (h : s.events <+: s'.events)
    (hk : k ≤ s.events.length) :
    s'.upTo k = s.upTo k := by
  obtain ⟨more, hmore⟩ := h
  unfold upTo
  rw [← hmore, List.take_append_of_le_length hk]

/-- All events together make the table itself. -/
theorem Kept.upTo_length (h : Kept s) : s.upTo s.events.length = s := by
  have hreplay : Bindings.replay [] s.events = s.bindings := by
    induction h with
    | start => rfl
    | enter _ _ hset ih => exact Bindings.replay_concat (ih.symm ▸ hset)
  rw [upTo, List.take_length, hreplay]

/-- A change takes the journal before it to the journal after it. -/
theorem Kept.entered (h : Kept s) (hevent : s.events[k]? = some event) :
    Justified (s.upTo k) event ∧
      (s.upTo k).bindings.set event.name event.value = .ok (s.upTo (k + 1)).bindings := by
  induction h with
  | start => cases hevent
  | @enter s last b hkept hjustified hset ih =>
    have hprefix : s.events <+: s.events ++ [last] := List.prefix_append _ _
    rcases getElem?_concat_cases hevent with ⟨hk, hevent⟩ | ⟨rfl, rfl⟩
    · rw [upTo_of_extended hprefix (Nat.le_of_lt hk), upTo_of_extended hprefix hk]
      exact ih hevent
    · have hwhole := (hkept.enter hjustified hset).upTo_length
      rw [List.length_append, List.length_singleton] at hwhole
      rw [upTo_of_extended hprefix (Nat.le_refl _), hwhole, hkept.upTo_length]
      exact ⟨hjustified, hset⟩

/-- Past the last change the journal stays as it is. -/
theorem upTo_succ_of_none (hevent : s.events[k]? = none) : s.upTo (k + 1) = s.upTo k := by
  have hlength : s.events.length ≤ k := List.getElem?_eq_none_iff.mp hevent
  rw [upTo, upTo, List.take_of_length_le hlength, List.take_of_length_le (Nat.le_succ_of_le hlength)]

/-- Every table a journal has passed through is well typed. -/
private theorem Kept.wellTyped (h : Kept s) (k : Nat) : (s.upTo k).bindings.WellTyped := by
  induction k with
  | zero => exact Bindings.wellTyped_nil
  | succ k ih =>
    cases hevent : s.events[k]? with
    | some event => exact ih.set (h.entered hevent).2
    | none => exact (upTo_succ_of_none hevent).symm ▸ ih

/-- What is bound stays bound, and what its type is fixed to stays so. -/
theorem Kept.keeps (h : Kept s) (hkm : k ≤ m) (name : String) :
    ((s.upTo k).bindings.has name = true → (s.upTo m).bindings.has name = true) ∧
      ∀ type, (s.upTo k).bindings.type? name = some type →
        (s.upTo m).bindings.type? name = some type := by
  induction hkm with
  | refl => exact ⟨id, fun _ => id⟩
  | @step m _ ih =>
    cases hevent : s.events[m]? with
    | some event =>
      have hkeeps := Bindings.keeps_of_set (h.entered hevent).2 name
      exact ⟨fun hbound => hkeeps.1 (ih.1 hbound), fun type htype => hkeeps.2 type (ih.2 type htype)⟩
    | none => exact (upTo_succ_of_none hevent).symm ▸ ih

/-- A name is bound after a change of it. -/
theorem Kept.bound_after (h : Kept s) (hevent : s.events[k]? = some event) (hkm : k < m) :
    (s.upTo m).bindings.has event.name = true :=
  (h.keeps hkm event.name).1 (Bindings.has_of_set (h.entered hevent).2)

/-- The events up to a point are those of the journal before it. -/
private theorem getElem?_upTo {i : Nat} :
    (s.upTo k).events[i]? = some event ↔ i < k ∧ s.events[i]? = some event := by
  simp [upTo, List.getElem?_take]

private theorem length_upTo (hevent : s.events[k]? = some event) : (s.upTo k).events.length = k :=
  List.length_take_of_le (Nat.le_of_lt (List.getElem?_eq_some_iff.mp hevent).1)

/-- A change made by a loop opens it, or goes on with it after loops alone have been at work. -/
theorem Kept.opens_or_continues (h : Kept s)
    (hevent : s.events[k]? = some (.iterated loop name v)) :
    (loop = k ∧ (s.upTo k).bindings.has name = false) ∨
      loop < k ∧ (∃ first, s.events[loop]? = some (.iterated loop name first)) ∧
        ∀ (i : Nat) (event : Event), loop ≤ i → i < k → s.events[i]? = some event →
          event.isIterated = true := by
  generalize hiterated : Event.iterated loop name v = event at hevent
  obtain ⟨hjustified, -⟩ := h.entered hevent
  cases hjustified with
  | assigned => cases hiterated
  | opens hfree =>
    cases hiterated
    exact .inl ⟨length_upTo hevent, hfree⟩
  | continues hopened hloops =>
    cases hiterated
    obtain ⟨hlt, hfirst⟩ := getElem?_upTo.mp hopened
    refine .inr ⟨hlt, ⟨_, hfirst⟩, fun i event hi hik hevent => ?_⟩
    exact hloops i event hi (getElem?_upTo.mpr ⟨hik, hevent⟩)

/-- **A loop opens once, with its variable free**, and nothing but loops is at work until its last
item. -/
theorem Kept.opened (h : Kept s) (hevent : s.events[k]? = some (.iterated loop name v)) :
    loop ≤ k ∧ (∃ first, s.events[loop]? = some (.iterated loop name first)) ∧
      (s.upTo loop).bindings.has name = false ∧
      ∀ (i : Nat) (event : Event), loop ≤ i → i < k → s.events[i]? = some event →
        event.isIterated = true := by
  rcases h.opens_or_continues hevent with ⟨rfl, hfree⟩ | ⟨hlt, ⟨first, hfirst⟩, hloops⟩
  · exact ⟨Nat.le_refl _, ⟨v, hevent⟩, hfree, fun i _ hi hlt => absurd hi (Nat.not_le.mpr hlt)⟩
  · refine ⟨Nat.le_of_lt hlt, ⟨first, hfirst⟩, ?_, hloops⟩
    rcases h.opens_or_continues hfirst with ⟨-, hfree⟩ | ⟨hlt, -⟩
    · exact hfree
    · exact absurd hlt (Nat.lt_irrefl _)

/-- **A name has one loop.** -/
theorem Kept.loop_unique (h : Kept s) {loop' k' : Nat} {v' : Value}
    (hevent : s.events[k]? = some (.iterated loop name v))
    (hevent' : s.events[k']? = some (.iterated loop' name v')) : loop = loop' := by
  have hnot {i j : Nat} {first : Value} (hi : s.events[i]? = some (.iterated i name first))
      (hfree : (s.upTo j).bindings.has name = false) : ¬ i < j := by
    intro hij
    cases (h.bound_after hi hij).symm.trans hfree
  obtain ⟨-, ⟨first, hfirst⟩, hfree, -⟩ := h.opened hevent
  obtain ⟨-, ⟨first', hfirst'⟩, hfree', -⟩ := h.opened hevent'
  exact Nat.le_antisymm (Nat.not_lt.mp (hnot hfirst' hfree)) (Nat.not_lt.mp (hnot hfirst hfree'))

/-- **No loop is over a name that has been assigned.** -/
theorem Kept.lt_of_assigned (h : Kept s) {i : Nat} {u : Value}
    (hassigned : s.events[i]? = some (.assigned name u))
    (hevent : s.events[k]? = some (.iterated loop name v)) : k < i := by
  obtain ⟨hloop, -, hfree, hloops⟩ := h.opened hevent
  refine Nat.lt_of_not_le fun hik => ?_
  rcases Nat.lt_or_ge i loop with hlt | hge
  · cases (h.bound_after hassigned hlt).symm.trans hfree
  · rcases Nat.lt_or_eq_of_le hik with hlt | rfl
    · cases hloops i _ hge hlt hassigned
    · cases hassigned.symm.trans hevent

/-- A name that is bound gets another value by an assignment, or by its loop, and not by the opening. -/
theorem Kept.changed (h : Kept s) (hbound : (s.upTo k).bindings.has name = true)
    (hchange : (s.upTo (k + 1)).bindings.get? name ≠ (s.upTo k).bindings.get? name) :
    (∃ v, s.events[k]? = some (.assigned name v)) ∨
      ∃ loop v, loop < k ∧ s.events[k]? = some (.iterated loop name v) := by
  cases hevent : s.events[k]? with
  | none => exact absurd (by rw [upTo_succ_of_none hevent]) hchange
  | some event =>
    have hname : event.name = name := Decidable.byContradiction fun hother => hchange <|
      Bindings.get?_of_same_entry (Bindings.entry?_of_set (h.entered hevent).2 (Ne.symm hother))
    subst hname
    cases event with
    | assigned name v => exact .inl ⟨v, rfl⟩
    | iterated loop name v =>
      rcases h.opens_or_continues hevent with ⟨-, hfree⟩ | ⟨hlt, -⟩
      · cases hbound.symm.trans hfree
      · exact .inr ⟨loop, v, hlt, rfl⟩

/-- What holds in the course of a session, of the bindings after any number of changes. -/
structure Lawful (s : Journal) : Prop where
  /-- A change binds a name, and this succeeds. -/
  entered {k : Nat} {event : Event} : s.events[k]? = some event →
    (s.upTo k).bindings.set event.name event.value = .ok (s.upTo (k + 1)).bindings
  /-- An entry holds a value of the type that it is fixed to, or no value. -/
  wellTyped (k : Nat) : (s.upTo k).bindings.WellTyped
  /-- What is bound stays bound. -/
  bound {k m : Nat} (name : String) : k ≤ m → (s.upTo k).bindings.has name = true →
    (s.upTo m).bindings.has name = true
  /-- A type that is fixed stays fixed. -/
  fixed {k m : Nat} (name type : String) : k ≤ m → (s.upTo k).bindings.type? name = some type →
    (s.upTo m).bindings.type? name = some type
  /-- A name that is bound gets another value by an assignment, or by a loop that has opened. -/
  changed {k : Nat} {name : String} : (s.upTo k).bindings.has name = true →
    (s.upTo (k + 1)).bindings.get? name ≠ (s.upTo k).bindings.get? name →
    (∃ v, s.events[k]? = some (.assigned name v)) ∨
      ∃ loop v, loop < k ∧ s.events[k]? = some (.iterated loop name v)
  /-- A loop opens with its own variable, which is free. -/
  opened {k loop : Nat} {name : String} {v : Value} :
    s.events[k]? = some (.iterated loop name v) →
    loop ≤ k ∧ (∃ first, s.events[loop]? = some (.iterated loop name first)) ∧
      (s.upTo loop).bindings.has name = false
  /-- No two loops over the same name run their bodies. -/
  single {i k loop loop' : Nat} {name : String} {v v' : Value} :
    s.events[i]? = some (.iterated loop name v) → s.events[k]? = some (.iterated loop' name v') →
    loop = loop'
  /-- No loop over a name runs its body after the name has been assigned. -/
  closed {i k loop : Nat} {name : String} {v u : Value} :
    s.events[i]? = some (.assigned name u) → s.events[k]? = some (.iterated loop name v) → k < i

/-- A journal that is kept has every property of a lawful one. -/
private theorem Kept.lawful (h : Kept s) : Lawful s where
  entered hevent := (h.entered hevent).2
  wellTyped := h.wellTyped
  bound name hkm := (h.keeps hkm name).1
  fixed name type hkm := (h.keeps hkm name).2 type
  changed := h.changed
  opened hevent :=
    have ⟨hle, hfirst, hfree, _⟩ := h.opened hevent
    ⟨hle, hfirst, hfree⟩
  single := h.loop_unique
  closed := h.lt_of_assigned

end Journal

namespace Session

/-- **The course of a session.** Whatever calls are made, each of which succeeds or fails: their journal
has the bindings that they leave, also after the first `n` of them; and it is lawful. That is, at
any time every entry holds a value of its type or no value; what is bound stays bound, and its type
fixed; what is bound gets another value only by an assignment, or by the later items of the loop that
bound it first; so that over one name not more than one loop runs its body, and none after the name has been
assigned. Bindings that assignments have made are those of a session that begins with the assignments. -/
theorem history (host : Host) (calls : List Call) :
    (∀ n, (journal host (calls.take n)).bindings = run host (calls.take n) ∧
      (journal host calls).upTo (journal host (calls.take n)).events.length =
        journal host (calls.take n)) ∧
    (journal host calls).Lawful := by
  have hkept (calls : List Call) := Journal.Kept.start.calls host calls
  refine ⟨fun n => ⟨(hkept (calls.take n)).2.2, ?_⟩, (hkept calls).1.lawful⟩
  obtain ⟨-, hprefix, -⟩ := (hkept (calls.take n)).1.calls host (calls.drop n)
  rw [← List.foldl_append, List.take_append_drop] at hprefix
  exact (Journal.upTo_of_extended hprefix (Nat.le_refl _)).trans (hkept (calls.take n)).1.upTo_length

/-- A loop is evaluated twice, the second time in vain, since its variable is bound; an assignment may
still change it. -/
theorem history_loop_twice :
    let loop : Node := .each ⟨.identifier, "each", 0⟩ (.name ⟨.identifier, "x", 5⟩)
      (.name ⟨.identifier, "xs", 10⟩)
      (.access (.read ⟨.identifier, "x", 15⟩) [])
    let calls : List Call :=
      [.assign "xs" (.list [.integer 1, .integer 2]), .eval loop, .assign "x" .null, .eval loop]
    let s := journal .empty calls
    s.events = [.assigned "xs" (.list [.integer 1, .integer 2]), .iterated 1 "x" (.integer 1),
      .iterated 1 "x" (.integer 2), .assigned "x" .null] ∧
    (run .empty calls).get? "x" = some .null ∧ (s.upTo 4).bindings.type? "x" = some "integer" := by
  intro loop calls s
  exact ⟨rfl, rfl, (history .empty calls).2.fixed "x" "integer" (show 2 ≤ 4 by decide) rfl⟩

end Session

end Stencil
