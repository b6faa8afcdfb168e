import Stencil.Proofs.Bindings.Dependence
import Mathlib.Data.List.Induction

/-!
# Loops go through their items in turn

The body of a loop is evaluated for each item with nothing but the item in the variable of the loop, as
long as there is no loop in the body: what the items before have left behind is the type that
the variable is fixed to, which no body sees (`Evaluation.eval_through`). So a loop comes to the same
as evaluating its body for each item on its own, up to the first one that has no value or is of another
type (`Evaluation.items_in_turn`).
-/

namespace Stencil

/-- All that are values have one type. -/
def Value.OneType (items : List Value) : Prop :=
  ∃ type, ∀ v ∈ items, v ≠ .null → v.typeName = type

/-- The type of the first that is a value. -/
def Value.firstType? (items : List Value) : Option String := items.findSome? Value.fixes?

/-- Bindings in which a new name has been bound to one value after the other: it has the last one, and
is fixed to the type of the first that has one. Where there are no values it is not bound. -/
def Bindings.through (b : Bindings) (name : String) (values : List Value) : Bindings :=
  match values.getLast? with
  | none => b
  | some v => b ++ [(name, ⟨v, Value.firstType? values⟩)]

/-- The items that are got to: those that come to something, and the first one that does not. -/
def Evaluation.reached {ε α : Type} (run : Value → Except ε α) : List Value → List Value
  | [] => []
  | v :: vs =>
    match run v with
    | .ok _ => v :: reached run vs
    | .error _ => [v]

/-! ## Types of items -/

namespace Value

variable {items more : List Value} {v : Value} {type : String}

/-- The type that several items fix is fixed by the first of them that fixes one. -/
private theorem firstType?_append :
    firstType? (items ++ more) = (firstType? items).or (firstType? more) :=
  List.findSome?_append

private theorem firstType?_singleton : firstType? [v] = v.fixes? := by
  rw [firstType?, List.findSome?_cons]
  cases v.fixes? <;> rfl

/-- The items before some place are of one type if all are. -/
theorem OneType.left (h : OneType (items ++ more)) : OneType items := by
  obtain ⟨type, hall⟩ := h
  exact ⟨type, fun v hv => hall v (List.mem_append_left _ hv)⟩

/-- The first type is that of all. -/
theorem OneType.typeName_eq (h : OneType items) (hfirst : firstType? items = some type)
    (hmem : v ∈ items) (hv : v ≠ .null) : v.typeName = type := by
  obtain ⟨other, hall⟩ := h
  obtain ⟨before, first, after, rfl, hfixes, -⟩ := List.findSome?_eq_some_iff.mp hfirst
  obtain ⟨hne, hname⟩ := fixes?_eq_some_iff.mp hfixes
  have hfirst := hall first (List.mem_append_right _ List.mem_cons_self) hne
  rw [hall v hmem hv, ← hfirst, hname]

/-- Where there is no first type there are no values. -/
theorem eq_null_of_firstType? (h : firstType? items = none) (hmem : v ∈ items) : v = .null :=
  fixes?_eq_none_iff.mp (List.findSome?_eq_none_iff.mp h v hmem)

/-- **Items that are not of one type are so up to some item**, which is of another type. -/
theorem exists_other_type (h : ¬ OneType items) : ∃ before x after first,
    items = before ++ x :: after ∧ OneType before ∧ firstType? before = some first ∧
      x ≠ .null ∧ x.typeName ≠ first := by
  induction items using List.reverseRecOn with
  | nil => exact absurd ⟨"", List.forall_mem_nil _⟩ h
  | append_singleton items x ih =>
    by_cases hitems : OneType items
    · have hadd (type : String) (hall : ∀ v ∈ items, v ≠ .null → v.typeName = type)
          (hx : x ≠ .null → x.typeName = type) : OneType (items ++ [x]) :=
        ⟨type, List.forall_mem_append.mpr ⟨hall, List.forall_mem_singleton.mpr hx⟩⟩
      cases hfirst : firstType? items with
      | none =>
        refine absurd (hadd x.typeName (fun v hv hne => ?_) fun _ => rfl) h
        exact absurd (eq_null_of_firstType? hfirst hv) hne
      | some first =>
        have hx : ¬ (x ≠ .null → x.typeName = first) := fun hx =>
          h (hadd first (fun v hv hne => hitems.typeName_eq hfirst hv hne) hx)
        obtain ⟨hne, hother⟩ := Classical.not_imp.mp hx
        exact ⟨items, x, [], first, rfl, hitems, hfirst, hne, hother⟩
    · obtain ⟨before, y, after, first, rfl, hrest⟩ := ih hitems
      exact ⟨before, y, after ++ [x], first, by rw [List.append_assoc, List.cons_append], hrest⟩

end Value

/-! ## One name bound again and again -/

namespace Bindings

open Value

variable {b : Bindings} {name other : String} {v : Value} {values : List Value}

/-- One more item: the entry has its value, and keeps the type if there was one. -/
private theorem through_concat (b : Bindings) (name : String) (values : List Value) (v : Value) :
    b.through name (values ++ [v]) = b ++ [(name, ⟨v, firstType? (values ++ [v])⟩)] := by
  rw [through, List.getLast?_concat]

/-- A value of the type of those before is bound after them. -/
theorem set_through (hfree : b.has name = false) (h : OneType (values ++ [v])) :
    (b.through name values).set name v = .ok (b.through name (values ++ [v])) := by
  rw [through_concat, firstType?_append, firstType?_singleton]
  rcases List.eq_nil_or_concat values with rfl | ⟨before, last, rfl⟩
  · exact set_of_not_has hfree v
  · rw [List.concat_eq_append] at h ⊢
    have hfits : ∀ fixed, firstType? (before ++ [last]) = some fixed →
        v.fixes? = none ∨ v.fixes? = some fixed := by
      intro fixed hfixed
      by_cases hv : v = .null
      · exact .inl (fixes?_eq_none_iff.mpr hv)
      · have hfirst : firstType? (before ++ [last] ++ [v]) = some fixed := by
          rw [firstType?_append, hfixed, Option.some_or]
        have hmem : v ∈ before ++ [last] ++ [v] := List.mem_append_right _ List.mem_cons_self
        exact .inr (fixes?_eq_some_iff.mpr ⟨hv, h.typeName_eq hfirst hmem hv⟩)
    rw [through_concat, set_append_of_not_has hfree, set, if_pos rfl, Entry.rebind_of_fits hfits]
    rfl

/-- A value of another type is not. -/
theorem set_through_of_ne (hfree : b.has name = false) {first : String}
    (hfirst : firstType? values = some first) (hv : v ≠ .null) (hne : v.typeName ≠ first) :
    (b.through name values).set name v = .error ⟨name, first, v.typeName⟩ := by
  rcases List.eq_nil_or_concat values with rfl | ⟨before, last, rfl⟩
  · cases hfirst
  · rw [List.concat_eq_append] at hfirst ⊢
    have hoffers : v.fixes? = some v.typeName := fixes?_eq_some_iff.mpr ⟨hv, rfl⟩
    rw [through_concat, set_append_of_not_has hfree, set, if_pos rfl,
      Entry.rebind_of_ne hfirst hoffers hne.symm]
    rfl

/-- Of two tables together, the first is asked for an entry before the second. -/
private theorem entry?_append (b more : Bindings) (name : String) :
    entry? (b ++ more) name = (b.entry? name).or (more.entry? name) := by
  induction b with
  | nil => rfl
  | cons entry b ih =>
    obtain ⟨n, e⟩ := entry
    rw [List.cons_append, entry?_cons, entry?_cons, ih]
    split <;> rfl

/-- Which values were bound before the last one is not to be seen from the values of names. -/
theorem get?_through (b : Bindings) (name : String) (values : List Value) (v : Value)
    (other : String) : get? (b.through name (values ++ [v])) other = get? (b.through name [v]) other := by
  rw [through_concat, ← List.nil_append [v], through_concat]
  rw [get?, get?, entry?_append, entry?_append]
  cases b.entry? other with
  | some e => rfl
  | none =>
    rw [Option.none_or, Option.none_or, entry?_cons, entry?_cons]
    split <;> rfl

end Bindings

/-! ## Loops -/

namespace Evaluation

open Value Bindings

variable {host : Host} {token item source : Token} {body : Node} {b : Bindings} {v : Value}
  {items before : List Value}

/-- What the body of a loop comes to for one item on its own. -/
def bodyFor (host : Host) (body : Node) (b : Bindings) (name : String) (v : Value) :
    Except RuntimeError Value :=
  answer (body.eval host (b.through name [v]))

/-- **A body without loops comes to the same behind other items**, and leaves the bindings as they are. -/
theorem eval_through (host : Host) (hbody : ∀ name, .binds name ∉ body.mentions) (b : Bindings)
    (name : String) (before : List Value) (v : Value) :
    body.eval host (b.through name (before ++ [v])) =
      match bodyFor host body b name v with
      | .ok value => .ok value (b.through name (before ++ [v]))
      | .error err => .error err (b.through name (before ++ [v])) := by
  have hjournal := body.journals_of_subset host (List.Subset.refl _)
  have hleft := hjournal.left_eq hbody (b.through name (before ++ [v]))
  have hagree : Agree body.names (b.through name (before ++ [v])) (b.through name [v]) :=
    fun other _ => get?_through b name before v other
  have hanswer := (hjournal.alikeAt (fun _ => List.mem_map_of_mem) _ _ hagree).1
  rw [bodyFor, ← hanswer]
  cases hrun : body.eval host (b.through name (before ++ [v])) with
  | ok value b' | error err b' =>
    rw [hrun] at hleft
    exact hleft ▸ rfl

/-- **Items of one type are gone through in turn**, up to the first for which the body has no value. -/
theorem forItems_through (host : Host) (token : Token) (hbody : ∀ name, .binds name ∉ body.mentions)
    (hfree : b.has item.text = false) (before : List Value) (htype : OneType (before ++ items)) :
    forItems token item (body.eval host) items (b.through item.text before) =
      match items.mapM (bodyFor host body b item.text) with
      | .ok values => .ok (displays values) (b.through item.text (before ++ items))
      | .error err =>
        .error err (b.through item.text (before ++ reached (bodyFor host body b item.text) items)) := by
  -- along the items, of which those that are done are kept as the ones before
  induction items generalizing before with
  | nil =>
    rw [List.append_nil]
    rfl
  | cons v vs ih =>
    rw [List.append_cons] at htype
    have hset := set_through hfree htype.left
    rw [forItems, bind_of_ok (assign_of_ok hset "EachLoop" token), List.mapM_cons, reached]
    have hrun := eval_through host hbody b item.text before v
    cases hv : bodyFor host body b item.text v with
    | error err =>
      rw [hv] at hrun
      exact bind_of_error hrun
    | ok first =>
      rw [hv] at hrun
      have hrest := ih (before ++ [v]) htype
      simp only [List.append_assoc, List.singleton_append] at hrest
      rw [bind_of_ok hrun]
      cases hvs : vs.mapM (bodyFor host body b item.text) with
      | error err =>
        rw [hvs] at hrest
        exact bind_of_error hrest
      | ok values =>
        rw [hvs] at hrest
        exact bind_of_ok hrest

/-- One part of the items is gone through after the other. -/
theorem forItems_append (token item : Token) (e : Evaluation Value) (items more : List Value) :
    forItems token item e (items ++ more) = do
      let texts ← forItems token item e items
      return texts ++ (← forItems token item e more) := by
  induction items with
  | nil => simp only [forItems, List.nil_append, pure_bind, bind_pure]
  | cons v vs ih => simp only [List.cons_append, forItems, ih, bind_assoc, pure_bind]

/-- A loop whose item is free is its items one after the other, joined. -/
private theorem eval_each {item source : Node} (hfree : b.has item.token.text = false)
    (hsource : b.get? source.token.text = some v) (hitems : host.items v source.token.text = .ok items) :
    (Node.each token item source body).eval host b =
      (do return Value.text (String.join (← forItems token item.token (body.eval host) items))) b := by
  have hitemsOf : itemsOf host token item.token source.token b = .ok items b := by
    rw [itemsOf_run, hfree, bind_of_ok (lookup_of_some hsource "EachLoop" token), hitems]
    rfl
  rw [Node.eval, loop_eq, bind_of_ok hitemsOf]

/-- **A loop goes through its items in turn.** Let there be no loop in the body, and let the variable be
free. Where all items that are values have one type, the loop comes to the written forms of what the body
comes to for each of them on its own, or fails as the body does for the first item for which it fails; its
variable keeps the last item that is got to.

Otherwise some item is the first of another type. Either the body fails for an item in front of it, as
before, or the loop fails at its own token, and its variable keeps the item in front. -/
theorem items_in_turn {item source : Node} (hbody : ∀ name, .binds name ∉ body.mentions)
    (hfree : b.has item.token.text = false) (hsource : b.get? source.token.text = some v)
    (hitems : host.items v source.token.text = .ok items) :
    let name := item.token.text
    let run := bodyFor host body b name
    let loop := (Node.each token item source body).eval host b
    (∀ s, v = .text s → items = s.toList.map fun c => .text (String.singleton c)) ∧
    (OneType items →
      match items.mapM run with
      | .ok values => loop = .ok (.text (String.join (displays values))) (b.through name items)
      | .error err => loop = .error err (b.through name (reached run items))) ∧
    (¬ OneType items → ∃ before x after first, items = before ++ x :: after ∧ OneType before ∧
      firstType? before = some first ∧ x ≠ .null ∧ x.typeName ≠ first ∧
      match before.mapM run with
      | .ok _ => loop = .error ⟨"EachLoop", token, .binding ⟨name, first, x.typeName⟩⟩
          (b.through name before)
      | .error err => loop = .error err (b.through name (reached run before))) := by
  intro name run loop
  have hloop : loop = _ := eval_each hfree hsource hitems
  refine ⟨fun s hs => ?_, fun htype => ?_, fun htypes => ?_⟩
  · subst hs
    exact (Except.ok.inj hitems).symm
  · have hrun := forItems_through host token hbody hfree [] htype
    cases hvalues : items.mapM run with
    | ok values =>
      rw [hvalues] at hrun
      exact hloop.trans (bind_of_ok hrun)
    | error err =>
      rw [hvalues] at hrun
      exact hloop.trans (bind_of_error hrun)
  -- the items up to the first of another type are of one type, so that these are gone through as above
  · obtain ⟨before, x, after, first, rfl, htype, hfirst, hx, hne⟩ := exists_other_type htypes
    refine ⟨before, x, after, first, rfl, htype, hfirst, hx, hne, ?_⟩
    have hrun := forItems_through host token hbody hfree [] htype
    rw [forItems_append, bind_assoc] at hloop
    cases hvalues : before.mapM run with
    | ok values =>
      rw [hvalues] at hrun
      have hassign := assign_of_error (set_through_of_ne hfree hfirst hx hne) "EachLoop" token
      refine hloop.trans ((bind_of_ok hrun).trans ?_)
      rw [bind_assoc]
      exact bind_of_error (bind_of_error hassign)
    | error err =>
      rw [hvalues] at hrun
      exact hloop.trans (bind_of_error hrun)

/-- No value goes with items of any type, but there is no quotient for it. -/
theorem items_in_turn_null :
    let name (offset : Nat) (text : String) : Token := ⟨.identifier, text, offset⟩
    let body : Node := .binary ⟨.div, "/", 17⟩ (.terminal ⟨.integerConst, "6", 15⟩ (.int 6))
      (.access (.read (name 19 "x")) [])
    let loop : Node := .each (name 0 "each") (.name (name 5 "x")) (.name (name 10 "xs")) body
    let b : Bindings := [("xs", ⟨.list [.integer 2, .null, .integer 3], some "list"⟩)]
    loop.eval .empty b =
      .error ⟨"BinaryOperation", ⟨.div, "/", 17⟩, .fault (.operands "/" "integer" "null")⟩
        (b ++ [("x", ⟨.null, some "integer"⟩)]) := by
  intro name body loop b
  have hbody : ∀ name, .binds name ∉ body.mentions := by
    intro name hname
    cases hname with
    | tail _ hname => cases hname
  have htype : OneType [.integer 2, .null, .integer 3] :=
    ⟨"integer", by simp [Value.typeName, Value.kind, ValueKind.name]⟩
  have hitems : Host.items .empty (.list [.integer 2, .null, .integer 3]) "xs" = .ok _ := rfl
  exact (@items_in_turn .empty (name 0 "each") body b _ _ (.name (name 5 "x")) (.name (name 10 "xs"))
    hbody rfl rfl hitems).2.1 htype

end Evaluation

end Stencil
