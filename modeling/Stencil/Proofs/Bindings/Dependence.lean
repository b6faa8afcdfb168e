import Stencil.Proofs.Bindings.Growth

/-!
# Evaluation depends on the names in a tree

Two bindings that give the names mentioned in a tree the same values give the tree the same value, or
the same error, and go on giving these names the same values (`Evaluation.dependence`). The types that names
are fixed to may differ: only a loop binds names, and its variable is new on both sides, so that on
both sides it is fixed to the same type while the loop goes through its items.
-/

namespace Stencil

namespace Bindings

variable {names : List String} {b c b' c' : Bindings} {name : String} {v : Value}

/-- The names have the same values, or none. -/
def Agree (names : List String) (b c : Bindings) : Prop :=
  ∀ name ∈ names, b.get? name = c.get? name

/-- A name that has the same entry on both sides takes the same values, and has the same entry still. -/
theorem set_of_same_entry (h : b.entry? name = c.entry? name) (v : Value) :
    (∃ err, b.set name v = .error err ∧ c.set name v = .error err) ∨
    ∃ b' c', b.set name v = .ok b' ∧ c.set name v = .ok c' ∧ entry? b' name = entry? c' name := by
  rcases set_cases b name v with ⟨b', e, hb, hafter, hentry, -⟩ | ⟨types, hb, hafter⟩ <;>
  rcases set_cases c name v with ⟨c', e', hc, hafter', hentry', -⟩ | ⟨types', hc, hafter'⟩ <;>
  rw [← h, hafter] at hafter' <;> cases hafter'
  · exact .inr ⟨b', c', hb, hc, hentry.trans hentry'.symm⟩
  · exact .inl ⟨_, hb, hc⟩

/-- Tables that agree on some names still do once one name has been set to one value in both. -/
theorem Agree.set (h : Agree names b c) (hb : b.set name v = .ok b') (hc : c.set name v = .ok c') :
    Agree names b' c' := by
  intro other hother
  by_cases hname : other = name
  · rw [hname, get?_of_set hb, get?_of_set hc]
  · rw [get?_of_same_entry (entry?_of_set hb hname), get?_of_same_entry (entry?_of_set hc hname)]
    exact h other hother

end Bindings

namespace Evaluation

open Bindings

variable {α β : Type} {names : List String} {host : Host} {b c : Bindings}

/-- The evaluation answers the same for both bindings, and leaves bindings that agree. -/
def AlikeAt (names : List String) (b c : Bindings) (e : Evaluation α) : Prop :=
  answer (e b) = answer (e c) ∧ Agree names (left (e b)) (left (e c))

private theorem alikeAt_pure (h : Agree names b c) (a : α) : AlikeAt names b c (pure a) := ⟨rfl, h⟩

private theorem alikeAt_lift (h : Agree names b c) (nodeName : String) (token : Token)
    (result : Except Cause α) : AlikeAt names b c (lift nodeName token result) := by
  cases result <;> exact ⟨rfl, h⟩

/-- A sequence is run alike where its first part is, and the rest from whatever tables the first leaves. -/
theorem AlikeAt.bind {e : Evaluation α} {f : α → Evaluation β} (h : AlikeAt names b c e)
    (hmore : ∀ a b' c', e b = .ok a b' → e c = .ok a c' → Agree names b' c' →
      AlikeAt names b' c' (f a)) : AlikeAt names b c (e >>= f) := by
  obtain ⟨hanswer, hagree⟩ := h
  cases hb : e b with
  | ok a b' =>
    cases hc : e c with
    | ok a' c' =>
      rw [hb, hc] at hanswer hagree
      cases hanswer
      rw [AlikeAt, bind_of_ok hb, bind_of_ok hc]
      exact hmore a b' c' hb hc hagree
    | error err c' =>
      rw [hb, hc] at hanswer
      cases hanswer
  | error err b' =>
    cases hc : e c with
    | ok a' c' =>
      rw [hb, hc] at hanswer
      cases hanswer
    | error err' c' =>
      rw [hb, hc] at hanswer hagree
      cases hanswer
      rw [AlikeAt, bind_of_error hb, bind_of_error hc]
      exact ⟨rfl, hagree⟩

private theorem alikeAt_lookup (h : Agree names b c) {name : String} (hname : name ∈ names)
    (nodeName : String) (token : Token) : AlikeAt names b c (lookup nodeName token name) := by
  cases hc : c.get? name with
  | some v =>
    rw [AlikeAt, lookup_of_some ((h name hname).trans hc), lookup_of_some hc]
    exact ⟨rfl, h⟩
  | none =>
    rw [AlikeAt, lookup_of_none ((h name hname).trans hc), lookup_of_none hc]
    exact ⟨rfl, h⟩

private theorem alikeAt_itemsOf (host : Host) (h : Agree names b c) {item source : Token}
    (hitem : item.text ∈ names)
    (hsource : source.text ∈ names) (token : Token) :
    AlikeAt names b c (itemsOf host token item source) := by
  have hhas : b.has item.text = c.has item.text := by
    rw [has_iff_get?, has_iff_get?, h _ hitem]
  rw [AlikeAt, itemsOf_run, itemsOf_run, hhas]
  split
  · exact ⟨rfl, h⟩
  · exact (alikeAt_lookup h hsource "EachLoop" token).bind fun v b' c' _ _ hagree =>
      alikeAt_lift hagree "EachLoop" token _

/-- **A loop goes the same way on both sides**, since its variable has the same entry on both sides, which
the body leaves alone. -/
theorem alikeAt_forItems {token item : Token} {e : Evaluation Value}
    (hbody : ∀ b c, Agree names b c → AlikeAt names b c e)
    (hkept : ∀ b : Bindings, ∀ name, b.has name = true → entry? (left (e b)) name = b.entry? name)
    (items : List Value) {b c : Bindings} (h : Agree names b c)
    (hentry : b.entry? item.text = c.entry? item.text) :
    AlikeAt names b c (forItems token item e items) := by
  induction items generalizing b c with
  | nil => exact alikeAt_pure h []
  | cons v vs ih =>
    rcases set_of_same_entry hentry v with ⟨err, hb, hc⟩ | ⟨b', c', hb, hc, hentry'⟩
    · have hassign : AlikeAt names b c (assign "EachLoop" token item.text v) := by
        rw [AlikeAt, assign_of_error hb, assign_of_error hc]
        exact ⟨rfl, h⟩
      refine hassign.bind fun a b₁ c₁ hok _ _ => ?_
      cases (assign_of_error hb _ _).symm.trans hok
    · have hassign : AlikeAt names b c (assign "EachLoop" token item.text v) := by
        rw [AlikeAt, assign_of_ok hb, assign_of_ok hc]
        exact ⟨rfl, h.set hb hc⟩
      refine hassign.bind fun a b₁ c₁ hok hok' hagree => ?_
      cases (assign_of_ok hb _ _).symm.trans hok
      cases (assign_of_ok hc _ _).symm.trans hok'
      refine (hbody b' c' hagree).bind fun first b₂ c₂ he he' hagree' => ?_
      have hb₂ := hkept b' item.text (has_of_set hb)
      have hc₂ := hkept c' item.text (has_of_set hc)
      rw [he] at hb₂
      rw [he'] at hc₂
      exact (ih hagree' (hb₂.trans (hentry'.trans hc₂.symm))).bind
        fun _ _ _ _ _ hagree => alikeAt_pure hagree _

end Evaluation

open Bindings Evaluation

/-- **What is put together from the parts answers the same wherever the names mentioned agree.** -/
theorem Journals.alikeAt {host : Host} {mentioned : List Mention} {names : List String} {α : Type}
    {e : Evaluation α} {j : Journaled α} (h : Journals host mentioned e j)
    (hnames : ∀ mention ∈ mentioned, mention.name ∈ names) :
    ∀ b c, Agree names b c → AlikeAt names b c e := by
  induction h with
  | pure a => exact fun b c hagree => alikeAt_pure hagree a
  | bind _ _ ih ih' =>
    intro b c hagree
    exact (ih b c hagree).bind fun a b' c' _ _ => ih' a b' c'
  | lift nodeName token result => exact fun b c hagree => alikeAt_lift hagree nodeName token result
  | lookup nodeName token hname =>
    exact fun b c hagree => alikeAt_lookup hagree (hnames _ hname) nodeName token
  | loop token hitem hsource hbody ih =>
    intro b c hagree
    rw [loop_eq]
    have hitems := alikeAt_itemsOf host hagree (hnames _ hitem) (hnames _ hsource) token
    refine hitems.bind fun items b' c' hb hc hagree' => ?_
    obtain ⟨rfl, hfree⟩ := free_of_itemsOf hb
    obtain ⟨rfl, hfree'⟩ := free_of_itemsOf hc
    have hentry := (not_has_iff.mp hfree).trans (not_has_iff.mp hfree').symm
    have hkept (b : Bindings) := (hbody.grown b).kept
    exact (alikeAt_forItems ih hkept items hagree hentry).bind
      fun _ _ _ _ _ hagree => alikeAt_pure hagree _
  | @fragment onError e _ _ ih =>
    intro b c hagree
    obtain ⟨hanswer, hagree'⟩ := ih b c hagree
    unfold AlikeAt Evaluation.fragment
    cases hb : e b <;> cases hc : e c <;> rw [hb, hc] at hanswer hagree' <;> cases hanswer
    · exact ⟨rfl, hagree'⟩
    · cases onError <;> exact ⟨rfl, hagree'⟩

/-- Names that are not mentioned keep their entries. -/
theorem Journals.unmentioned {host : Host} {mentioned : List Mention} {α : Type}
    {e : Evaluation α} {j : Journaled α} (h : Journals host mentioned e j) {name : String}
    (hname : ∀ mention ∈ mentioned, mention.name ≠ name) (b : Bindings) :
    entry? (left (e b)) name = b.entry? name := by
  obtain ⟨hkept, hadded⟩ := h.grown b
  cases hbound : b.has name with
  | true => exact hkept name hbound
  | false =>
    cases hbound' : (left (e b)).has name with
    | true => exact absurd rfl (hname _ (hadded name hbound' hbound))
    | false => rw [not_has_iff.mp hbound, not_has_iff.mp hbound']

namespace Evaluation

/-- From `b` and from `c` the evaluation answers the same, gives the names the same values, and leaves
all other entries as they are. -/
def SameFrom {α : Type} (names : List String) (b c : Bindings) (e : Evaluation α) : Prop :=
  AlikeAt names b c e ∧ ∀ name, name ∉ names →
    entry? (left (e b)) name = b.entry? name ∧ entry? (left (e c)) name = c.entry? name

/-- **Evaluation depends on the names mentioned in a tree alone.** From bindings that give these names the
same values, or none, a tree has the same value or the same error, and is rendered the same in both
modes; the bindings that are left again give these names the same values, and all other names
have the entries that they had. -/
theorem dependence (host : Host) (node : Node) (b c : Bindings) (h : Agree node.names b c) :
    SameFrom node.names b c (node.eval host) ∧
      ∀ onError, SameFrom node.names b c (render host onError node) := by
  have hsame {α : Type} {e : Evaluation α} {j : Journaled α} (he : Journals host node.mentions e j) :
      SameFrom node.names b c e := by
    have hnames : ∀ mention ∈ node.mentions, mention.name ∈ node.names :=
      fun mention hmention => List.mem_map_of_mem hmention
    refine ⟨he.alikeAt hnames b c h, fun name hname => ?_⟩
    have hother : ∀ mention ∈ node.mentions, mention.name ≠ name := by
      rintro mention hmention rfl
      exact hname (hnames mention hmention)
    exact ⟨he.unmentioned hother b, he.unmentioned hother c⟩
  have hall := List.Subset.refl node.mentions
  exact ⟨hsame (node.journals_of_subset host hall),
    fun onError => hsame (Journals.render_of_subset host onError node hall)⟩

/-- A name behind a dot is not mentioned, and does not matter where it is bound. -/
theorem dependence_member :
    let node : Node := .each ⟨.identifier, "each", 0⟩ (.name ⟨.identifier, "x", 5⟩)
      (.name ⟨.identifier, "xs", 10⟩)
      (.access (.read ⟨.identifier, "s", 15⟩) [.read ⟨.identifier, "Length", 17⟩])
    let b : Bindings := [("xs", ⟨.text "ab", some "text"⟩), ("s", ⟨.text "abc", some "text"⟩)]
    let c : Bindings := [("Length", ⟨.integer 1, some "integer"⟩), ("s", ⟨.text "abc", some "text"⟩),
      ("xs", ⟨.text "ab", some "text"⟩)]
    Agree node.names b c ∧
      answer (render .empty .stop node b) = .ok "33" ∧
      answer (render .empty .stop node c) = .ok "33" := by
  intro node b c
  have h : Agree node.names b c := by
    show ∀ name ∈ ["x", "xs", "s"], b.get? name = c.get? name
    simp only [List.forall_mem_cons]
    exact ⟨rfl, rfl, rfl, List.forall_mem_nil _⟩
  have hvalue : answer (render .empty .stop node b) = .ok "33" := rfl
  exact ⟨h, hvalue, ((dependence .empty node b c h).2 .stop).1.1.symm.trans hvalue⟩

end Evaluation

end Stencil
