import Stencil.Evaluation
import Stencil.Proofs.Calls.Arguments
import Stencil.Proofs.Steps

/-!
# Which method a call runs

Of the methods of a name that take its arguments a call runs one that requires no more of them than the
others, and the one that is declared first where there are several (`Method.IsChoice`). It is the first
that fits after the methods have been sorted by what they require (`Method.find?_mergeSort`). So no
argument is found missing where any method of the name has all that it requires
(`Class.callMethod_by_count`). Of methods that require the same the order of declaration decides: one
that has no parameters beyond the arguments is run only if it is declared before those that have some
(`Class.exact_runs_iff`).
-/

namespace Stencil

/-! ## The first of those that require the fewest arguments -/

namespace Method

variable {Data : Type} {ms ms' before after : List (Method Data)} {m o : Method Data} {name : String}
  {count : Nat} {p : Method Data → Bool}

/-- The method has the name and enough parameters for so many arguments. -/
def Takes (name : String) (count : Nat) (m : Method Data) : Prop :=
  m.name = name ∧ count ≤ m.params.length

instance : Decidable (m.Takes name count) := inferInstanceAs (Decidable (_ ∧ _))

/-- `m` is the method for a call: of those that take the arguments no other one requires fewer, and none
that is declared before it requires as few. -/
def IsChoice (ms : List (Method Data)) (name : String) (count : Nat) (m : Method Data) : Prop :=
  ∃ before after, ms = before ++ m :: after ∧ m.Takes name count ∧
    (∀ o ∈ before, o.Takes name count → m.required < o.required) ∧
    ∀ o ∈ after, o.Takes name count → m.required ≤ o.required

/-- A method put first is chosen unless one behind it requires fewer arguments. -/
private theorem fewestRequired_cons (h : fewestRequired ms = some m) :
    fewestRequired (o :: ms) = some (if m.required < o.required then m else o) := by
  rw [fewestRequired, h]
  exact (apply_ite some ..).symm

/-- There is one of fewest required parameters unless there is none at all. -/
private theorem fewestRequired_eq_none_iff : fewestRequired ms = none ↔ ms = [] := by
  cases ms with
  | nil => simp only [fewestRequired]
  | cons o ms =>
    cases h : fewestRequired ms with
    | none => simp only [fewestRequired, h, reduceCtorEq]
    | some m => simp only [fewestRequired_cons h, reduceCtorEq]

private theorem exists_of_fewestRequired (h : fewestRequired ms = some m) : ∃ before after,
    ms = before ++ m :: after ∧ (∀ o ∈ before, m.required < o.required) ∧
      ∀ o ∈ after, m.required ≤ o.required := by
  induction ms generalizing m with
  | nil => cases h
  | cons o ms ih =>
    cases hrest : fewestRequired ms with
    | none =>
      obtain rfl := fewestRequired_eq_none_iff.mp hrest
      cases h
      exact ⟨[], [], rfl, nofun, nofun⟩
    | some best =>
      obtain ⟨before, after, rfl, hbefore, hafter⟩ := ih hrest
      rw [fewestRequired_cons hrest, Option.some.injEq] at h
      subst h
      split
      · next hlt => exact ⟨o :: before, after, rfl, List.forall_mem_cons.mpr ⟨hlt, hbefore⟩, hafter⟩
      · next hle =>
        have hle := Nat.not_lt.mp hle
        refine ⟨[], _, rfl, nofun, List.forall_mem_append.mpr ⟨fun x hx => ?_, ?_⟩⟩
        · exact Nat.le_trans hle (Nat.le_of_lt (hbefore x hx))
        · exact List.forall_mem_cons.mpr ⟨hle, fun x hx => Nat.le_trans hle (hafter x hx)⟩

private theorem fewestRequired_eq_some_iff : fewestRequired ms = some m ↔ ∃ before after,
    ms = before ++ m :: after ∧ (∀ o ∈ before, m.required < o.required) ∧
      ∀ o ∈ after, m.required ≤ o.required := by
  refine ⟨exists_of_fewestRequired, ?_⟩
  rintro ⟨before, after, rfl, hbefore, hafter⟩
  induction before with
  | nil =>
    rw [List.nil_append]
    cases hrest : fewestRequired after with
    | none => rw [fewestRequired, hrest]
    | some best =>
      obtain ⟨_, _, rfl, -, -⟩ := exists_of_fewestRequired hrest
      have hle := hafter best (List.mem_append_right _ List.mem_cons_self)
      rw [fewestRequired_cons hrest, if_neg (Nat.not_lt.mpr hle)]
  | cons o before ih =>
    obtain ⟨hlt, hbefore⟩ := List.forall_mem_cons.mp hbefore
    rw [List.cons_append, fewestRequired_cons (ih hbefore), if_pos hlt]

private theorem fewestRequired_filter_eq_some_iff : fewestRequired (ms.filter p) = some m ↔
    ∃ before after, ms = before ++ m :: after ∧ p m = true ∧
      (∀ o ∈ before, p o = true → m.required < o.required) ∧
      ∀ o ∈ after, p o = true → m.required ≤ o.required := by
  rw [fewestRequired_eq_some_iff]
  constructor
  · rintro ⟨before', after', hfilter, hbefore, hafter⟩
    obtain ⟨l, l', rfl, rfl, hl'⟩ := List.filter_eq_append_iff.mp hfilter
    obtain ⟨k, k', rfl, hk, hm, rfl⟩ := List.filter_eq_cons_iff.mp hl'
    refine ⟨l ++ k, k', (List.append_assoc ..).symm, hm, fun o ho hp => ?_, fun o ho hp => ?_⟩
    · rcases List.mem_append.mp ho with ho | ho
      · exact hbefore o (List.mem_filter.mpr ⟨ho, hp⟩)
      · exact absurd hp (hk o ho)
    · exact hafter o (List.mem_filter.mpr ⟨ho, hp⟩)
  · rintro ⟨before, after, rfl, hm, hbefore, hafter⟩
    refine ⟨before.filter p, after.filter p, ?_, fun o ho => ?_, fun o ho => ?_⟩
    · rw [List.filter_append, List.filter_cons_of_pos hm]
    · obtain ⟨ho, hp⟩ := List.mem_filter.mp ho
      exact hbefore o ho hp
    · obtain ⟨ho, hp⟩ := List.mem_filter.mp ho
      exact hafter o ho hp

/-- A method that is put behind those that require fewer, and in front of all others, is the first that
fits just where it is one that requires the fewest. -/
theorem find?_append_cons {l l' : List (Method Data)} (hless : ∀ m ∈ l, m.required < o.required)
    (hmore : ∀ m ∈ l', o.required ≤ m.required)
    (hrest : (l ++ l').find? p = fewestRequired (ms.filter p)) :
    (l ++ o :: l').find? p = fewestRequired ((o :: ms).filter p) := by
  rw [List.find?_append] at hrest ⊢
  cases ho : p o with
  | false => rw [List.find?_cons_of_neg (by simp [ho]), List.filter_cons_of_neg (by simp [ho]), hrest]
  | true =>
    rw [List.find?_cons_of_pos ho, List.filter_cons_of_pos ho]
    cases hl : l.find? p with
    | some m =>
      rw [hl, Option.some_or] at hrest
      have hlt := hless m (List.mem_of_find?_eq_some hl)
      rw [fewestRequired_cons hrest.symm, if_pos hlt, Option.some_or]
    | none =>
      rw [hl, Option.none_or] at hrest
      rw [Option.none_or]
      cases hl' : l'.find? p with
      | some m =>
        have hle := hmore m (List.mem_of_find?_eq_some hl')
        rw [fewestRequired_cons (hrest.symm.trans hl'), if_neg (Nat.not_lt.mpr hle)]
      | none => rw [fewestRequired, ← hrest, hl']

/-- **The first that fits, after sorting by what is required,** is the first of those that require the
fewest. Sorting keeps the order of those that require the same. -/
theorem find?_mergeSort (ms : List (Method Data)) (p : Method Data → Bool) :
    (ms.mergeSort fun a b => a.required ≤ b.required).find? p = fewestRequired (ms.filter p) := by
  have htrans (a b c : Method Data) : decide (a.required ≤ b.required) = true →
      decide (b.required ≤ c.required) = true → decide (a.required ≤ c.required) = true := by
    simp only [decide_eq_true_iff]
    exact Nat.le_trans
  have htotal (a b : Method Data) :
      (decide (a.required ≤ b.required) || decide (b.required ≤ a.required)) = true := by
    simp only [Bool.or_eq_true, decide_eq_true_iff]
    exact Nat.le_total ..
  induction ms with
  | nil => rw [List.mergeSort_nil, List.find?_nil, List.filter_nil, fewestRequired]
  | cons o ms ih =>
    -- the new method stands behind those that require fewer, and in front of all others
    obtain ⟨l, l', hcons, hms, hless⟩ := List.mergeSort_cons htrans htotal o ms
    have hsorted := List.pairwise_mergeSort htrans htotal (o :: ms)
    rw [hcons] at hsorted ⊢
    have hmore := (List.pairwise_cons.mp (List.pairwise_append.mp hsorted).2.1).1
    simp only [decide_eq_true_iff, Bool.not_eq_true', decide_eq_false_iff_not, Nat.not_le] at hless hmore
    rw [hms] at ih
    exact find?_append_cons hless hmore ih

/-! ## The method for a call -/

/-- A method requires no more arguments than it has parameters. -/
private theorem required_le_length : m.required ≤ m.params.length := List.countP_le_length

/-- Whether a method takes a call, as the search decides it. -/
private theorem takes_iff :
    m.Takes name count ↔ (decide (count ≤ m.params.length) && m.name == name) = true := by
  rw [Bool.and_eq_true, decide_eq_true_iff, beq_iff_eq, and_comm]
  rfl

/-- **The method that is found is the choice.** -/
theorem forCount?_eq_some_iff :
    forCount? (ms.filter fun m => m.name == name) count = some m ↔ IsChoice ms name count m := by
  rw [forCount?, List.filter_filter, fewestRequired_filter_eq_some_iff]
  simp only [IsChoice, takes_iff]

/-- There is no choice only where no method takes the arguments. -/
theorem forCount?_eq_none_iff :
    forCount? (ms.filter fun m => m.name == name) count = none ↔ ∀ m ∈ ms, ¬ m.Takes name count := by
  rw [forCount?, List.filter_filter, fewestRequired_eq_none_iff, List.filter_eq_nil_iff]
  simp only [takes_iff]

namespace IsChoice

/-- The choice is one of the methods. -/
theorem mem (h : IsChoice ms name count m) : m ∈ ms := by
  obtain ⟨before, after, rfl, -⟩ := h
  exact List.mem_append_right _ List.mem_cons_self

/-- It takes the call. -/
theorem takes (h : IsChoice ms name count m) : m.Takes name count := by
  obtain ⟨_, _, -, htakes, -⟩ := h
  exact htakes

/-- None that takes the call requires fewer arguments. -/
private theorem required_le (h : IsChoice ms name count m) (ho : o ∈ ms) (hfits : o.Takes name count) :
    m.required ≤ o.required := by
  obtain ⟨before, after, rfl, -, hbefore, hafter⟩ := h
  rcases List.mem_append.mp ho with ho | ho
  · exact Nat.le_of_lt (hbefore o ho hfits)
  · rcases List.mem_cons.mp ho with rfl | ho
    · exact Nat.le_refl _
    · exact hafter o ho hfits

/-- There is one choice at most. -/
theorem unique (h : IsChoice ms name count m) (h' : IsChoice ms name count o) : m = o :=
  Option.some.inj ((forCount?_eq_some_iff.mpr h).symm.trans (forCount?_eq_some_iff.mpr h'))

end IsChoice

/-- There is one if any method takes the arguments. -/
theorem exists_isChoice_iff : (∃ m, IsChoice ms name count m) ↔ ∃ m ∈ ms, m.Takes name count := by
  refine ⟨fun ⟨m, h⟩ => ⟨m, h.mem, h.takes⟩, fun ⟨m, hm, hfits⟩ => ?_⟩
  cases hfound : forCount? (ms.filter fun m => m.name == name) count with
  | some best => exact ⟨best, forCount?_eq_some_iff.mp hfound⟩
  | none => exact absurd hfits (forCount?_eq_none_iff.mp hfound m hm)

/-! ## Methods without more parameters than arguments -/

/-- The method has exactly so many parameters, and all of them need an argument. -/
def IsExact (name : String) (count : Nat) (m : Method Data) : Prop :=
  m.name = name ∧ m.params.length = count ∧ m.required = count

/-- A method with exactly the parameters that are supplied takes the call. -/
theorem IsExact.takes (h : m.IsExact name count) : m.Takes name count := ⟨h.1, Nat.le_of_eq h.2.1.symm⟩

/-- No method that takes the arguments requires fewer. -/
def NoneRequiresFewer (ms : List (Method Data)) (name : String) (count : Nat) : Prop :=
  ∀ o ∈ ms, o.Takes name count → count ≤ o.required

instance : Decidable (NoneRequiresFewer ms name count) :=
  inferInstanceAs (Decidable (∀ o ∈ ms, o.Takes name count → count ≤ o.required))

namespace NoneRequiresFewer

/-- The order of the methods is nothing to this condition. -/
private theorem of_perm (h : NoneRequiresFewer ms name count) (hperm : ms'.Perm ms) :
    NoneRequiresFewer ms' name count :=
  fun o ho => h o (hperm.mem_iff.mp ho)

/-- Under it, where some method is exact, the choice requires as many arguments as are supplied. -/
private theorem required_eq (h : NoneRequiresFewer ms name count) (he : o ∈ ms)
    (hexact : o.IsExact name count)
    (hm : IsChoice ms name count m) : m.required = count := by
  have hle := hm.required_le he hexact.takes
  rw [hexact.2.2] at hle
  exact Nat.le_antisymm hle (h m hm.mem hm.takes)

/-- The first that requires as many as there are is the choice. -/
theorem isChoice (h : NoneRequiresFewer (before ++ m :: after) name count) (hname : m.name = name)
    (hrequired : m.required = count) (hfirst : ∀ o ∈ before, o.name = name → o.required ≠ count) :
    IsChoice (before ++ m :: after) name count m := by
  have hfits : m.Takes name count := ⟨hname, hrequired ▸ required_le_length⟩
  refine ⟨before, after, rfl, hfits, fun o ho hfits => ?_, fun o ho hfits => ?_⟩
  · have hle := h o (List.mem_append_left _ ho) hfits
    exact hrequired ▸ Nat.lt_of_le_of_ne hle (hfirst o ho hfits.1).symm
  · exact hrequired ▸ h o (List.mem_append_right _ (List.mem_cons_of_mem _ ho)) hfits

/-- The choice has no further parameters exactly if the first that requires as many as there are has
none. -/
theorem length_eq_iff (h : NoneRequiresFewer ms name count) (hm : IsChoice ms name count m)
    (hrequired : m.required = count) : m.params.length = count ↔ ∃ before e after,
      ms = before ++ e :: after ∧ e.IsExact name count ∧
        ∀ o ∈ before, o.name = name → o.required ≠ count := by
  constructor
  · intro hlength
    obtain ⟨before, after, hms, hfits, hbefore, -⟩ := hm
    refine ⟨before, m, after, hms, ⟨hfits.1, hlength, hrequired⟩, fun o ho hname heq => ?_⟩
    have hlt := hbefore o ho ⟨hname, heq ▸ required_le_length⟩
    rw [hrequired, heq] at hlt
    exact Nat.lt_irrefl count hlt
  · rintro ⟨before, e, after, rfl, ⟨hname, hlength, hrequired'⟩, hfirst⟩
    rw [hm.unique (h.isChoice hname hrequired' hfirst)]
    exact hlength

/-- The choice has no further parameters in any order exactly if none that requires as many as there are
has any. -/
theorem forall_perm_iff (h : NoneRequiresFewer ms name count) (he : o ∈ ms)
    (hexact : o.IsExact name count) :
    (∀ ms', ms'.Perm ms → ∃ m, IsChoice ms' name count m ∧ m.params.length = count) ↔
      ∀ m ∈ ms, m.name = name → m.required = count → m.params.length = count := by
  constructor
  · intro hall m hmem hname hrequired
    obtain ⟨before, after, hms⟩ := List.append_of_mem hmem
    -- `m` is the choice where it is declared first
    have hperm : ([] ++ m :: (before ++ after)).Perm ms := hms ▸ List.perm_middle.symm
    obtain ⟨m', hm', hlength⟩ := hall _ hperm
    rw [((h.of_perm hperm).isChoice hname hrequired nofun).unique hm']
    exact hlength
  · intro hall ms' hperm
    have he' := hperm.mem_iff.mpr he
    obtain ⟨m, hm⟩ := exists_isChoice_iff.mpr ⟨o, he', hexact.takes⟩
    have hrequired := (h.of_perm hperm).required_eq he' hexact hm
    exact ⟨m, hm, hall m (hperm.mem_iff.mp hm.mem) hm.takes.1 hrequired⟩

end NoneRequiresFewer

end Method

namespace Class

variable {c : Class} {receiver : Value} {name : String} {args : List Value} {m : Method c.Data}

open Method

/-- What comes of a method that is run: its parameters are bound to the arguments, and its body does the
rest. -/
def run (c : Class) (m : Method c.Data) (receiver : Value) (args : List Value) : Except Cause Value :=
  match m.bind args with
  | .error f => .error (.fault f)
  | .ok bound => (c.invoke m receiver bound).mapError .fault

/-- A method that runs does not complain that there is none. -/
private theorem run_ne_noOverload {type other : String} {count : Nat} :
    c.run m receiver args ≠ .error (.noOverload type other count) := by
  unfold run
  cases m.bind args with
  | error f => exact nofun
  | ok bound =>
    show (c.invoke m receiver bound).mapError Cause.fault ≠ _
    cases c.invoke m receiver bound <;> exact nofun

/-- The overloads of a name are the methods called so. -/
private theorem mem_overloads : m ∈ c.overloads name ↔ m ∈ c.methods ∧ m.name = name := by
  rw [overloads, List.mem_filter, beq_iff_eq]

/-- The methods of the name that take the arguments are among its overloads. -/
theorem exists_takes_iff {count : Nat} : (∃ m ∈ c.methods, m.Takes name count) ↔
    ∃ m ∈ c.overloads name, count ≤ m.params.length := by
  simp only [mem_overloads, Takes, and_assoc]

/-- **The choice is what is run.** -/
theorem callMethod_of_isChoice (h : IsChoice c.methods name args.length m) :
    c.callMethod receiver name args = c.run m receiver args := by
  have hfound : forCount? (c.overloads name) args.length = some m := forCount?_eq_some_iff.mpr h
  have hmem : m ∈ c.overloads name := mem_overloads.mpr ⟨h.mem, h.takes.1⟩
  simp only [callMethod, hfound, List.isEmpty_iff, List.ne_nil_of_mem hmem, if_false]
  rfl

/-- **A call has no overload exactly if there are methods of the name, all with too few parameters.** -/
theorem callMethod_eq_noOverload_iff :
    c.callMethod receiver name args = .error (.noOverload receiver.typeName name args.length) ↔
      c.overloads name ≠ [] ∧ ∀ m ∈ c.overloads name, m.params.length < args.length := by
  by_cases hchoice : ∃ m, IsChoice c.methods name args.length m
  · obtain ⟨m, hm⟩ := hchoice
    rw [callMethod_of_isChoice hm]
    refine iff_of_false run_ne_noOverload fun ⟨_, hshort⟩ => ?_
    exact Nat.not_lt.mpr hm.takes.2 (hshort m (mem_overloads.mpr ⟨hm.mem, hm.takes.1⟩))
  · rw [exists_isChoice_iff] at hchoice
    have hfound : forCount? (c.overloads name) args.length = none :=
      forCount?_eq_none_iff.mpr fun m hm hfits => hchoice ⟨m, hm, hfits⟩
    have hshort : ∀ m ∈ c.overloads name, m.params.length < args.length := by
      rw [exists_takes_iff] at hchoice
      exact fun m hm => Nat.not_le.mp fun hle => hchoice ⟨m, hm, hle⟩
    by_cases hnone : c.overloads name = []
    · simp [callMethod, hnone]
    · simp only [callMethod, hfound, List.isEmpty_iff, hnone, if_false]
      exact iff_of_true trivial ⟨hnone, hshort⟩

/-- **Where the parameters that need an argument stand in front, the choice lacks none if any method of
the name has all that it requires.** -/
theorem not_lacks_iff {count : Nat} (hfirst : ∀ m ∈ c.overloads name, m.RequiredFirst)
    (h : IsChoice c.methods name count m) :
    ¬ m.Lacks count ↔ ∃ o ∈ c.overloads name, o.required ≤ count ∧ count ≤ o.params.length := by
  have hmem := mem_overloads.mpr ⟨h.mem, h.takes.1⟩
  rw [(hfirst m hmem).lacks_iff, Nat.not_lt]
  constructor
  · exact fun hle => ⟨m, hmem, hle, h.takes.2⟩
  · rintro ⟨o, ho, hle, hfits⟩
    obtain ⟨homem, honame⟩ := mem_overloads.mp ho
    exact Nat.le_trans (h.required_le homem ⟨honame, hfits⟩) hle

/-- A call behind a dot calls the method of its name, on the values of its arguments. -/
theorem evalMember_call {host : Host} {token : Token} {nodes : List Node} {b b' : Bindings}
    (hname : token.text = name) (hclass : host.classFor receiver name = .ok c)
    (hargs : Node.evalAll host nodes b = .ok args b') :
    (Link.call token nodes).evalMember host receiver b =
      Evaluation.lift "ProcedureCall" token (c.callMethod receiver name args) b' := by
  subst hname
  rw [Link.evalMember, hclass]
  exact bind_of_ok hargs

/-- **The number of arguments decides which method a call runs.** It is the choice among the methods of
the name, which is the first of them that has enough parameters after they have been sorted by what they
require. There is one unless all of them have too few parameters, and just then that is the error. Where
the parameters that need an argument stand in front, the choice lacks none exactly if some method of the
name has all that it requires and takes as many; and if so no argument is found missing. -/
theorem callMethod_by_count (c : Class) (receiver : Value) (name : String) (args : List Value) :
    let overloads := c.overloads name
    let count := args.length
    let call := c.callMethod receiver name args
    (∀ host token nodes b b', token.text = name → host.classFor receiver name = .ok c →
      Node.evalAll host nodes b = .ok args b' →
      (Link.call token nodes).evalMember host receiver b =
        Evaluation.lift "ProcedureCall" token call b') ∧
    (∀ m, IsChoice c.methods name count m ↔
      (overloads.mergeSort fun a b => a.required ≤ b.required).find?
        (fun m => count ≤ m.params.length) = some m) ∧
    (∀ m, IsChoice c.methods name count m → call = c.run m receiver args) ∧
    ((∃ m, IsChoice c.methods name count m) ↔ ∃ m ∈ overloads, count ≤ m.params.length) ∧
    (call = .error (.noOverload receiver.typeName name count) ↔
      overloads ≠ [] ∧ ∀ m ∈ overloads, m.params.length < count) ∧
    ((∀ m ∈ overloads, m.RequiredFirst) →
      (∀ m, IsChoice c.methods name count m →
        (¬ m.Lacks count ↔ ∃ o ∈ overloads, o.required ≤ count ∧ count ≤ o.params.length)) ∧
      ((∃ o ∈ overloads, o.required ≤ count ∧ count ≤ o.params.length) →
        ∃ m, IsChoice c.methods name count m ∧ call = c.run m receiver args ∧
          ∀ of position, m.bind args ≠ .error (.missingArgument of position))) := by
  intro overloads count call
  refine ⟨fun host token nodes b b' => evalMember_call, fun m => ?_, fun m => callMethod_of_isChoice,
    exists_isChoice_iff.trans exists_takes_iff, callMethod_eq_noOverload_iff,
    fun hfirst => ⟨fun m => not_lacks_iff hfirst, ?_⟩⟩
  · rw [find?_mergeSort, ← forCount?_eq_some_iff]
    rfl
  · rintro ⟨o, ho, hle, hfits⟩
    obtain ⟨m, hm⟩ := exists_isChoice_iff.mpr (exists_takes_iff.mpr ⟨o, ho, hfits⟩)
    refine ⟨m, hm, callMethod_of_isChoice hm, fun of position hmissing => ?_⟩
    exact (not_lacks_iff hfirst hm).mpr ⟨o, ho, hle, hfits⟩ (Signature.lacks_of_bind_error hmissing)

/-- One argument is enough for the method that is declared second, and the other value is filled in. -/
theorem callMethod_by_count_filled :
    let needed : Param := { kind := .text }
    let filled : Param := { kind := .text, default? := some (.text "!") }
    let method (params : List Param) : Method Unit :=
      ⟨⟨"Greet", params⟩, fun _ args => .ok (.list args)⟩
    let c : Class := { name := "Person", Data := Unit, view := fun _ => some (), methods := [
      method [needed, needed, needed], method [needed, filled]] }
    let receiver : Value := .object ⟨0, .declared 0 "Person", "Ann"⟩
    ¬ (method [needed, filled]).Lacks 1 ∧
      (Link.call ⟨.identifier, "Greet", 4⟩ [.terminal ⟨.textLiteral, "Hi", 10⟩ (.text "Hi")]).evalMember
        { classOf := fun _ => c, call := fun _ _ => .ok .null } receiver [] = .ok (.list [.text "Hi", .text "!"]) [] := by
  intro needed filled method c receiver
  have hchoice : IsChoice c.methods "Greet" 1 (method [needed, filled]) :=
    ⟨[method [needed, needed, needed]], [], rfl, ⟨rfl, by decide⟩, by decide, nofun⟩
  have hfirst : ∀ m ∈ c.overloads "Greet", m.RequiredFirst := by
    simp [c, overloads, method, Signature.RequiredFirst, needed, filled, Param.isOptional]
  obtain ⟨heval, -, hruns, -, -, hlacks⟩ := callMethod_by_count c receiver "Greet" [.text "Hi"]
  constructor
  · refine ((hlacks hfirst).1 _ hchoice).mpr ⟨_, mem_overloads.mpr ⟨hchoice.mem, rfl⟩, ?_⟩
    decide
  · rw [heval _ _ _ _ [] rfl rfl rfl, hruns _ hchoice]
    rfl

/-- **Among methods that require as many arguments as are given the order of declaration decides.** Let
one method of the name have exactly so many parameters and need them all, and let none that takes the
arguments require fewer. Then the method that is run requires exactly so many. It has no more parameters
than that exactly if the first of those that require so many has not; and it has no more, in whatever
order the methods are declared, exactly if none of those that require so many has. -/
theorem exact_runs_iff (c : Class) (name : String) (count : Nat)
    (hexact : ∃ e ∈ c.methods, e.IsExact name count)
    (hfewest : NoneRequiresFewer c.methods name count) :
    (∃ m, IsChoice c.methods name count m ∧ m.required = count ∧
      (∀ receiver args, args.length = count →
        c.callMethod receiver name args = c.run m receiver args) ∧
      (m.params.length = count ↔ ∃ before e after, c.methods = before ++ e :: after ∧
        e.IsExact name count ∧ ∀ o ∈ before, o.name = name → o.required ≠ count)) ∧
    ((∀ ms, ms.Perm c.methods → ∃ m, IsChoice ms name count m ∧ m.params.length = count) ↔
      ∀ m ∈ c.methods, m.name = name → m.required = count → m.params.length = count) := by
  obtain ⟨e, he, hexact⟩ := hexact
  obtain ⟨m, hm⟩ := exists_isChoice_iff.mpr ⟨e, he, hexact.takes⟩
  have hrequired := hfewest.required_eq he hexact hm
  refine ⟨⟨m, hm, hrequired, fun receiver args hcount => ?_, hfewest.length_eq_iff hm hrequired⟩,
    hfewest.forall_perm_iff he hexact⟩
  subst hcount
  exact callMethod_of_isChoice hm

/-- Of two methods that require two arguments the longer one is run where it is declared first. -/
theorem exact_runs_iff_declared_later :
    let needed : Param := { kind := .text }
    let filled : Param := { kind := .text, default? := some (.text "arg3") }
    let method (params : List Param) : Method Unit :=
      ⟨⟨"Method", params⟩, fun _ args => .ok (.list args)⟩
    let c : Class := { name := "TestObject", Data := Unit, view := fun _ => some (), methods := [
      method [needed], method [needed, needed, filled], method [needed, needed]] }
    let receiver : Value := .object ⟨0, .declared 0 "TestObject", "TestObject"⟩
    (∃ e ∈ c.methods, e.IsExact "Method" 2) ∧ NoneRequiresFewer c.methods "Method" 2 ∧
      c.callMethod receiver "Method" [.text "a", .text "b"] =
        .ok (.list [.text "a", .text "b", .text "arg3"]) ∧
      ¬ ∀ ms, ms.Perm c.methods → ∃ m, IsChoice ms "Method" 2 m ∧ m.params.length = 2 := by
  intro needed filled method c receiver
  have hexact : ∃ e ∈ c.methods, e.IsExact "Method" 2 :=
    ⟨method [needed, needed], by simp [c], rfl, rfl, rfl⟩
  have hfewest : NoneRequiresFewer c.methods "Method" 2 := by decide
  have hchoice : IsChoice c.methods "Method" 2 (method [needed, needed, filled]) :=
    ⟨[method [needed]], [method [needed, needed]], rfl, ⟨rfl, by decide⟩, by decide, by decide⟩
  obtain ⟨⟨m, hm, -, hruns, -⟩, hperm⟩ := exact_runs_iff c "Method" 2 hexact hfewest
  refine ⟨hexact, hfewest, ?_, fun hall => ?_⟩
  · rw [hruns receiver [.text "a", .text "b"] rfl, hm.unique hchoice]
    rfl
  · exact absurd (hperm.mp hall _ hchoice.mem rfl rfl) (by decide)

end Class

end Stencil
