import Stencil.Evaluation.Member

/-!
# Equality

Whether two values can be compared depends on their kinds alone, and it makes no difference which of them
comes first. Inside lists, values that cannot be compared are just unequal. Where no reals are in play,
at any depth, values are found equal exactly if they are the same (`Value.equality_sound`): it is reals
that are equal to integers, and that need not be equal to themselves.
-/

namespace Stencil

namespace Value

/-- Is this an integer or a real? -/
def isNumber : Value → Bool
  | integer _ | real _ => true
  | _ => false

mutual
/-- Is there no real in the value, at any depth? -/
def realFree : Value → Bool
  | real _ => false
  | list items => allRealFree items
  | _ => true
/-- Is there no real in any of the values? -/
def allRealFree : List Value → Bool
  | [] => true
  | v :: vs => v.realFree && allRealFree vs
end

variable {a b c v : Value} {items : List Value}

/-! ## Reals -/

open Float.Model in
/-- The order of two reals, taken apart into sign, digits and power, is the other way round if they change
places. -/
private theorem swap_compare (x y : UnpackedFloat) : (x.compare y).map Ordering.swap = y.compare x := by
  rcases x with s | _ | s | ⟨s, m, e, hm⟩ <;> rcases y with t | _ | t | ⟨t, n, f, hn⟩
  -- the powers decide between two finite reals of one sign, and then the digits
  case finite.finite =>
    have he : (compare e f).swap = compare f e := Std.OrientedOrd.eq_swap.symm
    have hm : (compare m n).swap = compare n m := Std.OrientedOrd.eq_swap.symm
    have horder : ((compare e f).then (compare m n)).swap = (compare f e).then (compare n m) := by
      rw [Ordering.swap_then, he, hm]
    cases s <;> cases t
    · exact congrArg (fun order => some order.swap) horder
    · rfl
    · rfl
    · exact congrArg some horder
  all_goals first
    | rfl
    | cases s <;> first | rfl | cases t <;> rfl

/-- A real need not be equal to itself, but which of two reals comes first makes no difference. -/
private theorem beq_comm_real (x y : Float) : (x == y) = (y == x) := by
  show (x.toModel.unpack.compare y.toModel.unpack == some .eq) =
    (y.toModel.unpack.compare x.toModel.unpack == some .eq)
  rw [← swap_compare x.toModel.unpack]
  cases x.toModel.unpack.compare y.toModel.unpack with
  | none => rfl
  | some order => cases order <;> rfl

/-! ## What can be compared -/

/-- **Values cannot be compared exactly if neither is no value, they are not both numbers, and their
kinds differ.** -/
theorem eq?_eq_error_iff {f : Fault} : eq? a b = .error f ↔
    (a ≠ .null ∧ b ≠ .null ∧ ¬ (a.isNumber = true ∧ b.isNumber = true) ∧ a.kind ≠ b.kind) ∧
      misfit "=" a b = f := by
  cases a <;> cases b <;> simp [eq?, isNull, isNumber, kind]

/-- One value equals another where their comparison says yes. -/
private theorem equals_iff : a.equals b = true ↔ eq? a b = .ok true := by
  unfold equals
  cases eq? a b <;> simp

private theorem allEqual_cons (a b : Value) (as bs : List Value) :
    allEqual (a :: as) (b :: bs) = (a.equals b && allEqual as bs) := by
  rw [allEqual]
  rfl

/-- Values that cannot be compared are unequal. -/
theorem equals_eq (a b : Value) : a.equals b = (eq? a b).toOption.getD false := by
  unfold equals
  cases eq? a b <;> rfl

mutual
/-- **It makes no difference which of two values comes first.** -/
theorem toOption_eq?_comm (a b : Value) : (eq? a b).toOption = (eq? b a).toOption := by
  cases a with
  | list as =>
    cases b with
    | list bs => rw [eq?, eq?, allEqual_comm as bs]
    | _ => simp [eq?, isNull, Except.toOption]
  | _ => cases b <;> simp [eq?, isNull, Except.toOption, beq_comm_real, Bool.beq_comm]
/-- Item by item, too. -/
theorem allEqual_comm (as bs : List Value) : allEqual as bs = allEqual bs as := by
  match as, bs with
  | [], [] => rfl
  | [], _ :: _ | _ :: _, [] => simp [allEqual]
  | a :: as, b :: bs =>
    rw [allEqual_cons, allEqual_cons, equals_eq, equals_eq, toOption_eq?_comm a b, allEqual_comm as bs]
end

/-! ## What is the same -/

mutual
/-- Where there is no real, a value is the same as itself and no other. -/
theorem same_iff_eq (a b : Value) (h : a.realFree = true) : a.same b = true ↔ a = b := by
  cases a with
  | real x => cases h
  | list as =>
    cases b with
    | list bs => rw [same, allSame_iff_eq as bs h, list.injEq]
    | _ => simp [same]
  | _ => cases b <;> simp [same]
/-- Item by item, too. -/
theorem allSame_iff_eq (as bs : List Value) (h : allRealFree as = true) :
    allSame as bs = true ↔ as = bs := by
  match as, bs with
  | [], [] => simp [allSame]
  | [], _ :: _ | _ :: _, [] => simp [allSame]
  | a :: as, b :: bs =>
    rw [allRealFree, Bool.and_eq_true] at h
    rw [allSame, Bool.and_eq_true, same_iff_eq a b h.1, allSame_iff_eq as bs h.2, List.cons.injEq]
end

mutual
/-- **Where there are no reals, values are found equal exactly if they are the same.** -/
theorem equals_eq_same (a b : Value) (ha : a.realFree = true) (hb : b.realFree = true) :
    a.equals b = a.same b := by
  cases a with
  | real x => cases ha
  | list as =>
    cases b with
    | real x => cases hb
    | list bs => rw [equals_eq, eq?, same, ← allEqual_eq_allSame as bs ha hb]; rfl
    | _ => simp [equals_eq, eq?, same, isNull, Except.toOption]
  | _ =>
    cases b with
    | real x => cases hb
    | _ => simp [equals_eq, eq?, same, isNull, Except.toOption]
/-- Item by item, too. -/
theorem allEqual_eq_allSame (as bs : List Value) (has : allRealFree as = true)
    (hbs : allRealFree bs = true) : allEqual as bs = allSame as bs := by
  match as, bs with
  | [], [] => simp [allEqual, allSame]
  | [], _ :: _ | _ :: _, [] => simp [allEqual, allSame]
  | a :: as, b :: bs =>
    rw [allRealFree, Bool.and_eq_true] at has hbs
    rw [allEqual_cons, allSame, equals_eq_same a b has.1 hbs.1, allEqual_eq_allSame as bs has.2 hbs.2]
end

/-- The items of a list without reals are without reals. -/
private theorem realFree_of_mem (h : allRealFree items = true) (hv : v ∈ items) :
    v.realFree = true := by
  induction items with
  | nil => cases hv
  | cons w items ih =>
    rw [allRealFree, Bool.and_eq_true] at h
    rcases List.mem_cons.mp hv with rfl | hv
    · exact h.1
    · exact ih h.2 hv

private theorem eq?_eq_true_iff (ha : a.realFree = true) (hb : b.realFree = true) :
    eq? a b = .ok true ↔ a = b := by
  rw [← equals_iff, equals_eq_same a b ha hb, same_iff_eq a b ha]

/-! ## Members of lists -/

/-- `Contains` asks the items one after the other whether they equal the argument. -/
private theorem callMethod_contains (items : List Value) (v : Value) :
    Class.list.callMethod (.list items) "Contains" [v] =
      .ok (.boolean (items.any fun item => item.equals v)) := rfl

private theorem callMethod_equals (items : List Value) (v : Value) :
    Class.list.callMethod (.list items) "Equals" [v] = .ok (.boolean ((list items).equals v)) := rfl

/-- **Equality is sound.** Two values cannot be compared exactly if neither is no value, they are not
both numbers, and their kinds differ; whichever comes first, both ways fail or answer the same. Where
there are no reals, at any depth, values are found equal exactly if they are the same. So equality is
then reflexive, symmetric and transitive; a list contains what is the same as one of its items, and
equals what is the same as itself. -/
theorem equality_sound :
    (∀ a b, (∃ f, eq? a b = .error f) ↔
      a ≠ .null ∧ b ≠ .null ∧ ¬ (a.isNumber = true ∧ b.isNumber = true) ∧ a.kind ≠ b.kind) ∧
    (∀ a b, (∃ f g, eq? a b = .error f ∧ eq? b a = .error g) ∨
      ∃ equal, eq? a b = .ok equal ∧ eq? b a = .ok equal) ∧
    (∀ a b, a.realFree = true → b.realFree = true → (eq? a b = .ok true ↔ a.same b = true)) ∧
    Equivalence (fun a b : { v : Value // v.realFree = true } => eq? a.1 b.1 = .ok true) ∧
    ∀ items v, (list items).realFree = true → v.realFree = true →
      (∃ found, Class.list.callMethod (.list items) "Contains" [v] = .ok (.boolean found) ∧
        (found = true ↔ ∃ item ∈ items, item.same v = true)) ∧
      Class.list.callMethod (.list items) "Equals" [v] = .ok (.boolean ((list items).same v)) := by
  refine ⟨fun a b => ?_, fun a b => ?_, fun a b ha hb => ?_, ⟨?_, ?_, ?_⟩,
    fun items v hitems hv => ⟨?_, ?_⟩⟩
  · simp only [eq?_eq_error_iff, exists_and_left, exists_eq', and_true]
  -- two errors may be about different kinds, so that only whether there is one is compared
  · have hcomm := toOption_eq?_comm a b
    cases hab : eq? a b <;> cases hba : eq? b a <;> rw [hab, hba] at hcomm
    · exact .inl ⟨_, _, rfl, rfl⟩
    · cases hcomm
    · cases hcomm
    · cases hcomm
      exact .inr ⟨_, rfl, rfl⟩
  · rw [← equals_iff, equals_eq_same a b ha hb]
  · exact fun a => (eq?_eq_true_iff a.2 a.2).mpr rfl
  · exact fun {a b} h => (eq?_eq_true_iff b.2 a.2).mpr ((eq?_eq_true_iff a.2 b.2).mp h).symm
  · exact fun {a b c} hab hbc => (eq?_eq_true_iff a.2 c.2).mpr
      (((eq?_eq_true_iff a.2 b.2).mp hab).trans ((eq?_eq_true_iff b.2 c.2).mp hbc))
  · refine ⟨_, callMethod_contains items v, ?_⟩
    rw [List.any_eq_true]
    refine exists_congr fun item => and_congr_right fun hitem => ?_
    rw [equals_eq_same item v (realFree_of_mem hitems hitem) hv]
  · rw [callMethod_equals, equals_eq_same (list items) v hitems hv]

/-- An item that is a list is found by what it holds; what is of another kind is not. -/
theorem equality_sound_nested :
    let items : List Value := [.text "1", .list [.integer 1, .null]]
    Class.list.callMethod (.list items) "Contains" [.list [.integer 1, .null]] = .ok (.boolean true) ∧
      Class.list.callMethod (.list items) "Contains" [.integer 1] = .ok (.boolean false) := by
  intro items
  obtain ⟨-, -, -, -, hlist⟩ := equality_sound
  constructor
  · obtain ⟨⟨found, hcall, hfound⟩, -⟩ := hlist items (.list [.integer 1, .null]) rfl rfl
    rw [hcall, hfound.mpr ⟨_, List.mem_cons_of_mem _ List.mem_cons_self, rfl⟩]
  · obtain ⟨⟨found, hcall, hfound⟩, -⟩ := hlist items (.integer 1) rfl rfl
    have hnone : ¬ ∃ item ∈ items, item.same (.integer 1) = true := by simp [items, same]
    rw [hcall, Bool.eq_false_iff.mpr (mt hfound.mp hnone)]

end Value

end Stencil
