import Stencil.Host.Signature

/-!
# Arguments are bound position by position

What a parameter comes to depends on what stands at its own position: the argument, or the value for
when there is none. So parameters and arguments are bound exactly if each position has a value that the
parameter admits (`Signature.bind_exact`). What has been bound is admitted as it is, and bound again it
stays the same.
-/

namespace Stencil

/-! ## One parameter -/

namespace Param

variable {p : Param} {v : Value}

/-- `w` is bound for `v`: a real for an integer where a real is declared, and else the value itself. -/
def Becomes (p : Param) (v w : Value) : Prop :=
  (∃ n, p.kind = .real ∧ v = .integer n ∧ w = .real n.toFloat) ∨
    ¬ (p.kind = .real ∧ v.kind = .integer) ∧ w = v

/-- What a parameter makes of a value is what the value becomes for it. -/
private theorem becomes_promote (p : Param) (v : Value) : p.Becomes v (p.promote v) := by
  obtain ⟨kind, default?⟩ := p
  cases kind with
  | real =>
    cases v with
    | integer n => exact .inl ⟨n, rfl, rfl, rfl⟩
    | _ => exact .inr ⟨nofun, rfl⟩
  | _ => exact .inr ⟨nofun, rfl⟩

/-- Where a real is declared no integer is bound. -/
theorem kind_promote_ne (h : p.kind = .real) : (p.promote v).kind ≠ .integer := by
  rcases p.becomes_promote v with ⟨n, -, -, hw⟩ | ⟨hv, hw⟩
  · rw [hw]
    exact nofun
  · rw [hw]
    exact fun hinteger => hv ⟨h, hinteger⟩

private theorem promote_promote : p.promote (p.promote v) = p.promote v := by
  rcases p.becomes_promote (p.promote v) with ⟨n, hreal, hinteger, -⟩ | ⟨-, hw⟩
  · exact absurd (congrArg Value.kind hinteger) (kind_promote_ne hreal)
  · exact hw

/-- What is bound is admitted. -/
theorem admits_promote (h : p.kind.admits v.kind = true) :
    p.kind.admits (p.promote v).kind = true := by
  rcases p.becomes_promote v with ⟨n, hreal, -, hw⟩ | ⟨-, hw⟩
  · rw [hw, hreal]
    rfl
  · rwa [hw]

end Param

namespace Signature

variable {s : Signature} {name : String} {position count : Nat} {p : Param} {params : List Param}
  {arg? : Option Value} {args bound : List Value} {w : Value} {f : Fault}

/-- One argument is the one supplied or else the default, and is promoted where its kind is admitted. -/
theorem bindOne_eq : bindOne name position p arg? =
    match arg?.or p.default? with
    | none => .error (.missingArgument name position)
    | some v =>
      if p.kind.admits v.kind then .ok (p.promote v)
      else .error (.argumentKind name position p.kind v.typeName) := by
  cases arg? <;> rfl

private theorem bindOne_eq_ok_iff : bindOne name position p arg? = .ok w ↔
    ∃ v, arg?.or p.default? = some v ∧ p.kind.admits v.kind = true ∧ w = p.promote v := by
  rw [bindOne_eq]
  cases arg?.or p.default? with
  | none => simp only [reduceCtorEq, false_and, exists_false]
  | some v =>
    simp only [Option.some.injEq, exists_eq_left']
    split
    · next hadmits => rw [Except.ok.injEq, eq_comm, and_iff_right hadmits]
    · next hadmits => simp only [reduceCtorEq, hadmits, Bool.false_eq_true, false_and]

/-! ## All parameters -/

private theorem bindFrom_cons_eq_ok_iff : bindFrom name position (p :: params) args = .ok bound ↔
    ∃ w ws, bindOne name position p args.head? = .ok w ∧
      bindFrom name (position + 1) params args.tail = .ok ws ∧ bound = w :: ws := by
  rw [bindFrom]
  cases bindOne name position p args.head? with
  | error f =>
    show Except.error f = .ok bound ↔ _
    simp only [reduceCtorEq, false_and, exists_false]
  | ok w =>
    cases bindFrom name (position + 1) params args.tail with
    | error f =>
      show Except.error f = .ok bound ↔ _
      simp only [reduceCtorEq, false_and, and_false, exists_false]
    | ok ws =>
      show Except.ok (w :: ws) = .ok bound ↔ _
      simp only [Except.ok.injEq, exists_and_left, exists_eq_left', eq_comm]

/-- **Each parameter is bound to what its own position has.** -/
theorem bindFrom_eq_ok_iff : bindFrom name position params args = .ok bound ↔
    bound.length = params.length ∧ ∀ (i : Nat) (p : Param), params[i]? = some p →
      ∃ v, args[i]?.or p.default? = some v ∧ p.kind.admits v.kind = true ∧
        bound[i]? = some (p.promote v) := by
  induction params generalizing position args bound with
  | nil =>
    rw [bindFrom, Except.ok.injEq, List.length_nil, List.length_eq_zero_iff, eq_comm]
    exact ⟨fun h => ⟨h, nofun⟩, And.left⟩
  | cons p params ih =>
    rw [bindFrom_cons_eq_ok_iff]
    constructor
    · rintro ⟨w, ws, hw, hws, rfl⟩
      obtain ⟨v, hv, hadmits, rfl⟩ := bindOne_eq_ok_iff.mp hw
      obtain ⟨hlength, hrest⟩ := ih.mp hws
      refine ⟨congrArg (· + 1) hlength, fun i q hq => ?_⟩
      cases i with
      | zero =>
        cases hq
        exact ⟨v, List.head?_eq_getElem? ▸ hv, hadmits, rfl⟩
      | succ i =>
        rw [← List.getElem?_tail]
        exact hrest i q hq
    · rintro ⟨hlength, hall⟩
      obtain ⟨v, hv, hadmits, hhead⟩ := hall 0 p rfl
      obtain ⟨w, ws, rfl⟩ := List.exists_cons_of_length_eq_add_one hlength
      cases hhead
      rw [← List.head?_eq_getElem?] at hv
      have hrest : bindFrom name (position + 1) params args.tail = .ok ws := by
        refine ih.mpr ⟨Nat.succ.inj hlength, fun i q hq => ?_⟩
        rw [List.getElem?_tail]
        exact hall (i + 1) q hq
      exact ⟨_, ws, bindOne_eq_ok_iff.mpr ⟨v, hv, hadmits, rfl⟩, hrest, rfl⟩

/-- Binding fails where a parameter cannot be bound. -/
theorem exists_of_bindFrom_error (h : bindFrom name position params args = .error f) :
    ∃ (i : Nat) (p : Param), params[i]? = some p ∧
      bindOne name (position + i) p args[i]? = .error f := by
  induction params generalizing position args with
  | nil => cases h
  | cons p params ih =>
    rw [bindFrom] at h
    cases hw : bindOne name position p args.head? with
    | error g =>
      rw [hw] at h
      cases h
      exact ⟨0, p, rfl, List.head?_eq_getElem? ▸ hw⟩
    | ok w =>
      rw [hw] at h
      cases hws : bindFrom name (position + 1) params args.tail with
      | error g =>
        rw [hws] at h
        cases h
        obtain ⟨i, q, hq, hf⟩ := ih hws
        refine ⟨i + 1, q, hq, ?_⟩
        rw [← List.getElem?_tail, Nat.add_comm i, ← Nat.add_assoc]
        exact hf
      | ok ws =>
        rw [hws] at h
        cases h

/-- All are bound where each parameter has a value that it admits. -/
private theorem exists_bindFrom_iff : (∃ bound, bindFrom name position params args = .ok bound) ↔
    ∀ (i : Nat) (p : Param), params[i]? = some p →
      ∃ v, args[i]?.or p.default? = some v ∧ p.kind.admits v.kind = true := by
  constructor
  · rintro ⟨bound, hbound⟩ i p hp
    obtain ⟨v, hv, hadmits, -⟩ := (bindFrom_eq_ok_iff.mp hbound).2 i p hp
    exact ⟨v, hv, hadmits⟩
  · intro hall
    cases hbound : bindFrom name position params args with
    | ok bound => exact ⟨bound, rfl⟩
    | error f =>
      obtain ⟨i, p, hp, hf⟩ := exists_of_bindFrom_error hbound
      obtain ⟨v, hv, hadmits⟩ := hall i p hp
      cases hf.symm.trans (bindOne_eq_ok_iff.mpr ⟨v, hv, hadmits, rfl⟩)

/-- Arguments are bound where there are no more of them than parameters and each of these is bound. -/
theorem bind_eq_ok_iff : s.bind args = .ok bound ↔
    args.length ≤ s.params.length ∧ bindFrom s.name 1 s.params args = .ok bound := by
  unfold bind
  split
  · next hlt => simp only [reduceCtorEq, Nat.not_le.mpr hlt, false_and]
  · next hle => rw [and_iff_right (Nat.not_lt.mp hle)]

/-- What has been bound is bound to itself. -/
theorem bind_of_bind (h : s.bind args = .ok bound) : s.bind bound = .ok bound := by
  obtain ⟨hlength, hall⟩ := bindFrom_eq_ok_iff.mp (bind_eq_ok_iff.mp h).2
  refine bind_eq_ok_iff.mpr ⟨Nat.le_of_eq hlength, bindFrom_eq_ok_iff.mpr ⟨hlength, fun i p hp => ?_⟩⟩
  obtain ⟨v, -, hadmits, hbound⟩ := hall i p hp
  refine ⟨p.promote v, ?_, Param.admits_promote hadmits, ?_⟩
  · rw [hbound, Option.some_or]
  · rw [hbound, Param.promote_promote]

/-- **Binding is exact and idempotent.** It succeeds exactly if there are no more arguments than
parameters, every parameter without an argument has a value for that, and the values are of kinds that
are admitted. There is then one value for each parameter, which is what its position has or the real for
an integer, is admitted and is no integer where a real is declared; and these values are bound to
themselves. -/
theorem bind_exact (s : Signature) (args : List Value) :
    ((∃ bound, s.bind args = .ok bound) ↔
      args.length ≤ s.params.length ∧
      (∀ (i : Nat) (p : Param), s.params[i]? = some p → args.length ≤ i → ∃ v, p.default? = some v) ∧
      ∀ (i : Nat) (p : Param) v, s.params[i]? = some p → args[i]?.or p.default? = some v →
        p.kind.admits v.kind = true) ∧
    ∀ bound, s.bind args = .ok bound →
      bound.length = s.params.length ∧
      (∀ (i : Nat) (p : Param), s.params[i]? = some p → ∃ v w,
        args[i]?.or p.default? = some v ∧ bound[i]? = some w ∧ p.Becomes v w ∧
          (p.kind = .real → w.kind ≠ .integer) ∧ p.kind.admits w.kind = true) ∧
      s.bind bound = .ok bound := by
  refine ⟨?_, fun bound hbound => ?_⟩
  · simp only [bind_eq_ok_iff, exists_and_left, exists_bindFrom_iff]
    refine and_congr_right fun _ => ⟨fun hall => ⟨?_, ?_⟩, ?_⟩
    · intro i p hp hi
      obtain ⟨v, hv, -⟩ := hall i p hp
      rw [List.getElem?_eq_none hi, Option.none_or] at hv
      exact ⟨v, hv⟩
    · intro i p v hp hv
      obtain ⟨v', hv', hadmits⟩ := hall i p hp
      cases hv.symm.trans hv'
      exact hadmits
    · rintro ⟨hdefaults, hadmits⟩ i p hp
      -- an argument at this position, or else the default
      obtain ⟨v, hv⟩ : ∃ v, args[i]?.or p.default? = some v := by
        by_cases hi : i < args.length
        · exact ⟨args[i], by rw [List.getElem?_eq_getElem hi, Option.some_or]⟩
        · obtain ⟨v, hv⟩ := hdefaults i p hp (Nat.not_lt.mp hi)
          exact ⟨v, by rw [List.getElem?_eq_none (Nat.not_lt.mp hi), Option.none_or, hv]⟩
      exact ⟨v, hv, hadmits i p v hp hv⟩
  · obtain ⟨hlength, hall⟩ := bindFrom_eq_ok_iff.mp (bind_eq_ok_iff.mp hbound).2
    refine ⟨hlength, fun i p hp => ?_, bind_of_bind hbound⟩
    obtain ⟨v, hv, hadmits, hw⟩ := hall i p hp
    exact ⟨v, p.promote v, hv, hw, p.becomes_promote v, Param.kind_promote_ne,
      Param.admits_promote hadmits⟩

/-- An integer that is given and one that is not are both made reals. -/
theorem bind_exact_scale :
    let s : Signature :=
      ⟨"Scale", [{ kind := .real }, { kind := .real, default? := some (.integer 1) }]⟩
    let bound : List Value := [.real (Int64.toFloat 2), .real (Int64.toFloat 1)]
    s.bind [.integer 2] = .ok bound ∧ s.bind bound = .ok bound := by
  intro s bound
  have hbound : s.bind [.integer 2] = .ok bound := rfl
  obtain ⟨-, -, hagain⟩ := (bind_exact s [.integer 2]).2 bound hbound
  exact ⟨hbound, hagain⟩

/-! ## Arguments that are missing -/

/-- Some parameter has no value where there are so many arguments. -/
def Lacks (s : Signature) (count : Nat) : Prop :=
  ∃ (i : Nat) (p : Param), count ≤ i ∧ s.params[i]? = some p ∧ p.default? = none

/-- The parameters that need an argument stand in front of those that do not. -/
def RequiredFirst (s : Signature) : Prop :=
  s.params.Pairwise fun p q => p.isOptional = true → q.isOptional = true

/-- A parameter lacks an argument if it is the first one missing, or if one behind it does. -/
private theorem lacks_cons : Lacks ⟨name, p :: params⟩ count ↔
    count = 0 ∧ p.default? = none ∨ Lacks ⟨name, params⟩ (count - 1) := by
  constructor
  · rintro ⟨i, q, hi, hq, hnone⟩
    cases i with
    | zero =>
      cases hq
      exact .inl ⟨Nat.le_zero.mp hi, hnone⟩
    | succ i => exact .inr ⟨i, q, Nat.sub_le_iff_le_add.mpr hi, hq, hnone⟩
  · rintro (⟨rfl, hnone⟩ | ⟨i, q, hi, hq, hnone⟩)
    · exact ⟨0, p, Nat.le_refl 0, rfl, hnone⟩
    · exact ⟨i + 1, q, Nat.sub_le_iff_le_add.mp hi, hq, hnone⟩

/-- **Where the parameters that need an argument stand in front, some are left without one exactly if fewer
are given than are required.** -/
theorem RequiredFirst.lacks_iff (h : s.RequiredFirst) : s.Lacks count ↔ count < s.required := by
  obtain ⟨name, params⟩ := s
  induction params generalizing count with
  | nil =>
    refine iff_of_false ?_ (Nat.not_lt_zero count)
    rintro ⟨_, _, _, hp, _⟩
    cases hp
  | cons p params ih =>
    obtain ⟨hp, hparams⟩ := List.pairwise_cons.mp h
    have hrequired : required ⟨name, p :: params⟩ =
        required ⟨name, params⟩ + if p.isOptional then 0 else 1 := by
      cases hoptional : p.isOptional <;> simp [required, hoptional]
    rw [lacks_cons, ih hparams, hrequired]
    cases hdefault : p.default? with
    | none =>
      simp only [Param.isOptional, hdefault, Option.isSome_none, Bool.false_eq_true, if_false, and_true]
      omega
    | some v =>
      have hoptional : p.isOptional = true := by rw [Param.isOptional, hdefault, Option.isSome_some]
      have hnone : required ⟨name, params⟩ = 0 := List.countP_eq_zero.mpr fun q hq => by
        rw [hp q hq hoptional]
        exact Bool.false_ne_true
      simp only [hoptional, if_true, hnone, reduceCtorEq, and_false, false_or, Nat.add_zero,
        Nat.not_lt_zero]

/-- What is said to be missing is missing. -/
theorem lacks_of_bind_error (h : s.bind args = .error (.missingArgument name position)) :
    s.Lacks args.length := by
  unfold bind at h
  split at h
  · cases h
  · obtain ⟨i, p, hp, hf⟩ := exists_of_bindFrom_error h
    rw [bindOne_eq] at hf
    split at hf
    · next hnone =>
      obtain ⟨harg, hdefault⟩ := Option.or_eq_none_iff.mp hnone
      exact ⟨i, p, List.getElem?_eq_none_iff.mp harg, hp, hdefault⟩
    · split at hf <;> cases hf

end Signature

end Stencil
