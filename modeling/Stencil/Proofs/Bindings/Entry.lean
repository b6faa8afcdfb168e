import Stencil.Bindings

/-!
# Entries of bindings

Bindings are seen through their entries. Binding a name to a value changes the entry of this name and
no other (`Bindings.set_eq_ok`), and what the new entry is depends on the old one alone, as does
whether there is one (`Bindings.set_cases`). So an entry keeps the type that it is fixed to, and holds
nothing but values of that type and no value (`Bindings.WellTyped.set`).
-/

namespace Stencil

namespace Value

variable {v : Value} {type : String}

/-- Only the null value fixes no type. -/
theorem fixes?_eq_none_iff : v.fixes? = none ↔ v = .null := by
  cases v <;> simp [fixes?, isNull]

/-- Every other value fixes its own type. -/
theorem fixes?_eq_some_iff : v.fixes? = some type ↔ v ≠ .null ∧ v.typeName = type := by
  cases v <;> simp [fixes?, isNull]

end Value

/-- The entry of a name after it is bound to a value, where it has or has not had one. -/
def Entry.after? (old? : Option Entry) (v : Value) : Except (String × String) Entry :=
  match old? with
  | some old => old.rebind v
  | none => .ok ⟨v, v.fixes?⟩

namespace Entry

variable {e : Entry} {old? : Option Entry} {v : Value}

/-- **A new entry holds the value, and is fixed to the type that the old one was fixed to**, or to that
of the value where it was fixed to none. If both are there they are the same. -/
theorem eq_of_after? (h : after? old? v = .ok e) :
    e = ⟨v, (old?.bind (·.type?)).or v.fixes?⟩ ∧
      ∀ fixed, old?.bind (·.type?) = some fixed → v.fixes? = none ∨ v.fixes? = some fixed := by
  cases old? with
  | none =>
    cases h
    exact ⟨rfl, nofun⟩
  | some old =>
    simp only [after?, rebind] at h
    rw [Option.bind_some]
    cases htype : old.type? with
    | none =>
      rw [htype] at h
      cases h
      exact ⟨rfl, nofun⟩
    | some fixed =>
      rw [htype] at h
      cases hfixes : v.fixes? with
      | none =>
        rw [hfixes] at h
        cases h
        exact ⟨rfl, fun _ _ => .inl rfl⟩
      | some offered =>
        rw [hfixes] at h
        simp only at h
        by_cases hsame : fixed = offered
        · subst hsame
          rw [if_pos rfl] at h
          cases h
          exact ⟨rfl, fun _ hfixed => .inr hfixed⟩
        · rw [if_neg hsame] at h
          cases h

/-- An entry takes no value, and values of the type that it is fixed to. -/
theorem rebind_of_fits (h : ∀ fixed, e.type? = some fixed → v.fixes? = none ∨ v.fixes? = some fixed) :
    e.rebind v = .ok ⟨v, e.type?.or v.fixes?⟩ := by
  unfold rebind
  cases htype : e.type? with
  | none => rfl
  | some fixed =>
    rcases h fixed htype with hnone | hsome
    · rw [hnone, Option.some_or]
    · rw [hsome, Option.some_or]
      exact if_pos rfl

/-- It takes no others. -/
theorem rebind_of_ne {fixed offered : String} (hfixed : e.type? = some fixed)
    (hoffers : v.fixes? = some offered) (hne : fixed ≠ offered) :
    e.rebind v = .error (fixed, offered) := by
  rw [rebind, hfixed, hoffers]
  exact if_neg hne

/-- An entry holds a value of the type that it is fixed to, or no value. -/
def WellTyped (e : Entry) : Prop :=
  (e.value = .null ∨ e.type? = some e.value.typeName) ∧ (e.type? = none → e.value = .null)

/-- An entry that was set is well typed, whatever it was before. -/
private theorem wellTyped_of_after? (h : after? old? v = .ok e) : e.WellTyped := by
  obtain ⟨rfl, hsame⟩ := eq_of_after? h
  have hfixes : v = .null ∨ v.fixes? = some v.typeName := by
    cases v with
    | null => exact .inl rfl
    | _ => exact .inr rfl
  have htyped : v = .null ∨ (old?.bind (·.type?)).or v.fixes? = some v.typeName := by
    refine hfixes.imp id fun hoffers => ?_
    cases hfixed : old?.bind (·.type?) with
    | none => rw [Option.none_or, hoffers]
    | some fixed =>
      rcases hsame fixed hfixed with hnone | hsome
      · cases hnone.symm.trans hoffers
      · rw [Option.some_or, ← hsome, hoffers]
  refine ⟨htyped, fun hnone => htyped.resolve_right fun hsome => ?_⟩
  cases hnone.symm.trans hsome

end Entry

namespace Bindings

variable {b b' : Bindings} {name other : String} {v : Value}

/-- The first entry for a name is its entry. -/
theorem entry?_cons {e : Entry} :
    entry? ((other, e) :: b) name = if name = other then some e else b.entry? name := by
  unfold entry?
  rw [List.lookup_cons]
  by_cases h : name = other
  · rw [if_pos h, beq_iff_eq.mpr h]
  · rw [if_neg h, beq_eq_false_iff_ne.mpr h]

/-- **Binding a name changes its entry alone**, and only the entry decides how, and whether. -/
theorem set_cases (b : Bindings) (name : String) (v : Value) :
    (∃ b' e, b.set name v = .ok b' ∧ Entry.after? (b.entry? name) v = .ok e ∧
      entry? b' name = some e ∧ ∀ other, other ≠ name → entry? b' other = b.entry? other) ∨
    ∃ types, b.set name v = .error ⟨name, types.1, types.2⟩ ∧
      Entry.after? (b.entry? name) v = .error types := by
  induction b with
  | nil =>
    refine .inl ⟨_, _, rfl, rfl, ?_, fun other hother => ?_⟩
    · rw [entry?_cons, if_pos rfl]
    · rw [entry?_cons, if_neg hother]
  | cons entry b ih =>
    obtain ⟨n, e⟩ := entry
    by_cases hn : n = name
    · subst hn
      rw [set, if_pos rfl, entry?_cons, if_pos rfl]
      cases hrebind : e.rebind v with
      | ok e' =>
        refine .inl ⟨_, e', rfl, hrebind, ?_, fun other hother => ?_⟩
        · rw [entry?_cons, if_pos rfl]
        · rw [entry?_cons, entry?_cons, if_neg hother, if_neg hother]
      | error types => exact .inr ⟨types, rfl, hrebind⟩
    · have hname : name ≠ n := fun h => hn h.symm
      rw [set, if_neg hn, entry?_cons, if_neg hname]
      rcases ih with ⟨b', e', hset, hafter, hentry, hothers⟩ | ⟨types, hset, hafter⟩
      · refine .inl ⟨(n, e) :: b', e', by rw [hset]; rfl, hafter, ?_, fun other hother => ?_⟩
        · rw [entry?_cons, if_neg hname, hentry]
        · rw [entry?_cons, entry?_cons, hothers other hother]
      · exact .inr ⟨types, by rw [hset]; rfl, hafter⟩

/-- Bindings without the name do not count. -/
theorem set_append_of_not_has (h : b.has name = false) (more : Bindings) (v : Value) :
    set (b ++ more) name v = (more.set name v).map (b ++ ·) := by
  rw [has, Option.isSome_eq_false_iff, Option.isNone_iff_eq_none] at h
  induction b with
  | nil =>
    show more.set name v = _
    cases more.set name v <;> rfl
  | cons entry b ih =>
    obtain ⟨n, e⟩ := entry
    rw [entry?_cons] at h
    split at h
    · cases h
    · next hname =>
      rw [List.cons_append, set, if_neg (Ne.symm hname), ih h]
      cases more.set name v <;> rfl

/-- A name that is not bound is added at the end. -/
theorem set_of_not_has (h : b.has name = false) (v : Value) :
    b.set name v = .ok (b ++ [(name, ⟨v, v.fixes?⟩)]) := by
  have hset := set_append_of_not_has h [] v
  rwa [List.append_nil] at hset

/-- All that a binding that succeeds does: the name has the entry that follows, and the others keep
theirs. -/
private theorem set_eq_ok (h : b.set name v = .ok b') :
    ∃ e, Entry.after? (b.entry? name) v = .ok e ∧ entry? b' name = some e ∧
      ∀ other, other ≠ name → entry? b' other = b.entry? other := by
  rcases set_cases b name v with ⟨b'', e, hset, hafter, hentry, hothers⟩ | ⟨_, hset, -⟩
  · cases hset.symm.trans h
    exact ⟨e, hafter, hentry, hothers⟩
  · cases hset.symm.trans h

/-- A name is bound where it has an entry. -/
theorem has_iff : b.has name = true ↔ ∃ e, b.entry? name = some e := Option.isSome_iff_exists

/-- A name is free where it has none. -/
theorem not_has_iff : b.has name = false ↔ b.entry? name = none := by
  rw [has, Option.isSome_eq_false_iff, Option.isNone_iff_eq_none]

/-- A name is bound where it has a value. -/
theorem has_iff_get? : b.has name = (b.get? name).isSome := by
  rw [has, get?, Option.isSome_map]

/-- A value depends on the entry only. -/
theorem get?_of_same_entry (h : b.entry? name = entry? b' name) : b.get? name = b'.get? name := by
  rw [get?, get?, h]

/-- What is bound is bound. -/
theorem has_of_set (h : b.set name v = .ok b') : b'.has name = true := by
  obtain ⟨e, -, hentry, -⟩ := set_eq_ok h
  exact has_iff.mpr ⟨e, hentry⟩

/-- A name that was set has the value it was set to. -/
theorem get?_of_set (h : b.set name v = .ok b') : b'.get? name = some v := by
  obtain ⟨e, hafter, hentry, -⟩ := set_eq_ok h
  obtain ⟨rfl, -⟩ := Entry.eq_of_after? hafter
  rw [get?, hentry]
  rfl

/-- What is bound to a value is fixed to its type. -/
theorem type?_of_set (h : b.set name v = .ok b') (hv : v ≠ .null) :
    b'.type? name = some v.typeName := by
  obtain ⟨e, hafter, hentry, -⟩ := set_eq_ok h
  have htyped := (Entry.wellTyped_of_after? hafter).1
  obtain ⟨rfl, -⟩ := Entry.eq_of_after? hafter
  rw [type?, hentry]
  exact htyped.resolve_left hv

/-- Setting a name leaves the others alone. -/
theorem entry?_of_set (h : b.set name v = .ok b') (hother : other ≠ name) :
    entry? b' other = b.entry? other := by
  obtain ⟨-, -, -, hothers⟩ := set_eq_ok h
  exact hothers other hother

/-- **What is bound stays bound, and a type that is fixed stays fixed.** -/
theorem keeps_of_set (h : b.set name v = .ok b') (other : String) :
    (b.has other = true → b'.has other = true) ∧
      ∀ type, b.type? other = some type → b'.type? other = some type := by
  by_cases hother : other = name
  · subst hother
    obtain ⟨e, hafter, hentry, -⟩ := set_eq_ok h
    refine ⟨fun _ => has_of_set h, fun type htype => ?_⟩
    obtain ⟨rfl, -⟩ := Entry.eq_of_after? hafter
    rw [type?, hentry, Option.bind_some, ← type?, htype, Option.some_or]
  · rw [has, has, type?, type?, entry?_of_set h hother]
    exact ⟨id, fun _ => id⟩

/-- Every entry holds a value of the type that it is fixed to, or no value. -/
def WellTyped (b : Bindings) : Prop := ∀ name e, b.entry? name = some e → e.WellTyped

/-- The empty table is well typed. -/
theorem wellTyped_nil : WellTyped [] := fun _ _ h => by cases h

/-- A table stays well typed as its names are set. -/
theorem WellTyped.set (hb : b.WellTyped) (h : b.set name v = .ok b') : b'.WellTyped := by
  obtain ⟨e, hafter, hentry, hothers⟩ := set_eq_ok h
  intro other e' hother
  by_cases hname : other = name
  · subst hname
    cases hentry.symm.trans hother
    exact Entry.wellTyped_of_after? hafter
  · exact hb other e' ((hothers other hname).symm.trans hother)

end Bindings

end Stencil
