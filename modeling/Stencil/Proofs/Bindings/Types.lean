import Stencil.Proofs.Bindings.Session

/-!
# Types of names

A name is fixed to a type by the name of the type. All values that it takes during a session have
that name in common (`Journal.Kept.type?_of_takes`). Whether they are of one kind and of one class as
well depends on how the classes of objects are named: this is so in every session exactly if no two
classes have one name and none is named like a kind (`Session.sorts_of_takes`).
-/

namespace Stencil

/-! ## Names of types -/

/-- The kinds whose values are neither nothing nor objects. -/
def ValueKind.plain : List ValueKind := [.boolean, .integer, .real, .text, .list, .procedure]

/-- Two values are of one sort: of one kind and, if they are objects, of one class. -/
structure Value.OfOneSort (v w : Value) : Prop where
  kind : v.kind = w.kind
  classRef : ∀ o p, v = .object o → w = .object p → o.classRef = p.classRef

/-- Classes that are told apart by their names, from each other and from kinds. -/
structure ClassRef.Apart (classes : ClassRef → Prop) : Prop where
  /-- No two of them have one name. -/
  eq_of_name : ∀ c d, classes c → classes d → c.name = d.name → c = d
  /-- None has the name of a kind. -/
  name_ne : ∀ c, classes c → ∀ kind ∈ ValueKind.plain, c.name ≠ kind.name

namespace Value

variable {v w : Value}

/-- A value is an object, or has its type's name from its kind. -/
theorem typeName_cases (hv : v ≠ .null) :
    (∃ o, v = .object o) ∨ v.kind ∈ ValueKind.plain ∧ v.typeName = v.kind.name := by
  cases v with
  | null => exact absurd rfl hv
  | object o => exact .inl ⟨o, rfl⟩
  | _ => exact .inr ⟨by simp [kind, ValueKind.plain], rfl⟩

/-- Each of these kinds has a value. -/
theorem exists_of_plain {kind : ValueKind} (h : kind ∈ ValueKind.plain) :
    ∃ v : Value, v.kind = kind ∧ v.typeName = kind.name := by
  cases kind with
  | boolean => exact ⟨.boolean true, rfl, rfl⟩
  | integer => exact ⟨.integer 0, rfl, rfl⟩
  | real => exact ⟨.real 0, rfl, rfl⟩
  | text => exact ⟨.text "", rfl, rfl⟩
  | list => exact ⟨.list [], rfl, rfl⟩
  | procedure => exact ⟨.procedure default, rfl, rfl⟩
  | null | object | any => exact absurd h (by decide)

/-- **Where classes are told apart by their names, the name of the type decides the sort.** -/
theorem ofOneSort_of_typeName {classes : ClassRef → Prop} (hapart : ClassRef.Apart classes)
    (hv : v ≠ .null) (hw : w ≠ .null) (hvs : ∀ o, v = .object o → classes o.classRef)
    (hws : ∀ o, w = .object o → classes o.classRef) (h : v.typeName = w.typeName) : v.OfOneSort w := by
  rcases typeName_cases hv with ⟨o, rfl⟩ | ⟨hkind, hname⟩ <;>
    rcases typeName_cases hw with ⟨p, rfl⟩ | ⟨hkind', hname'⟩
  · have hclass := hapart.eq_of_name _ _ (hvs o rfl) (hws p rfl) h
    exact ⟨rfl, fun _ _ ho hp => by cases ho; cases hp; exact hclass⟩
  · exact absurd (h.trans hname') (hapart.name_ne _ (hvs o rfl) _ hkind')
  · exact absurd (h.symm.trans hname) (hapart.name_ne _ (hws p rfl) _ hkind)
  · refine ⟨?_, fun o p ho _ => ?_⟩
    · have hnames := hname.symm.trans (h.trans hname')
      revert hnames
      cases v.kind <;> cases w.kind <;> decide
    · subst ho
      exact absurd hkind (show ValueKind.object ∉ ValueKind.plain by decide)

end Value

/-! ## Values that a name takes -/

namespace Journal

variable {s : Journal} {name : String} {v w : Value}

/-- The values that a name has been bound to. Nothing is not one of them. -/
def Takes (s : Journal) (name : String) (v : Value) : Prop :=
  v ≠ .null ∧ ∃ event ∈ s.events, event.name = name ∧ event.value = v

/-- The objects that names have been bound to are of these classes. -/
def ObjectsAmong (s : Journal) (classes : ClassRef → Prop) : Prop :=
  ∀ event ∈ s.events, ∀ o, event.value = .object o → classes o.classRef

/-- A value that a name takes is of the classes that are around. -/
private theorem ObjectsAmong.of_takes {classes : ClassRef → Prop} (h : s.ObjectsAmong classes)
    (htakes : s.Takes name v) : ∀ o, v = .object o → classes o.classRef := by
  obtain ⟨-, event, hevent, -, rfl⟩ := htakes
  exact h event hevent

/-- **The type that a name is fixed to has the name of the type of every value that the name has taken.** -/
theorem Kept.type?_of_takes (h : Kept s) (htakes : s.Takes name v) :
    s.bindings.type? name = some v.typeName := by
  obtain ⟨hv, event, hevent, rfl, rfl⟩ := htakes
  obtain ⟨k, hlt, hk⟩ := List.getElem_of_mem hevent
  have hset := (h.entered (List.getElem?_eq_some_iff.mpr ⟨hlt, hk⟩)).2
  rw [← h.upTo_length]
  exact (h.keeps hlt event.name).2 _ (Bindings.type?_of_set hset hv)

end Journal

namespace Session

variable {classes : ClassRef → Prop} {v w : Value}

/-- In every session with objects of these classes, all values that a name takes are of one sort. -/
def OneSortEach (classes : ClassRef → Prop) : Prop :=
  ∀ host calls, (journal host calls).ObjectsAmong classes → ∀ name v w,
    (journal host calls).Takes name v → (journal host calls).Takes name w → v.OfOneSort w

private theorem typeName_eq_of_takes {host : Host} {calls : List Call} {name : String}
    (hv : (journal host calls).Takes name v) (hw : (journal host calls).Takes name w) :
    v.typeName = w.typeName := by
  have hkept := (Journal.Kept.start.calls host calls).1
  exact Option.some.inj ((hkept.type?_of_takes hv).symm.trans (hkept.type?_of_takes hw))

/-- Two values whose types have one name are taken by a name one after the other. -/
theorem events_of_typeName (host : Host) (name : String) (hv : v ≠ .null) (hw : w ≠ .null)
    (h : v.typeName = w.typeName) :
    (journal host [.assign name v, .assign name w]).events = [.assigned name v, .assigned name w] := by
  have hfits : Entry.rebind ⟨v, v.fixes?⟩ w = .ok _ := Entry.rebind_of_fits fun fixed hfixed => by
    rw [Value.fixes?_eq_some_iff.mpr ⟨hw, h.symm⟩]
    exact .inr (Value.fixes?_eq_some_iff.mpr ⟨hv, rfl⟩ ▸ hfixed)
  simp only [journal, List.foldl_cons, List.foldl_nil, Call.journal, Bindings.set, if_pos, hfits]
  rfl

/-- So such values have to be of one sort. -/
theorem OneSortEach.of_typeName (h : OneSortEach classes) (hv : v ≠ .null) (hw : w ≠ .null)
    (hvs : ∀ o, v = .object o → classes o.classRef) (hws : ∀ o, w = .object o → classes o.classRef)
    (hname : v.typeName = w.typeName) : v.OfOneSort w := by
  have hevents := events_of_typeName .empty "x" hv hw hname
  have htakes {u : Value} (hu : u ≠ .null) (hmem : u = v ∨ u = w) :
      (journal .empty [.assign "x" v, .assign "x" w]).Takes "x" u := by
    refine ⟨hu, .assigned "x" u, ?_, rfl, rfl⟩
    rw [hevents]
    rcases hmem with rfl | rfl
    · exact List.mem_cons_self
    · exact List.mem_cons_of_mem _ List.mem_cons_self
  refine h .empty _ ?_ "x" v w (htakes hv (.inl rfl)) (htakes hw (.inr rfl))
  unfold Journal.ObjectsAmong
  rw [hevents]
  simp only [List.forall_mem_cons]
  exact ⟨hvs, hws, List.forall_mem_nil _⟩

/-- Nor may there be two such values of different sorts. -/
theorem OneSortEach.apart (h : OneSortEach classes) : ClassRef.Apart classes where
  eq_of_name c d hc hd hname := by
    have hsort : (Value.object ⟨0, c, ""⟩).OfOneSort (.object ⟨0, d, ""⟩) := by
      refine h.of_typeName nofun nofun ?_ ?_ hname
      · rintro _ ⟨⟩
        exact hc
      · rintro _ ⟨⟩
        exact hd
    exact hsort.classRef _ _ rfl rfl
  name_ne c hc kind hkind hname := by
    obtain ⟨v, rfl, hv⟩ := Value.exists_of_plain hkind
    have hobject : v.kind ≠ .object := fun hobject => absurd (hobject ▸ hkind) (by decide)
    have hsort : (Value.object ⟨0, c, ""⟩).OfOneSort v := by
      refine h.of_typeName nofun ?_ ?_ ?_ (hname.trans hv.symm)
      · rintro rfl
        exact absurd hkind (by decide)
      · rintro _ ⟨⟩
        exact hc
      · rintro o rfl
        exact absurd rfl hobject
    exact hobject hsort.kind.symm

/-- **The values that a name takes during a session**, by assignments or in loops, **have types of one
name.** They are all of one kind, and of one class if they are objects, in all sessions with objects of
some classes exactly if no two of these classes have one name and none has the name of a kind. -/
theorem sorts_of_takes (classes : ClassRef → Prop) :
    (∀ host calls name v w, (journal host calls).Takes name v → (journal host calls).Takes name w →
      v.typeName = w.typeName) ∧
    (OneSortEach classes ↔ ClassRef.Apart classes) := by
  refine ⟨fun host calls name v w => typeName_eq_of_takes, OneSortEach.apart, ?_⟩
  intro hapart host calls hamong name v w hv hw
  exact Value.ofOneSort_of_typeName hapart hv.1 hw.1 (hamong.of_takes hv) (hamong.of_takes hw)
    (typeName_eq_of_takes hv hw)

/-- Of a class that has the name of a kind, an object is taken by a name that is fixed to the kind. -/
theorem sorts_of_takes_integer :
    let v : Value := .integer 1
    let w : Value := .object ⟨0, .declared 0 "integer", ""⟩
    let s := journal .empty [.assign "x" v, .assign "x" w]
    s.Takes "x" v ∧ s.Takes "x" w ∧ v.typeName = w.typeName ∧ ¬ v.OfOneSort w ∧
      ¬ OneSortEach (· = .declared 0 "integer") := by
  intro v w s
  have hv : s.Takes "x" v := ⟨nofun, .assigned "x" v, List.mem_cons_self, rfl, rfl⟩
  have hw : s.Takes "x" w :=
    ⟨nofun, .assigned "x" w, List.mem_cons_of_mem _ List.mem_cons_self, rfl, rfl⟩
  have hsort : ¬ v.OfOneSort w := fun hsort => nomatch hsort.kind
  obtain ⟨hnames, hsorts⟩ := sorts_of_takes (· = .declared 0 "integer")
  refine ⟨hv, hw, hnames .empty _ "x" v w hv hw, hsort, fun h => ?_⟩
  exact (hsorts.mp h).name_ne _ rfl .integer (by decide) rfl

end Session

end Stencil
