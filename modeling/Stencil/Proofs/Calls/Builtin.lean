import Stencil.Engine
import Stencil.Proofs.Calls.Arguments
import Stencil.Proofs.Steps
import Mathlib.Data.List.Forall2

/-!
# Members that belong to no host

The classes that no host declares are made for all values that are looked up in them
(`Class.view_of_ofKind?`), and what their methods find among bound arguments is what their parameters
promise (`Class.IsBuiltin.keepsTo`). So they look at no position behind those of the parameters, miss no
argument, and take none for an integer that is not one. A text may be missing, since no value is passed
where a text is asked for. Then there is no value, or the fault says so, unless what is passed beside it
is looked at first and is at fault itself.
-/

namespace Stencil

/-- A member is used in a way that its class or its parameters rule out. That no value is found in the
place of a text is not ruled out. -/
def Fault.isMisuse : Fault → Bool
  | .wrongReceiver _ | .absent _ _ | .notInteger _ _ => true
  | .notText _ _ type => type != ValueKind.null.name
  | _ => false

/-! ## Bound arguments -/

namespace Signature

variable {s : Signature} {p : Param} {params : List Param} {args bound : List Value}

/-- There is one value for each parameter, of a kind that the parameter admits. -/
abbrev Fits (params : List Param) (bound : List Value) : Prop :=
  List.Forall₂ (fun p v => p.kind.admits v.kind = true) params bound

/-- **What is bound fits the parameters.** -/
theorem fits_of_bind (h : s.bind args = .ok bound) : Fits s.params bound := by
  obtain ⟨hlength, hall⟩ := bindFrom_eq_ok_iff.mp (bind_eq_ok_iff.mp h).2
  refine List.forall₂_iff_get.mpr ⟨hlength.symm, fun i hparam hvalue => ?_⟩
  obtain ⟨v, -, hadmits, hbound⟩ := hall i _ (List.getElem?_eq_getElem hparam)
  rw [List.getElem?_eq_getElem hvalue, Option.some.injEq] at hbound
  rw [List.get_eq_getElem, List.get_eq_getElem, hbound]
  exact Param.admits_promote hadmits

/-- A method is given one value for each of its parameters. -/
theorem length_of_bind (h : s.bind args = .ok bound) : bound.length = s.params.length :=
  (fits_of_bind h).length_eq.symm

private theorem fits_one (h : Fits [p] bound) : ∃ v, bound = [v] ∧ p.kind.admits v.kind = true := by
  cases h with
  | cons hv hrest =>
    cases hrest
    exact ⟨_, rfl, hv⟩

private theorem fits_two {q : Param} (h : Fits [p, q] bound) : ∃ v w, bound = [v, w] ∧
    p.kind.admits v.kind = true ∧ q.kind.admits w.kind = true := by
  cases h with
  | cons hv hrest =>
    obtain ⟨w, rfl, hw⟩ := fits_one hrest
    exact ⟨_, w, rfl, hv, hw⟩

end Signature

namespace ValueKind

variable {v : Value}

/-- Only a text and no value are passed as a text. -/
theorem eq_of_admits_text (h : text.admits v.kind = true) : v = .null ∨ ∃ s, v = .text s := by
  cases v with
  | null => exact .inl rfl
  | text s => exact .inr ⟨s, rfl⟩
  | _ => cases h

private theorem eq_of_admits_integer (h : integer.admits v.kind = true) : ∃ n, v = .integer n := by
  cases v with
  | integer n => exact ⟨n, rfl⟩
  | _ => cases h

end ValueKind

/-! ## Bodies -/

private theorem textAt_text {name s : String} {args : List Value} {i : Nat}
    (h : args[i]? = some (.text s)) : textAt name args i = .ok s.toList := by
  rw [textAt, h]

namespace Method

open Signature ValueKind

variable {Data : Type} {data : Data} {value : Data → Value} {bound : List Value} {name : String}
  {patterns : Patterns}

/-- What may come of a call in which no value is passed as a text: no value, or a fault that says in which
place it was found. Only where another argument is looked at first may it be the fault of that one. -/
inductive OfNull (patterns : Patterns) (name : String) (bound : List Value) : Except Fault Value → Prop
  | null : OfNull patterns name bound (.ok .null)
  | notText {i : Nat} : bound[i]? = some .null →
      OfNull patterns name bound (.error (.notText name (i + 1) ValueKind.null.name))
  | emptySearchText : name = "Replace" → bound[0]? = some (.text "") →
      OfNull patterns name bound (.error .emptySearchText)
  | invalidPattern {pattern reason : String} : name = "Matches" →
      bound[1]? = some (.text pattern) → patterns.compile pattern.toList = .error reason →
      OfNull patterns name bound (.error (.invalidPattern reason))

/-- What a method of no host does with the values that are bound to its parameters. -/
structure KeepsTo (patterns : Patterns) (m : Method Data) (data : Data) (bound : List Value) : Prop where
  /-- It looks at no position behind theirs. -/
  within : ∀ more, m.body data (bound ++ more) = m.body data bound
  /-- They are all there, and what it takes for integers and texts are such. -/
  proper : ∀ f, m.body data bound = .error f → f.isMisuse = false
  /-- Where a text is asked for there may be no value. -/
  ofNull : ∀ (i : Nat) (p : Param), m.params[i]? = some p → p.kind = .text →
    bound[i]? = some .null → OfNull patterns m.name bound (m.body data bound)
  /-- It answers a text, a truth value or no value. -/
  plain : ∀ v, m.body data bound = .ok v → v.kind = .text ∨ v.kind = .boolean ∨ v.kind = .null

section
variable {m : Method Data}

/-- Only a text that is asked for can be missing. -/
theorem ofNull_of_mem {r : Except Fault Value}
    (h : (∃ p ∈ m.params, p.kind = .text) → .null ∈ bound → OfNull patterns m.name bound r) (i : Nat)
    (p : Param) (hp : m.params[i]? = some p) (hkind : p.kind = .text) (hnull : bound[i]? = some .null) :
    OfNull patterns m.name bound r :=
  h ⟨p, List.mem_of_getElem? hp, hkind⟩ (List.mem_of_getElem? hnull)

/-- To keep to its documentation with a value: the body does not depend on what is behind its own
arguments, and the value is a text, a boolean or null. -/
theorem KeepsTo.of_ok {v : Value} (hbody : ∀ more, m.body data (bound ++ more) = .ok v)
    (hnull : (∃ p ∈ m.params, p.kind = .text) → .null ∈ bound → OfNull patterns m.name bound (.ok v))
    (hv : v.kind = .text ∨ v.kind = .boolean ∨ v.kind = .null) : m.KeepsTo patterns data bound := by
  have hrun : m.body data bound = .ok v := List.append_nil bound ▸ hbody []
  refine ⟨fun more => (hbody more).trans hrun.symm, fun f hf => ?_, ?_, fun w hw => ?_⟩
  · cases hrun.symm.trans hf
  · rw [hrun]
    exact ofNull_of_mem hnull
  · cases hrun.symm.trans hw
    exact hv

/-- Or with an error, if it is none of a misuse. -/
theorem KeepsTo.of_error {f : Fault} (hbody : ∀ more, m.body data (bound ++ more) = .error f)
    (hnull : (∃ p ∈ m.params, p.kind = .text) → .null ∈ bound → OfNull patterns m.name bound (.error f))
    (hf : f.isMisuse = false) : m.KeepsTo patterns data bound := by
  have hrun : m.body data bound = .error f := List.append_nil bound ▸ hbody []
  refine ⟨fun more => (hbody more).trans hrun.symm, fun g hg => ?_, ?_, fun w hw => ?_⟩
  · cases hrun.symm.trans hg
    exact hf
  · rw [hrun]
    exact ofNull_of_mem hnull
  · cases hrun.symm.trans hw

end

private theorem equals_keepsTo (h : Fits (Class.equalsMethod value).params bound) :
    (Class.equalsMethod value).KeepsTo patterns data bound := by
  obtain ⟨v, rfl, -⟩ := fits_one h
  refine .of_ok (v := .boolean ((value data).equals v)) (fun more => rfl) ?_ (.inr (.inl rfl))
  simp [Class.equalsMethod]

private theorem toString_keepsTo (h : Fits (Class.toStringMethod value).params bound) :
    (Class.toStringMethod value).KeepsTo patterns data bound := by
  cases h
  exact .of_ok (fun more => rfl) nofun (.inl rfl)

private theorem map_keepsTo {map : List Char → List Char} {s : List Char}
    (h : Fits (Class.mapMethod name map).params bound) :
    (Class.mapMethod name map).KeepsTo patterns s bound := by
  cases h
  exact .of_ok (fun more => rfl) nofun (.inl rfl)

private theorem contains_keepsTo {items : List Value} (h : Fits Class.containsMethod.params bound) :
    Class.containsMethod.KeepsTo patterns items bound := by
  obtain ⟨v, rfl, -⟩ := fits_one h
  refine .of_ok (v := .boolean (items.any fun item => item.equals v)) (fun more => rfl) ?_
    (.inr (.inl rfl))
  simp [Class.containsMethod]

private theorem test_keepsTo {test : (receiver other : List Char) → Bool} {s : List Char}
    (h : Fits (Class.testMethod name test).params bound) :
    (Class.testMethod name test).KeepsTo patterns s bound := by
  obtain ⟨v, rfl, hv⟩ := fits_one h
  rcases eq_of_admits_text hv with rfl | ⟨part, rfl⟩
  · exact .of_error (fun more => rfl) (fun _ _ => .notText (i := 0) rfl) rfl
  · refine .of_ok (v := .boolean (test s part.toList)) (fun more => rfl) (fun _ hnull => ?_)
      (.inr (.inl rfl))
    cases List.mem_singleton.mp hnull

/-- What is written instead is looked at only if there is something to search for. -/
theorem replace_body (s : List Char) (args : List Value) {part : String}
    (hpart : args[0]? = some (.text part)) : Class.replaceMethod.body s args =
      match part.toList with
      | [] => .error .emptySearchText
      | c :: rest => (textAt "Replace" args 1).map fun other =>
          .ofChars (Text.replaceAll c rest other s) := by
  show (textAt "Replace" args 0 >>= _) = _
  rw [textAt_text hpart]
  show (match part.toList with | [] => _ | c :: rest => _) = _
  cases part.toList with
  | nil => rfl
  | cons c rest => cases textAt "Replace" args 1 <;> rfl

private theorem replace_keepsTo {s : List Char} (h : Fits Class.replaceMethod.params bound) :
    Class.replaceMethod.KeepsTo patterns s bound := by
  obtain ⟨v, w, rfl, hv, hw⟩ := fits_two h
  rcases eq_of_admits_text hv with rfl | ⟨part, rfl⟩
  · exact .of_error (fun more => rfl) (fun _ _ => .notText (i := 0) rfl) rfl
  have hbody (more : List Value) := replace_body s (.text part :: w :: more) rfl
  cases hpart : part.toList with
  | nil =>
    simp only [hpart] at hbody
    have hempty : part = "" := String.toList_inj.mp hpart
    exact .of_error hbody (fun _ _ => .emptySearchText rfl (by rw [hempty]; rfl)) rfl
  | cons c rest =>
    simp only [hpart] at hbody
    rcases eq_of_admits_text hw with rfl | ⟨other, rfl⟩
    · exact .of_error hbody (fun _ _ => .notText (i := 1) rfl) rfl
    · exact .of_ok hbody (fun _ hnull => by simp at hnull) (.inl rfl)

/-- The errors of `Substring` are about its numbers, so none is of a misuse. -/
private theorem isMisuse_of_substring {s : List Char} {start length : Int64} {f : Fault}
    (h : Text.substring s start length = .error f) : f.isMisuse = false := by
  unfold Text.substring at h
  split at h
  · cases h
    rfl
  · dsimp only at h
    split at h
    · cases h
    · split at h
      · cases h
        rfl
      · cases h

private theorem substring_keepsTo {s : List Char} (h : Fits Class.substringMethod.params bound) :
    Class.substringMethod.KeepsTo patterns s bound := by
  obtain ⟨v, w, rfl, hv, hw⟩ := fits_two h
  obtain ⟨start, rfl⟩ := eq_of_admits_integer hv
  obtain ⟨length, rfl⟩ := eq_of_admits_integer hw
  have hbody (more : List Value) : Class.substringMethod.body s
      (.integer start :: .integer length :: more) = (Text.substring s start length).map .ofChars := by
    show (Text.substring s start length >>= fun part => Except.ok (Value.ofChars part)) = _
    cases Text.substring s start length <;> rfl
  have htext : ¬ ∃ p ∈ Class.substringMethod.params, p.kind = .text := by
    simp [Class.substringMethod]
  cases hpart : Text.substring s start length with
  | ok part =>
    rw [hpart] at hbody
    exact .of_ok hbody (fun h => absurd h htext) (.inl rfl)
  | error f =>
    rw [hpart] at hbody
    exact .of_error hbody (fun h => absurd h htext) (isMisuse_of_substring hpart)

private theorem capitalize_keepsTo (h : Fits TextHelper.capitalizeMethod.params bound) :
    TextHelper.capitalizeMethod.KeepsTo patterns () bound := by
  obtain ⟨v, w, rfl, hv, hw⟩ := fits_two h
  rcases eq_of_admits_text hv with rfl | ⟨s, rfl⟩
  · exact .of_ok (fun more => rfl) (fun _ _ => .null) (.inr (.inr rfl))
  · have hbody (more : List Value) : TextHelper.capitalizeMethod.body () (.text s :: w :: more) =
        .ok (.ofChars (TextHelper.capitalize (w.same (.boolean true)) s.toList)) := rfl
    refine .of_ok hbody (fun _ hnull => ?_) (.inl rfl)
    cases w <;> simp [ValueKind.admits, Value.kind] at hw hnull

private theorem enumerate_keepsTo (h : Fits TextHelper.enumerateMethod.params bound) :
    TextHelper.enumerateMethod.KeepsTo patterns () bound := by
  obtain ⟨v, rfl, hv⟩ := fits_one h
  have htext : ¬ ∃ p ∈ TextHelper.enumerateMethod.params, p.kind = .text := by
    simp [TextHelper.enumerateMethod]
  cases v with
  | list items =>
    refine .of_ok (fun more => rfl) (fun h => absurd h htext) ?_
    cases TextHelper.phrase? items with
    | none => exact .inr (.inr rfl)
    | some phrase => exact .inl rfl
  | _ => exact .of_ok (fun more => rfl) (fun h => absurd h htext) (.inr (.inr rfl))

/-- The text to be matched is looked at only if the pattern is one. -/
theorem matches_body (patterns : Patterns) (args : List Value) {source : String}
    (hsource : args[1]? = some (.text source)) : (TextHelper.matchesMethod patterns).body () args =
      match patterns.compile source.toList with
      | .error reason => .error (.invalidPattern reason)
      | .ok pattern =>
        (textAt "Matches" args 0).map fun s => .boolean (patterns.isMatch pattern s) := by
  show (textAt "Matches" args 1 >>= _) = _
  rw [textAt_text hsource]
  show (match patterns.compile source.toList with | .error reason => _ | .ok pattern => _) = _
  cases patterns.compile source.toList with
  | error reason => rfl
  | ok pattern => cases textAt "Matches" args 0 <;> rfl

/-- Whatever the patterns are: all that counts is whether one is refused. -/
private theorem matches_keepsTo (h : Fits (TextHelper.matchesMethod patterns).params bound) :
    (TextHelper.matchesMethod patterns).KeepsTo patterns () bound := by
  obtain ⟨v, w, rfl, hv, hw⟩ := fits_two h
  rcases eq_of_admits_text hw with rfl | ⟨source, rfl⟩
  · exact .of_error (fun more => rfl) (fun _ _ => .notText (i := 1) rfl) rfl
  have hbody (more : List Value) := matches_body patterns (v :: .text source :: more) rfl
  cases hpattern : patterns.compile source.toList with
  | error reason =>
    simp only [hpattern] at hbody
    exact .of_error hbody (fun _ _ => .invalidPattern rfl rfl hpattern) rfl
  | ok pattern =>
    simp only [hpattern] at hbody
    rcases eq_of_admits_text hv with rfl | ⟨s, rfl⟩
    · exact .of_error hbody (fun _ _ => .notText (i := 0) rfl) rfl
    · exact .of_ok hbody (fun _ hnull => by simp at hnull) (.inr (.inl rfl))

end Method

/-! ## Classes -/

namespace Class

open Signature

variable {c : Class} {m : Method c.Data} {args bound : List Value} {v : Value} {patterns : Patterns}

/-- The class is that of a kind of values or that of the text helper, which matches patterns as the given
engine does. -/
def IsBuiltin (patterns : Patterns) (c : Class) : Prop :=
  (∃ kind, ofKind? kind = some c) ∨ c = TextHelper.helperClass patterns

/-- **The class of a kind is made for the values of the kind.** -/
theorem view_of_ofKind? (h : ofKind? v.kind = some c) : ∃ data, c.view v = some data := by
  cases v <;> cases h <;> exact ⟨_, rfl⟩

private theorem plain_keepsTo {Data : Type} {kind : ValueKind} {view : Value → Option Data}
    {value : Data → Value} {m : Method Data} (hm : m ∈ (plain kind view value).methods) {data : Data}
    (h : Fits m.params bound) : m.KeepsTo patterns data bound := by
  rcases List.mem_pair.mp hm with rfl | rfl
  · exact Method.equals_keepsTo h
  · exact Method.toString_keepsTo h

private theorem text_keepsTo : ∀ m ∈ text.methods, ∀ (s : List Char) (bound : List Value),
    Fits m.params bound → m.KeepsTo patterns s bound := by
  repeat' refine List.forall_mem_cons.mpr ⟨fun s bound => ?_, ?_⟩
  · exact Method.map_keepsTo
  · exact Method.map_keepsTo
  · exact Method.map_keepsTo
  · exact Method.test_keepsTo
  · exact Method.test_keepsTo
  · exact Method.test_keepsTo
  · exact Method.replace_keepsTo
  · exact Method.substring_keepsTo
  · exact Method.equals_keepsTo
  · exact Method.toString_keepsTo
  · exact nofun

private theorem list_keepsTo {m : Method (List Value)} (hm : m ∈ list.methods) {items : List Value}
    (h : Fits m.params bound) : m.KeepsTo patterns items bound := by
  rcases List.mem_pair.mp hm with rfl | rfl
  · exact Method.contains_keepsTo h
  · exact Method.equals_keepsTo h

private theorem helper_keepsTo : ∀ m ∈ (TextHelper.helperClass patterns).methods, ∀ (data : Unit)
    (bound : List Value), Fits m.params bound → m.KeepsTo patterns data bound := by
  repeat' refine List.forall_mem_cons.mpr ⟨fun _ bound => ?_, ?_⟩
  · exact Method.capitalize_keepsTo
  · exact Method.enumerate_keepsTo
  · exact Method.matches_keepsTo
  · exact nofun

/-- **Methods of no host keep to their arguments.** -/
theorem IsBuiltin.keepsTo (hc : c.IsBuiltin patterns) (data : c.Data) (hm : m ∈ c.methods)
    (h : m.bind args = .ok bound) : m.KeepsTo patterns data bound := by
  have hfits := fits_of_bind h
  rcases hc with ⟨kind, hkind⟩ | rfl
  · cases kind <;> cases hkind
    · exact plain_keepsTo hm hfits
    · exact plain_keepsTo hm hfits
    · exact plain_keepsTo hm hfits
    · exact text_keepsTo m hm data bound hfits
    · exact list_keepsTo hm hfits
  · exact helper_keepsTo m hm data bound hfits

/-- No value in the place of a text is not what is at fault where the text to search for is empty. -/
theorem null_beside_empty_search :
    (∀ patterns : Patterns, ¬ ∀ (c : Class) (m : Method c.Data) (data : c.Data)
      (args bound : List Value), c.IsBuiltin patterns → m ∈ c.methods → m.bind args = .ok bound →
      ∀ (i : Nat) (p : Param), m.params[i]? = some p → p.kind = .text → bound[i]? = some .null →
        m.body data bound = .ok .null ∨
          ∃ position, m.body data bound = .error (.notText m.name position ValueKind.null.name)) ∧
    failure? (answer (Engine.evaluate .empty .value "s.Replace('', null)".toList
        [("s", ⟨.text "abc", (Value.text "abc").fixes?⟩)])) =
      some (.runtime ⟨"ProcedureCall", ⟨.identifier, "Replace", 2⟩, .fault .emptySearchText⟩) := by
  refine ⟨fun patterns hall => ?_, by decide +kernel⟩
  have hmem : replaceMethod ∈ text.methods :=
    List.mem_of_getElem? (show text.methods[6]? = some replaceMethod from rfl)
  have hbind : replaceMethod.bind [.text "", .null] = .ok [.text "", .null] := rfl
  have hclass : text.IsBuiltin patterns := .inl ⟨.text, rfl⟩
  rcases hall text replaceMethod [] _ _ hclass hmem hbind 1 _ rfl rfl rfl with h | ⟨_, h⟩
  · cases h
  · cases h

end Class

end Stencil
