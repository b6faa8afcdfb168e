import Stencil.Proofs.Bindings.Growth
import Stencil.Proofs.Calls.Overloads
import Mathlib.Algebra.Ring.Nat

/-!
# Parts of a text

A part of a text is asked for by two integers, where it starts and how long it is. It is there exactly
if what is asked for lies within the text, as exact integers say, and then it is what stands there
(`Text.substring_eq_ok_iff`). With counts of 64 bits instead of integers the same comes out: in the order
in which the integers are looked at, no sum and no difference is computed that does not exist
(`Text.substringCounted_eq`). A text is put together again from what stands in front of a place and what
stands behind it.
-/

namespace Stencil

namespace Text

variable {s part : List Char} {start length k : Int64}

/-! ## What is asked for -/

/-- The part is what stands behind `start` characters of the text. It is `length` characters long, or
goes to the end of the text where `length` is negative. -/
def IsPart (s : List Char) (start length : Int64) (part : List Char) : Prop :=
  ∃ before after, s = before ++ (part ++ after) ∧ (before.length : Int) = start.toInt ∧
    if length.toInt < 0 then after = [] else (part.length : Int) = length.toInt

/-- A part that is asked for lies within the text. -/
def LiesWithin (s : List Char) (start length : Int64) : Prop :=
  0 ≤ start.toInt ∧ start.toInt ≤ s.length ∧
    (length.toInt < 0 ∨ start.toInt + length.toInt ≤ s.length)

/-- Where there is such a part, it lies within the text. -/
private theorem IsPart.liesWithin (h : IsPart s start length part) : LiesWithin s start length := by
  obtain ⟨before, after, rfl, hstart, hlength⟩ := h
  unfold LiesWithin
  simp only [List.length_append]
  split at hlength <;> omega

/-- There is one part at most. -/
theorem IsPart.unique {other : List Char} (h : IsPart s start length part)
    (h' : IsPart s start length other) : part = other := by
  obtain ⟨before, after, hs, hstart, hlength⟩ := h
  obtain ⟨before', after', hs', hstart', hlength'⟩ := h'
  have hbefore : before.length = before'.length := by omega
  obtain ⟨-, hrest⟩ := List.append_inj (hs.symm.trans hs') hbefore
  by_cases hnegative : length.toInt < 0
  · rw [if_pos hnegative] at hlength hlength'
    rwa [hlength, hlength', List.append_nil, List.append_nil] at hrest
  · rw [if_neg hnegative] at hlength hlength'
    have hpart : part.length = other.length := by omega
    exact (List.append_inj hrest hpart).1

/-- What is behind a place that lies within the text, cut where it is to end. -/
theorem isPart_of_liesWithin (h : LiesWithin s start length) :
    IsPart s start length (if length.toInt < 0 then s.drop start.toInt.toNat
      else (s.drop start.toInt.toNat).take length.toInt.toNat) := by
  obtain ⟨hpositive, hstart, hend⟩ := h
  have hbefore : ((s.take start.toInt.toNat).length : Int) = start.toInt := by
    rw [List.length_take]
    omega
  by_cases hnegative : length.toInt < 0
  · refine ⟨s.take start.toInt.toNat, [], ?_, hbefore, if_pos hnegative ▸ rfl⟩
    rw [if_pos hnegative, List.append_nil, List.take_append_drop]
  · refine ⟨s.take start.toInt.toNat, (s.drop start.toInt.toNat).drop length.toInt.toNat, ?_, hbefore,
      ?_⟩
    · rw [if_neg hnegative, List.take_append_drop, List.take_append_drop]
    · rw [if_neg hnegative, if_neg hnegative, List.length_take, List.length_drop]
      omega

/-- **The part is there exactly if it lies within the text.** -/
theorem substring_of_liesWithin (h : LiesWithin s start length) : substring s start length =
    .ok (if length.toInt < 0 then s.drop start.toInt.toNat
      else (s.drop start.toInt.toNat).take length.toInt.toNat) := by
  obtain ⟨hpositive, hstart, hend⟩ := h
  have hinside : (start.toInt < 0 || (s.length : Int) < start.toInt) = false := by
    rw [Bool.or_eq_false_iff, decide_eq_false_iff_not, decide_eq_false_iff_not]
    omega
  unfold substring
  rw [hinside, if_neg Bool.false_ne_true]
  by_cases hnegative : length.toInt < 0
  · simp only [if_pos hnegative]
  · simp only [if_neg hnegative, if_neg (Int.not_lt.mpr (hend.resolve_left hnegative))]

private theorem liesWithin_of_substring (h : substring s start length = .ok part) :
    LiesWithin s start length := by
  unfold substring at h
  unfold LiesWithin
  split at h
  · cases h
  · next hinside =>
    rw [Bool.or_eq_true, decide_eq_true_iff, decide_eq_true_iff] at hinside
    dsimp only at h
    split at h
    · omega
    · split at h
      · cases h
      · omega

/-- **What comes out is the part that is asked for**, if there is one. -/
theorem substring_eq_ok_iff : substring s start length = .ok part ↔ IsPart s start length part := by
  constructor
  · intro h
    have hwithin := liesWithin_of_substring h
    rw [substring_of_liesWithin hwithin] at h
    exact Except.ok.inj h ▸ isPart_of_liesWithin hwithin
  · intro h
    rw [substring_of_liesWithin h.liesWithin]
    exact congrArg _ ((isPart_of_liesWithin h.liesWithin).unique h)

private theorem exists_substring_iff :
    (∃ part, substring s start length = .ok part) ↔ LiesWithin s start length :=
  ⟨fun ⟨_, h⟩ => liesWithin_of_substring h, fun h => ⟨_, substring_of_liesWithin h⟩⟩

/-! ## Counts of 64 bits -/

/-- An integer as a count. Negative integers are none. -/
def count? (n : Int64) : Option Nat := if n.toInt < 0 then none else some n.toInt.toNat

/-- The sum of two counts, if it is a count. -/
def sum? (a b : Nat) : Option Nat := if a + b < 2 ^ 64 then some (a + b) else none

/-- The difference of two counts, if it is a count. -/
def difference? (a b : Nat) : Option Nat := if b ≤ a then some (a - b) else none

/-- The part that is asked for, computed with counts in the order in which the integers are looked at.
There is nothing where a sum or a difference that is needed is no count. -/
def substringCounted (s : List Char) (start length : Int64) : Option (Except Fault (List Char)) :=
  match (count? start).filter (· ≤ s.length) with
  | none => some (.error (.startOutside start s.length))
  | some first =>
    if length.toInt < 0 then do
      let taken ← difference? s.length first
      return .ok ((s.drop first).take taken)
    else match count? length with
      | none => some (.error (.lengthPastEnd length))
      | some taken => do
        let last ← sum? first taken
        return if last ≤ s.length then .ok ((s.drop first).take taken) else .error (.lengthPastEnd length)

/-- A start is a count within the text, or it is outside. -/
theorem filter_count?_start (s : List Char) (start : Int64) :
    (count? start).filter (· ≤ s.length) =
      if start.toInt < 0 || s.length < start.toInt then none else some start.toInt.toNat := by
  unfold count?
  by_cases hnegative : start.toInt < 0
  · rw [if_pos hnegative, decide_eq_true hnegative, Bool.true_or, if_pos rfl, Option.filter_none]
  · rw [if_neg hnegative, decide_eq_false hnegative, Bool.false_or]
    by_cases hpast : (s.length : Int) < start.toInt
    · rw [decide_eq_true hpast, if_pos rfl, Option.filter_some, if_neg]
      rw [decide_eq_true_iff]
      omega
    · rw [decide_eq_false hpast, if_neg Bool.false_ne_true, Option.filter_some, if_pos]
      rw [decide_eq_true_iff]
      omega

/-- **Counts are enough**: every sum and every difference that is needed exists. -/
theorem substringCounted_eq (hs : s.length < 2 ^ 63) :
    substringCounted s start length = some (substring s start length) := by
  unfold substringCounted substring
  rw [filter_count?_start]
  by_cases houtside : (start.toInt < 0 || (s.length : Int) < start.toInt) = true
  · rw [if_pos houtside, if_pos houtside]
  rw [if_neg houtside, if_neg houtside]
  have hinside : start.toInt.toNat ≤ s.length := by
    rw [Bool.or_eq_true, decide_eq_true_iff, decide_eq_true_iff] at houtside
    omega
  by_cases hnegative : length.toInt < 0
  · have hdifference : difference? s.length start.toInt.toNat =
        some (s.length - start.toInt.toNat) := if_pos hinside
    have hrest : (s.drop start.toInt.toNat).take (s.length - start.toInt.toNat) =
        s.drop start.toInt.toNat := List.take_of_length_le (Nat.le_of_eq List.length_drop)
    simp only [if_pos hnegative, hdifference, Option.bind_eq_bind, Option.bind_some, hrest]
    rfl
  · have hlength : length.toInt < 2 ^ 63 := length.toInt_lt
    have hcount : count? length = some length.toInt.toNat := if_neg hnegative
    have hsum : sum? start.toInt.toNat length.toInt.toNat =
        some (start.toInt.toNat + length.toInt.toNat) := if_pos (by omega)
    have hlast : start.toInt.toNat + length.toInt.toNat ≤ s.length ↔
        ¬ (s.length : Int) < start.toInt + length.toInt := by
      rw [Bool.or_eq_true, decide_eq_true_iff, decide_eq_true_iff] at houtside
      omega
    simp only [if_neg hnegative, hcount, hsum, Option.bind_eq_bind, Option.bind_some, hlast, ite_not]
    rfl

/-! ## Two parts of a text -/

/-- In front of a place and behind it. -/
theorem substring_front_back (h : 0 ≤ k.toInt) (hk : k.toInt ≤ s.length) :
    substring s 0 k = .ok (s.take k.toInt.toNat) ∧
      substring s k (-1) = .ok (s.drop k.toInt.toNat) := by
  have hfront : LiesWithin s 0 k := ⟨Int.le_refl 0, Int.natCast_nonneg _, .inr (by simpa using hk)⟩
  have hback : LiesWithin s k (-1) := ⟨h, hk, .inl (by decide)⟩
  rw [substring_of_liesWithin hfront, substring_of_liesWithin hback, if_neg (Int.not_lt.mpr h),
    if_pos (by decide)]
  exact ⟨rfl, rfl⟩

end Text

/-! ## Calls -/

namespace Class

variable {s : String} {start length : Int64}

/-- A call of `Substring` on a text comes down to the function itself. -/
private theorem callMethod_substring :
    text.callMethod (.text s) "Substring" [.integer start, .integer length] =
    ((Text.substring s.toList start length).map Value.ofChars).mapError .fault := by
  show Except.mapError Cause.fault (do
    let part ← Text.substring s.toList start length
    return Value.ofChars part) = _
  cases Text.substring s.toList start length <;> rfl

/-- Without a length the part goes to the end. -/
theorem callMethod_substring_rest : text.callMethod (.text s) "Substring" [.integer start] =
    text.callMethod (.text s) "Substring" [.integer start, .integer (-1)] := rfl

end Class

namespace Node

variable {host : Host} {b m : Bindings} {receiver method : Token} {args : List Node}
  {values : List Value} {v : Value} {c : Class} {s : String} {start length : Int64}

/-- The call of a method of what a name is bound to. -/
def calling (receiver method : Token) (args : List Node) : Node :=
  .access (.read receiver) [.call method args]

/-- A member of a name that is bound is one of its value. -/
private theorem eval_read (hbound : b.get? receiver.text = some v) (link : Link) :
    (Node.access (.read receiver) [link]).eval host b = link.evalMember host v b := by
  rw [Node.eval]
  · rw [Link.evalHead, bind_of_ok (Evaluation.lookup_of_some hbound _ receiver), Link.evalMembers]
    exact congrFun (bind_pure _) b
  · intro token hbare
    cases hbare

/-- A call with arguments that have values is one with these values. -/
private theorem eval_calling (hbound : b.get? receiver.text = some v)
    (hclass : host.classFor v method.text = .ok c) (hargs : evalAll host args b = .ok values m) :
    (calling receiver method args).eval host b =
      Evaluation.lift "ProcedureCall" method (c.callMethod v method.text values) m := by
  rw [calling, eval_read hbound, Class.evalMember_call rfl hclass hargs]

/-- The arguments ask for a part of a text, where a length that is left out stands for one that is
negative. -/
def AskFor (host : Host) (args : List Node) (b : Bindings) (start length : Int64) (m : Bindings) :
    Prop :=
  evalAll host args b = .ok [.integer start, .integer length] m ∨
    evalAll host args b = .ok [.integer start] m ∧ length = -1

/-- For `Substring` this is the function itself, applied to the two numbers. -/
private theorem eval_calling_substring (hmethod : method.text = "Substring")
    (hbound : b.get? receiver.text = some (.text s)) (hargs : AskFor host args b start length m) :
    (calling receiver method args).eval host b = Evaluation.lift "ProcedureCall" method
      (((Text.substring s.toList start length).map Value.ofChars).mapError .fault) m := by
  have hclass : host.classFor (.text s) method.text = .ok Class.text := rfl
  rw [← Class.callMethod_substring]
  obtain hargs | ⟨hargs, rfl⟩ := hargs
  · rw [eval_calling hbound hclass hargs, hmethod]
  · rw [eval_calling hbound hclass hargs, hmethod, Class.callMethod_substring_rest]

private theorem eval_calling_substring_eq_ok_iff {b' : Bindings} (hmethod : method.text = "Substring")
    (hbound : b.get? receiver.text = some (.text s)) (hargs : AskFor host args b start length m) :
    (calling receiver method args).eval host b = .ok v b' ↔
      b' = m ∧ ∃ part, Text.substring s.toList start length = .ok part ∧ v = .ofChars part := by
  rw [eval_calling_substring hmethod hbound hargs]
  cases Text.substring s.toList start length with
  | ok part =>
    show EStateM.Result.ok (Value.ofChars part) m = _ ↔ _
    simp only [EStateM.Result.ok.injEq, Except.ok.injEq, exists_eq_left']
    grind
  | error f =>
    show EStateM.Result.error _ m = _ ↔ _
    simp only [reduceCtorEq, false_and, exists_false, and_false]

/-- A name that is bound is bound to the same when the arguments have been evaluated. -/
theorem AskFor.get?_eq (hargs : AskFor host args b start length m)
    (hbound : b.get? receiver.text = some v) : m.get? receiver.text = some v := by
  have hleft : m = left (evalAll host args b) := by
    obtain hargs | ⟨hargs, -⟩ := hargs <;>
    · rw [hargs]
      rfl
  have hhas : b.has receiver.text = true := by
    rw [Bindings.has_iff_get?, hbound]
    rfl
  have hgrown := (journalsAll_of_subset host args (List.Subset.refl _)).grown b
  rw [hleft, Bindings.get?_of_same_entry (hgrown.kept receiver.text hhas), hbound]

/-- The length of a text counts its characters. -/
theorem eval_length {property : Token} (hname : property.text = "Length")
    (hbound : b.get? receiver.text = some (.text s)) :
    (Node.access (.read receiver) [.read property]).eval host b =
      .ok (.integer (Int64.ofNat s.toList.length)) b := by
  rw [eval_read hbound, Link.evalMember, hname]
  rfl

/-- **What stands in front of a place and what stands behind it make the text again.** -/
theorem eval_front_back {plus : Token} {front back : List Node} {k : Int64} {m' : Bindings}
    (hplus : plus.kind = .plus) (hmethod : method.text = "Substring")
    (hbound : b.get? receiver.text = some (.text s)) (hfront : AskFor host front b 0 k m)
    (hback : AskFor host back m k (-1) m') (hpositive : 0 ≤ k.toInt) (hk : k.toInt ≤ s.toList.length) :
    (Node.binary plus (calling receiver method front) (calling receiver method back)).eval host b =
      .ok (.text s) m' := by
  obtain ⟨hfirst, hrest⟩ := Text.substring_front_back hpositive hk
  have hleft := (eval_calling_substring_eq_ok_iff hmethod hbound hfront).mpr ⟨rfl, _, hfirst, rfl⟩
  have hright := (eval_calling_substring_eq_ok_iff hmethod (hfront.get?_eq hbound) hback).mpr
    ⟨rfl, _, hrest, rfl⟩
  have hjoined : String.ofList (s.toList.take k.toInt.toNat) ++
      String.ofList (s.toList.drop k.toInt.toNat) = s := by
    rw [← String.ofList_append, List.take_append_drop, String.ofList_toList]
  rw [Node.eval, bind_of_ok hleft, bind_of_ok hright, Token.applyBinary, hplus]
  show EStateM.Result.ok (Value.text (_ ++ _)) m' = _
  rw [Value.ofChars, Value.ofChars, Value.display, Value.display, hjoined]

/-- **Parts of a text are exact.** Let a name be bound to a text of fewer than 2^63 characters. Whatever
trees the arguments are: a part of the text that they ask for by any two integers is there exactly if it
lies within the text, and then it is what stands there, up to the end of the text for a length that
is negative or left out. All that is computed on the way is computed in counts of 64 bits. What stands
in front of a place and what stands behind it make the text again. -/
theorem eval_substring_exact (host : Host) (b : Bindings) (receiver method : Token) (s : String)
    (hlength : s.length < 2 ^ 63) (hmethod : method.text = "Substring")
    (hbound : b.get? receiver.text = some (.text s)) :
    (∀ args start length m, AskFor host args b start length m →
      ((∃ v b', (calling receiver method args).eval host b = .ok v b') ↔
        0 ≤ start.toInt ∧ start.toInt ≤ s.length ∧
          (length.toInt < 0 ∨ start.toInt + length.toInt ≤ s.length)) ∧
      ∀ v b', (calling receiver method args).eval host b = .ok v b' → b' = m ∧
        ∃ part, Text.IsPart s.toList start length part ∧ v = .ofChars part) ∧
    (∀ start length, Text.substringCounted s.toList start length =
      some (Text.substring s.toList start length)) ∧
    ∀ (plus property : Token) (front back : List Node) (k n : Int64) (m m' : Bindings),
      plus.kind = .plus → property.text = "Length" →
      AskFor host front b 0 k m → AskFor host back m k (-1) m' →
      (Node.access (.read receiver) [.read property]).eval host b = .ok (.integer n) b →
      0 ≤ k.toInt → k.toInt ≤ n.toInt →
      (Node.binary plus (calling receiver method front) (calling receiver method back)).eval host b =
        .ok (.text s) m' := by
  have hcount : s.toList.length = s.length := String.length_toList
  rw [← hcount] at hlength ⊢
  refine ⟨fun args start length m hargs => ⟨?_, fun v b' h => ?_⟩, fun start length => ?_, ?_⟩
  · simp only [eval_calling_substring_eq_ok_iff hmethod hbound hargs]
    refine Iff.trans ⟨?_, ?_⟩ Text.exists_substring_iff
    · rintro ⟨v, b', -, part, hpart, -⟩
      exact ⟨part, hpart⟩
    · rintro ⟨part, hpart⟩
      exact ⟨_, m, rfl, part, hpart, rfl⟩
  · obtain ⟨hm, part, hpart, hv⟩ := (eval_calling_substring_eq_ok_iff hmethod hbound hargs).mp h
    exact ⟨hm, part, Text.substring_eq_ok_iff.mp hpart, hv⟩
  · exact Text.substringCounted_eq hlength
  · intro plus property front back k n m m' hplus hname hfront hback hsize hpositive hk
    rw [eval_length hname hbound] at hsize
    obtain rfl : Int64.ofNat s.toList.length = n := by
      simpa only [EStateM.Result.ok.injEq, Value.integer.injEq, and_true] using hsize
    rw [Int64.toInt_ofNat_of_lt hlength] at hk
    exact eval_front_back hplus hmethod hbound hfront hback hpositive hk

/-- The greatest length there is goes past the end of a text, and no length at all does not. -/
theorem eval_substring_exact_greatest :
    let s : Token := ⟨.identifier, "s", 0⟩
    let method : Token := ⟨.identifier, "Substring", 2⟩
    let int (n : Int64) : Node := .terminal ⟨.integerConst, "", 12⟩ (.int n)
    let b : Bindings := [("s", ⟨.text "Hello", some "text"⟩)]
    (¬ ∃ v b', (calling s method [int 1, int Int64.maxValue]).eval .empty b = .ok v b') ∧
      ∃ v b', (calling s method [int 1]).eval .empty b = .ok v b' := by
  intro s method int b
  have hlength : "Hello".length < 2 ^ 63 := by decide
  obtain ⟨hexact, -, -⟩ := eval_substring_exact .empty b s method "Hello" hlength rfl rfl
  have htoo : AskFor .empty [int 1, int Int64.maxValue] b 1 Int64.maxValue b := .inl rfl
  have hrest : AskFor .empty [int 1] b 1 (-1) b := .inr ⟨rfl, rfl⟩
  exact ⟨fun h => absurd ((hexact _ _ _ _ htoo).1.mp h) (by decide),
    (hexact _ _ _ _ hrest).1.mpr (by decide)⟩

end Node

end Stencil
