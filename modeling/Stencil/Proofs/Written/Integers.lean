import Stencil.Proofs.Definitions

/-!
# Integers in writing

What an integer is written as is read back by whoever reads the sign together with the digits
(`Integer.read?_write`), and so as a written value (`Written.read_write`). A script reads the digits
first, and then the minus sign as an operator. The digits of the least integer are those of a number
that is no integer, so that this one integer is not read back by scripts
(`Engine.evaluate_display_integer`).
-/

namespace Stencil

/-! ## Digits -/

namespace Integer

variable {s : List Char} {k : Nat} {n : Int64}

/-- Digits are one character or more, each of them a digit. -/
private theorem isDigits_iff : isDigits s = true ↔ s ≠ [] ∧ ∀ c ∈ s, c.isDigit = true := by
  simp [isDigits]

private theorem isDigits_digits (k : Nat) : isDigits (digits k) = true :=
  isDigits_iff.mpr ⟨Nat.toDigits_ne_nil, fun _ => Nat.isDigit_of_mem_toDigits (by decide) (by decide)⟩

private theorem ofDigits_digits (k : Nat) : ofDigits (digits k) = k := Nat.ofDigitChars_ten_toDigits

/-- Digits have no sign. -/
theorem splitSign_of_isDigits (h : isDigits s = true) : splitSign s = (false, s) := by
  obtain ⟨-, hall⟩ := isDigits_iff.mp h
  unfold splitSign
  split
  · cases hall '-' List.mem_cons_self
  · cases hall '+' List.mem_cons_self
  · rfl

private theorem read?_digits (h : k ≤ Int64.maxValue.toInt) : read? (digits k) = some (.ofInt k) := by
  have hleast : Int64.minValue.toInt ≤ k := by
    rw [Int64.toInt_minValue]
    omega
  have hrange : (Int64.minValue.toInt ≤ k && k ≤ Int64.maxValue.toInt) = true :=
    Bool.and_eq_true_iff.mpr ⟨decide_eq_true hleast, decide_eq_true h⟩
  simp only [read?, splitSign_of_isDigits (isDigits_digits k), isDigits_digits, ofDigits_digits,
    Bool.not_true, Bool.false_eq_true, ↓reduceIte, hrange]

private theorem read?_minus_digits (h : Int64.minValue.toInt ≤ -k) :
    read? ('-' :: digits k) = some (.ofInt (-k)) := by
  have hgreatest : -k ≤ Int64.maxValue.toInt := by
    rw [Int64.toInt_maxValue]
    omega
  have hrange : (Int64.minValue.toInt ≤ -k && -k ≤ Int64.maxValue.toInt) = true :=
    Bool.and_eq_true_iff.mpr ⟨decide_eq_true h, decide_eq_true hgreatest⟩
  simp only [read?, splitSign, isDigits_digits, ofDigits_digits, Bool.not_true, Bool.false_eq_true,
    ↓reduceIte, hrange]

/-- An integer is written with its digits, or as the minus sign and digits. -/
theorem write_cases (n : Int64) :
    (∃ k : Nat, n.toInt = k ∧ k ≤ Int64.maxValue.toInt ∧ write n = digits k) ∨
    ∃ k : Nat, n.toInt = -k ∧ Int64.minValue.toInt ≤ -k ∧ write n = '-' :: digits k := by
  have hleast := n.minValue_le_toInt
  have hgreatest := n.toInt_le
  unfold write
  by_cases hneg : n < 0
  · rw [if_pos hneg]
    rw [Int64.lt_iff_toInt_lt, Int64.toInt_zero] at hneg
    exact .inr ⟨_, by omega, by omega, rfl⟩
  · rw [if_neg hneg]
    rw [Int64.lt_iff_toInt_lt, Int64.toInt_zero] at hneg
    exact .inl ⟨_, by omega, by omega, rfl⟩

/-- **An integer in writing is read back.** -/
theorem read?_write (n : Int64) : read? (write n) = some n := by
  obtain ⟨k, hk, hle, hwrite⟩ | ⟨k, hk, hle, hwrite⟩ := write_cases n
  · rw [hwrite, read?_digits hle, ← hk, Int64.ofInt_toInt]
  · rw [hwrite, read?_minus_digits hle, ← hk, Int64.ofInt_toInt]

/-- Something is written for every integer. -/
theorem write_ne_nil (n : Int64) : write n ≠ [] := by
  rcases write_cases n with ⟨k, -, -, hwrite⟩ | ⟨k, -, -, hwrite⟩
  · rw [hwrite]
    exact Nat.toDigits_ne_nil
  · rw [hwrite]
    exact List.cons_ne_nil _ _

/-- It has only digits and a sign. -/
theorem mem_write {c : Char} (h : c ∈ write n) : c = '-' ∨ c.isDigit = true := by
  rcases write_cases n with ⟨k, -, -, hwrite⟩ | ⟨k, -, -, hwrite⟩
  · rw [hwrite] at h
    exact .inr ((isDigits_iff.mp (isDigits_digits k)).2 c h)
  · rw [hwrite, List.mem_cons] at h
    exact h.imp_right ((isDigits_iff.mp (isDigits_digits k)).2 c)

end Integer

/-! ## Written values -/

namespace Written

/-- The words are no integers. -/
theorem readBare_of_read? {s : List Char} {n : Int64} (h : Integer.read? s = some n) :
    readBare s = .integer n := by
  have hword (word : String) (hnone : Integer.read? word.toList = none) : String.ofList s ≠ word := by
    rintro rfl
    rw [String.toList_ofList, h] at hnone
    cases hnone
  unfold readBare
  split
  · next hs => exact absurd hs (hword "null" (by decide))
  · next hs => exact absurd hs (hword "true" (by decide))
  · next hs => exact absurd hs (hword "false" (by decide))
  · rw [h]

/-- What begins with no bracket and no quote is a value as it stands. -/
theorem read_of_head {s : List Char} (h : ∀ c ∈ s.head?, c ≠ '[' ∧ c ≠ '\'') :
    readScalar s = .ok (readBare s) ∧ read s = .ok (readBare s) := by
  have hscalar : readScalar s = .ok (readBare s) := by
    unfold readScalar
    split
    · exact absurd rfl (h '\'' rfl).2
    · rfl
  refine ⟨hscalar, ?_⟩
  unfold read
  split
  · exact absurd rfl (h '[' rfl).1
  · exact hscalar

/-- **An integer in writing is read as the integer**, by itself as well as in a list. -/
theorem read_write (n : Int64) : readScalar (Integer.write n) = .ok (.integer n) ∧
    read (Integer.write n) = .ok (.integer n) := by
  have hhead : ∀ c ∈ (Integer.write n).head?, c ≠ '[' ∧ c ≠ '\'' := by
    intro c hc
    rcases Integer.mem_write (List.mem_of_mem_head? hc) with rfl | hdigit
    · decide
    · constructor <;> rintro rfl <;> cases hdigit
  rw [← readBare_of_read? (Integer.read?_write n)]
  exact read_of_head hhead

end Written

/-! ## Scripts -/

namespace Scan

variable {c : Char} {s : List Char}

/-- Digits by themselves are one numeral. -/
theorem number_of_isDigits (h : Integer.isDigits s = true) : number s = verbatim .integerConst s := by
  obtain ⟨-, hall⟩ := Integer.isDigits_iff.mp h
  have hwhole : s.takeWhile Unicode.isDecimal = s := List.takeWhile_eq_self_iff.mpr hall
  have hrest : s.dropWhile Unicode.isDecimal = [] := List.dropWhile_eq_nil_iff.mpr hall
  have hnumeral : numeral s = (.integerConst, s, []) := by
    rw [numeral_of_no_point (by rw [hrest]; exact nofun), hwhole, hrest]
  rw [number, hnumeral]

private theorem inside_minus (s : List Char) : inside '-' s = verbatim .minus ['-'] :=
  inside_of_alone (by decide +kernel) (by decide)

end Scan

namespace Cursor

variable {s : List Char}

private theorem scans_of_isDigits (offset : Nat) (h : Integer.isDigits s = true) : ∃ after,
    Scans ⟨.program, offset, s⟩ [⟨.integerConst, String.ofList s, offset⟩] after ∧ after.rest = [] := by
  obtain ⟨hne, hall⟩ := Integer.isDigits_iff.mp h
  obtain ⟨c, s, rfl⟩ := List.exists_cons_of_ne_nil hne
  have hdecimal : Unicode.isDecimal c = true := hall c List.mem_cons_self
  have hahead : Scan.ahead .program c s = Scan.verbatim .integerConst (c :: s) := by
    show Scan.inside c s = _
    rw [Scan.inside, Scan.isBlank_of_isDecimal hdecimal, hdecimal, if_neg Bool.false_ne_true, if_pos rfl,
      Scan.number_of_isDigits h]
  refine ⟨behind .program offset c s, .token hne ?_ .refl, ?_⟩
  · exact next_eq_ok.mpr ⟨_, _, by rw [hahead]; rfl, rfl, rfl⟩
  · show (c :: s).drop (Scan.ahead .program c s).width = []
    rw [hahead]
    exact List.drop_length

private theorem scans_minus_of_isDigits (h : Integer.isDigits s = true) : ∃ after,
    Scans (.start .program ('-' :: s))
      [⟨.minus, "-", 0⟩, ⟨.integerConst, String.ofList s, 1⟩] after ∧ after.rest = [] := by
  have hahead : Scan.ahead .program '-' s = Scan.verbatim .minus ['-'] := Scan.inside_minus s
  have hnext : next ⟨.program, 0, '-' :: s⟩ = (.ok ⟨.minus, "-", 0⟩, ⟨.program, 1, s⟩) := by
    rw [next_cons, behind, hahead]
    rfl
  obtain ⟨after, hscans, hend⟩ := scans_of_isDigits 1 h
  exact ⟨after, .token (List.cons_ne_nil _ _) hnext hscans, hend⟩

end Cursor

namespace Engine

open Stencil.Parser

variable {s : List Char} {n : Int64}

/-- The token stands for the integer that is read from it. -/
private theorem literal?_of_read? (hread : Integer.read? s = some n) {offset : Nat} :
    (⟨.integerConst, String.ofList s, offset⟩ : Token).literal? = some (.int n) := by
  show (Integer.read? (String.ofList s).toList).map Literal.int = _
  rw [String.toList_ofList, hread, Option.map_some]

/-- Digits are evaluated as the integer that they are read as. -/
theorem evaluate_of_isDigits (host : Host) (h : Integer.isDigits s = true)
    (hread : Integer.read? s = some n) : evaluate host .value s = pure (.integer n) := by
  obtain ⟨after, hscans, hend⟩ := Cursor.scans_of_isDigits 0 h
  let t : Token := ⟨.integerConst, String.ofList s, 0⟩
  have hreads : Reads .eof 2 [t] (.statement (.terminal t (.int n))) :=
    .statement_of_factor (.literal (literal?_of_read? hread)) (not_startsLoop_cons nofun)
  rw [evaluate_of_scans host hscans hend hreads (by decide), Node.eval]
  rfl

/-- A minus sign before digits changes the sign of the integer that the digits are read as. -/
theorem evaluate_minus_of_isDigits (host : Host) (h : Integer.isDigits s = true)
    (hread : Integer.read? s = some n) : evaluate host .value ('-' :: s) = pure (.integer (-n)) := by
  obtain ⟨after, hscans, hend⟩ := Cursor.scans_minus_of_isDigits h
  let sign : Token := ⟨.minus, "-", 0⟩
  let t : Token := ⟨.integerConst, String.ofList s, 1⟩
  have hreads : Reads .eof 3 [sign, t] (.statement (.unary sign (.terminal t (.int n)))) :=
    .statement_of_factor (.sign (.inr rfl) (.literal (literal?_of_read? hread))) (not_startsLoop_cons nofun)
  rw [evaluate_of_scans host hscans hend hreads (by decide), Node.eval, Node.eval]
  rfl

/-- The digits of the least integer are out of range by themselves. -/
theorem evaluate_minValue (host : Host) : evaluate host .value (Integer.write Int64.minValue) =
    throw (.parse (.grammatical ⟨⟨.integerConst, "9223372036854775808", 1⟩, .integerInRange⟩)) := by
  have hread : failure? (Node.ofText .program (Integer.write Int64.minValue)) =
      some (.grammatical ⟨⟨.integerConst, "9223372036854775808", 1⟩, .integerInRange⟩) := by
    decide +kernel
  rw [evaluate, failure?_eq_some.mp hread]
  rfl

/-- **Every integer but the least is read back from its written form**, by scripts and as a written
value. The least integer is read back as a written value, while a script reads its digits without the
sign, and refuses them. -/
theorem evaluate_display_integer (host : Host) (bindings : Bindings) (n : Int64) :
    Written.read (Value.integer n).display.toList = .ok (.integer n) ∧
    evaluate host .value (Value.integer n).display.toList bindings =
      if n = Int64.minValue then
        .error (.parse (.grammatical ⟨⟨.integerConst, "9223372036854775808", 1⟩, .integerInRange⟩))
          bindings
      else .ok (.integer n) bindings := by
  have hdisplay : (Value.integer n).display.toList = Integer.write n := String.toList_ofList
  rw [hdisplay]
  refine ⟨(Written.read_write n).2, ?_⟩
  by_cases hleast : n = Int64.minValue
  · rw [if_pos hleast, hleast, evaluate_minValue]
    rfl
  rw [if_neg hleast]
  rcases Integer.write_cases n with ⟨k, hk, hle, hwrite⟩ | ⟨k, hk, hle, hwrite⟩
  · have hread : Integer.read? (Integer.digits k) = some n := hwrite ▸ Integer.read?_write n
    rw [hwrite, evaluate_of_isDigits host (Integer.isDigits_digits k) hread]
    rfl
  · have hne : n.toInt ≠ Int64.minValue.toInt := fun heq => hleast (Int64.toInt_inj.mp heq)
    have hlt : k ≤ Int64.maxValue.toInt := by
      rw [Int64.toInt_minValue] at hne hle
      rw [Int64.toInt_maxValue]
      omega
    have hneg : -Int64.ofInt k = n := by rw [← Int64.ofInt_neg, ← hk, Int64.ofInt_toInt]
    rw [hwrite, evaluate_minus_of_isDigits host (Integer.isDigits_digits k) (Integer.read?_digits hlt),
      hneg]
    rfl

end Engine

end Stencil
