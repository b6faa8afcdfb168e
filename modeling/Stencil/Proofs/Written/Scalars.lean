import Stencil.Proofs.Written.Integers
import Stencil.Proofs.Written.Quotes

/-!
# Values in writing

No value, the truth values, integers and texts have a written form each, from which they are read back
(`Scalar.read_write`). A text has one unless it ends in a backslash. A written form is not blank at
either end, so that blanks around it can be taken away (`Scalar.trim_write`).
-/

namespace Stencil

/-! ## Blanks -/

namespace Text

open Stencil.Unicode (isBlank)

variable {s : List Char} {c : Char}

private theorem trimStart_of_head (h : ∀ c ∈ s.head?, isBlank c = false) : trimStart s = s := by
  cases s with
  | nil => rfl
  | cons c s =>
    have hc : isBlank c = false := h c rfl
    rw [trimStart, List.dropWhile_cons, hc, if_neg Bool.false_ne_true]

/-- What is not blank at either end stays as it is. -/
theorem trim_of_ends (hhead : ∀ c ∈ s.head?, isBlank c = false)
    (hlast : ∀ c ∈ s.getLast?, isBlank c = false) : trim s = s := by
  have hback : trimStart s.reverse = s.reverse := by
    apply trimStart_of_head
    rwa [List.head?_reverse]
  rw [trim, trimStart_of_head hhead, hback, List.reverse_reverse]

private theorem trim_cons_of_blank (h : isBlank c = true) (s : List Char) : trim (c :: s) = trim s := by
  have hfront : trimStart (c :: s) = trimStart s := by
    rw [trimStart, List.dropWhile_cons, if_pos h]
    rfl
  rw [trim, hfront]
  rfl

/-- Blanks that were read before, the last one first, are taken away. -/
theorem trim_reverse_append {before : List Char} (h : ∀ c ∈ before, isBlank c = true)
    (s : List Char) : trim (before.reverse ++ s) = trim s := by
  induction before generalizing s with
  | nil => rfl
  | cons c before ih =>
    rw [List.forall_mem_cons] at h
    rw [List.reverse_cons, List.append_assoc, ih h.2]
    exact trim_cons_of_blank h.1 s

/-- Behind a character that is not blank only blanks at the end are taken away. -/
theorem exists_trim_cons (h : isBlank c = false) (s : List Char) :
    ∃ t back, trim (c :: s) = c :: t ∧ s = t ++ back ∧ ∀ d ∈ back, isBlank d = true := by
  refine ⟨(s.reverse.dropWhile isBlank).reverse, (s.reverse.takeWhile isBlank).reverse, ?_, ?_, ?_⟩
  · have hfront : trimStart (c :: s) = c :: s := trimStart_of_head fun d hd => by
      rwa [← Option.some.inj hd]
    have hback : (s.reverse ++ [c]).dropWhile isBlank = s.reverse.dropWhile isBlank ++ [c] :=
      Scan.dropWhile_append_cons h
    rw [trim, hfront, List.reverse_cons, trimStart, hback, List.reverse_append]
    rfl
  · rw [← List.reverse_append, List.takeWhile_append_dropWhile, List.reverse_reverse]
  · intro d hd
    exact List.mem_takeWhile_imp (List.mem_reverse.mp hd)

end Text

/-! ## Written forms -/

/-- A value that can be written so that it is read back: no value, a truth value, an integer, or a
text that does not end in a backslash. -/
inductive Scalar where
  | null
  | boolean (b : Bool)
  | integer (n : Int64)
  | text (s : String) (quotable : Written.Quotable s.toList)

namespace Scalar

variable {p : Scalar} {c : Char}

/-- The value itself. -/
def value : Scalar → Value
  | null => .null
  | boolean b => .boolean b
  | integer n => .integer n
  | text s _ => .text s

/-- The value in writing. A text is in quotes. -/
def write : Scalar → List Char
  | null => "null".toList
  | boolean b => if b then "true".toList else "false".toList
  | integer n => Integer.write n
  | text s _ => Written.quote s.toList

/-- A character of a word or of an integer. -/
def isBare (c : Char) : Bool := c.isAlphanum || c == '-'

/-- A value is written in quotes or without any. -/
theorem write_cases (p : Scalar) :
    (∃ s quotable, p = text s quotable) ∨ p.write ≠ [] ∧ ∀ c ∈ p.write, isBare c = true := by
  cases p with
  | null => exact .inr ⟨by decide, List.all_eq_true.mp (by decide)⟩
  | boolean b => exact .inr (by cases b <;> exact ⟨by decide, List.all_eq_true.mp (by decide)⟩)
  | integer n =>
    refine .inr ⟨Integer.write_ne_nil n, fun c hc => ?_⟩
    rcases Integer.mem_write hc with rfl | hdigit
    · rfl
    · simp [isBare, Char.isAlphanum, hdigit]
  | text s quotable => exact .inl ⟨s, quotable, rfl⟩

/-- A character of a word is not one that is none. -/
theorem ne_of_isBare {d : Char} (h : isBare c = true) (hd : isBare d = false) : c ≠ d := by
  rintro rfl
  exact Bool.false_ne_true (hd.symm.trans h)

private theorem isBlank_of_isBare (h : isBare c = true) : Unicode.isBlank c = false := by
  refine Bool.eq_false_iff.mpr fun hblank => ?_
  have hall : ∀ n ∈ Unicode.blankCodes, isBare (Char.ofNat n) = false := by decide +kernel
  have hnone := hall _ (Unicode.toNat_mem_blankCodes hblank)
  rw [Char.ofNat_toNat, h] at hnone
  cases hnone

/-- A written form begins and ends with a quote or with a bare character. -/
theorem ends_write (p : Scalar) : p.write ≠ [] ∧
    (∀ c ∈ p.write.head?, c = '\'' ∨ isBare c = true) ∧
    ∀ c ∈ p.write.getLast?, c = '\'' ∨ isBare c = true := by
  rcases write_cases p with ⟨s, quotable, rfl⟩ | ⟨hne, hbare⟩
  · refine ⟨List.cons_ne_nil _ _, fun c hc => .inl (Option.some.inj hc).symm, fun c hc => .inl ?_⟩
    have hlast : (write (text s quotable)).getLast? = some '\'' := by
      rw [write, Written.quote, ← List.cons_append, List.getLast?_concat]
    rw [hlast] at hc
    exact (Option.some.inj hc).symm
  · exact ⟨hne, fun c hc => .inr (hbare c (List.mem_of_mem_head? hc)),
      fun c hc => .inr (hbare c (List.mem_of_mem_getLast? hc))⟩

/-- Nor is one that a written value can end with. -/
theorem isBlank_of_end (h : c = '\'' ∨ isBare c = true) : Unicode.isBlank c = false := by
  rcases h with rfl | hbare
  · decide +kernel
  · exact isBlank_of_isBare hbare

/-- There are no blanks around a written form. -/
theorem trim_write (p : Scalar) : Text.trim p.write = p.write := by
  obtain ⟨-, hhead, hlast⟩ := ends_write p
  exact Text.trim_of_ends (fun c hc => isBlank_of_end (hhead c hc))
    fun c hc => isBlank_of_end (hlast c hc)

/-- **A written form is read as the value**, by itself as well as in a list. -/
theorem read_write (p : Scalar) :
    Written.readScalar p.write = .ok p.value ∧ Written.read p.write = .ok p.value := by
  have hbare (hwrite : ∀ c ∈ p.write, isBare c = true) (hread : Written.readBare p.write = p.value) :
      Written.readScalar p.write = .ok p.value ∧ Written.read p.write = .ok p.value := by
    rw [← hread]
    apply Written.read_of_head
    intro c hc
    have hhead : isBare c = true := hwrite c (List.mem_of_mem_head? hc)
    exact ⟨ne_of_isBare hhead (by decide), ne_of_isBare hhead (by decide)⟩
  cases p with
  | null => exact hbare (List.all_eq_true.mp (by decide)) rfl
  | boolean b => cases b <;> exact hbare (List.all_eq_true.mp (by decide)) rfl
  | integer n => exact Written.read_write n
  | text s quotable =>
    have hread : Written.readScalar (Written.quote s.toList) = .ok (.text s) :=
      Written.readScalar_quote_cons_eq_ok.mpr ⟨s, rfl, quotable, rfl⟩
    exact ⟨hread, hread⟩

end Scalar

end Stencil
