import Stencil.Proofs.Written.Files

/-!
# Faulty lines

A line of a variables file that should define something and does not is reported, and leaves the bindings
as they are. So without the lines that are reported a file is read without an error, and makes the same
bindings (`Variables.load_withoutLines`). Whether a line is at fault may depend on what the lines before
it have defined, but not on faulty ones among them.
-/

namespace Stencil

/-! ## Lines as they stand in a text -/

/-- What is left of a list, whose first item has the given number, without the items of some numbers. -/
def leaveOut {α : Type} (numbers : List Nat) (number : Nat) : List α → List α
  | [] => []
  | a :: as =>
    if number ∈ numbers then leaveOut numbers (number + 1) as
    else a :: leaveOut numbers (number + 1) as

section

variable {α β : Type} {numbers : List Nat} {number n : Nat}

private theorem leaveOut_sublist (numbers : List Nat) (number : Nat) (as : List α) :
    (leaveOut numbers number as).Sublist as := by
  induction as generalizing number with
  | nil => exact .slnil
  | cons a as ih =>
    rw [leaveOut]
    split
    · exact (ih (number + 1)).cons a
    · exact (ih (number + 1)).cons_cons a

/-- To change every item and to leave some out commute. -/
private theorem leaveOut_map (f : α → β) (numbers : List Nat) (number : Nat) (as : List α) :
    leaveOut numbers number (as.map f) = (leaveOut numbers number as).map f := by
  induction as generalizing number with
  | nil => rfl
  | cons a as ih =>
    rw [List.map_cons, leaveOut, leaveOut, ih (number + 1)]
    split <;> rfl

/-- A number before the first item's makes no difference. -/
theorem leaveOut_cons_of_lt (h : n < number) (as : List α) :
    leaveOut (n :: numbers) number as = leaveOut numbers number as := by
  induction as generalizing number with
  | nil => rfl
  | cons a as ih =>
    have hmem : number ∈ n :: numbers ↔ number ∈ numbers := by
      rw [List.mem_cons, or_iff_right (Nat.ne_of_gt h)]
    simp only [leaveOut, hmem, ih (Nat.lt_succ_of_lt h)]

end

namespace Text

/-- The lines of a text as they stand in it, each with the line feed at its end. -/
def fullLines : List Char → List (List Char)
  | [] => []
  | '\n' :: s => ['\n'] :: fullLines s
  | c :: s =>
    match fullLines s with
    | [] => [[c]]
    | line :: ls => (c :: line) :: ls

/-- A line without what ends it. -/
def bare (line : List Char) : List Char :=
  if line.getLast? = some '\n' then (lines.chomp line.dropLast.reverse).reverse else line

/-- A text without the lines of some numbers, of which the first line has the number one. -/
def withoutLines (numbers : List Nat) (s : List Char) : List Char :=
  (leaveOut numbers 1 (fullLines s)).flatten

/-- **Lines as they can stand in a text.** Only the last one can do without a line feed. -/
inductive InLines : List (List Char) → Prop
  | nil : InLines []
  | last {line : List Char} (hne : line ≠ []) (hline : '\n' ∉ line) : InLines [line]
  | cons {line : List Char} {ls : List (List Char)} (hline : '\n' ∉ line) (hls : InLines ls) :
      InLines ((line ++ ['\n']) :: ls)

variable {s line : List Char} {ls ms : List (List Char)}

/-- A text is its lines one after the other. -/
theorem flatten_fullLines (s : List Char) : (fullLines s).flatten = s := by
  fun_induction fullLines s with
  | case1 => rfl
  | case2 s ih => rw [List.flatten_cons, ih, List.singleton_append]
  | case3 c s _ hnone ih =>
    rw [hnone] at ih
    exact congrArg (c :: ·) ih
  | case4 c s _ line ls hfirst ih =>
    rw [hfirst] at ih
    exact congrArg (c :: ·) ih

private theorem inLines_fullLines (s : List Char) : InLines (fullLines s) := by
  fun_induction fullLines s with
  | case1 => exact .nil
  | case2 s ih => exact .cons List.not_mem_nil ih
  | case3 c s hc =>
    exact .last (List.cons_ne_nil c []) fun h => hc (List.mem_singleton.mp h).symm
  | case4 c s hc line ls hfirst ih =>
    have hgrow {line : List Char} (hline : '\n' ∉ line) : '\n' ∉ c :: line := by
      rw [List.mem_cons, not_or]
      exact ⟨fun h => hc h.symm, hline⟩
    rw [hfirst] at ih
    cases ih with
    | last _ hline => exact .last (List.cons_ne_nil c line) (hgrow hline)
    | cons hline hls => exact .cons (hgrow hline) hls

/-- Lines that are left out leave lines behind. -/
theorem InLines.sublist (h : InLines ls) (hsub : ms.Sublist ls) : InLines ms := by
  induction h generalizing ms with
  | nil =>
    obtain rfl := List.sublist_nil.mp hsub
    exact .nil
  | last hne hline =>
    obtain rfl | rfl := List.sublist_singleton.mp hsub
    · exact .nil
    · exact .last hne hline
  | cons hline _ ih =>
    cases hsub with
    | cons _ hsub => exact ih hsub
    | cons_cons _ hsub => exact .cons hline (ih hsub)

/-- **The lines of a text are those that stand in it**, without what ends them. -/
theorem lines_flatten (h : InLines ls) : lines ls.flatten = ls.map bare := by
  induction h with
  | nil => rfl
  | @last line hne hline =>
    have hbare : bare line = line := if_neg fun h => hline (List.mem_of_getLast? h)
    rw [List.flatten_singleton, lines_of_not_mem hne hline, List.map_singleton, hbare]
  | @cons line ls hline _ ih =>
    have hbare : bare (line ++ ['\n']) = (lines.chomp line.reverse).reverse := by
      rw [bare, List.getLast?_concat, if_pos rfl, List.dropLast_concat]
    rw [List.flatten_cons, List.append_assoc, List.singleton_append, lines_append_chomp hline, ih,
      List.map_cons, hbare]

/-- Without some of the lines of a text there are the other lines. -/
theorem lines_withoutLines (numbers : List Nat) (s : List Char) :
    lines (withoutLines numbers s) = leaveOut numbers 1 (lines s) := by
  have hwhole : lines s = (fullLines s).map bare := by
    rw [← lines_flatten (inLines_fullLines s), flatten_fullLines]
  rw [withoutLines, lines_flatten ((inLines_fullLines s).sublist (leaveOut_sublist _ _ _)), hwhole,
    leaveOut_map]

example : withoutLines [2] "a=1\r\nb\nc=2".toList = "a=1\r\nc=2".toList := by decide

end Text

/-! ## One line after the other -/

namespace Variables

variable {b b' : Bindings} {number n : Nat} {ls : List (List Char)} {errors : List LineError}

/-- **What lines do**, of which the first has the given number: what they make of bindings, and the errors
that are reported. -/
inductive Loads : Bindings → Nat → List (List Char) → Bindings → List LineError → Prop
  | nil {b : Bindings} {number : Nat} : Loads b number [] b []
  | passed {b b' : Bindings} {number : Nat} {raw : List Char} {ls : List (List Char)}
      {errors : List LineError} (hpassed : isPassedOver (Text.trim raw) = true)
      (hrest : Loads b (number + 1) ls b' errors) : Loads b number (raw :: ls) b' errors
  | defines {b m b' : Bindings} {number : Nat} {raw : List Char} {ls : List (List Char)}
      {errors : List LineError} (hpassed : isPassedOver (Text.trim raw) = false)
      (hdefine : define b (Text.trim raw) = .ok m)
      (hrest : Loads m (number + 1) ls b' errors) : Loads b number (raw :: ls) b' errors
  | faulty {b b' : Bindings} {number : Nat} {raw : List Char} {ls : List (List Char)}
      {errors : List LineError} {cause : VariableError}
      (hpassed : isPassedOver (Text.trim raw) = false)
      (hdefine : define b (Text.trim raw) = .error cause)
      (hrest : Loads b (number + 1) ls b' errors) :
      Loads b number (raw :: ls) b' (⟨number, cause⟩ :: errors)

private theorem loads_loadLines (b : Bindings) (number : Nat) (ls : List (List Char)) :
    Loads b number ls (loadLines b number ls).1 (loadLines b number ls).2 := by
  induction ls generalizing b number with
  | nil => exact .nil
  | cons raw ls ih =>
    rw [loadLines]
    cases hpassed : isPassedOver (Text.trim raw) with
    | true => exact .passed hpassed (ih b (number + 1))
    | false =>
      cases hdefine : define b (Text.trim raw) with
      | ok m => exact .defines hpassed hdefine (ih m (number + 1))
      | error cause => exact .faulty hpassed hdefine (ih b (number + 1))

private theorem Loads.loadLines_eq (h : Loads b number ls b' errors) :
    loadLines b number ls = (b', errors) := by
  induction h with
  | nil => rfl
  | passed hpassed _ ih => rw [loadLines, if_pos hpassed, ih]
  | defines hpassed hdefine _ ih => rw [loadLines_cons _ hpassed hdefine, ih]
  | faulty hpassed hdefine _ ih =>
    rw [loadLines, hpassed, hdefine, ih]
    rfl

/-- Errors have the numbers of lines from here on. -/
theorem Loads.le_line (h : Loads b number ls b' errors) : ∀ e ∈ errors, number ≤ e.line := by
  induction h with
  | nil => exact List.forall_mem_nil _
  | passed _ _ ih | defines _ _ _ ih => exact fun e he => Nat.le_of_succ_le (ih e he)
  | faulty _ _ _ ih =>
    exact List.forall_mem_cons.mpr ⟨Nat.le_refl _, fun e he => Nat.le_of_succ_le (ih e he)⟩

/-- **Errors are reported in the order of the lines**, and one for a line at most. -/
theorem Loads.pairwise (h : Loads b number ls b' errors) :
    (errors.map (·.line)).Pairwise (· < ·) := by
  induction h with
  | nil => exact .nil
  | passed _ _ ih | defines _ _ _ ih => exact ih
  | faulty _ _ hrest ih =>
    refine List.pairwise_cons.mpr ⟨fun line hline => ?_, ih⟩
    obtain ⟨e, he, rfl⟩ := List.mem_map.mp hline
    exact hrest.le_line e he

/-- A line that has an error is there, and not one that is passed over. -/
theorem Loads.exists_of_mem (h : Loads b number ls b' errors) : ∀ e ∈ errors,
    ∃ raw, (raw, e.line) ∈ ls.zipIdx number ∧ isPassedOver (Text.trim raw) = false := by
  induction h with
  | nil => exact List.forall_mem_nil _
  | passed _ _ ih | defines _ _ _ ih =>
    intro e he
    obtain ⟨raw, hraw, hpassed⟩ := ih e he
    exact ⟨raw, List.mem_cons_of_mem _ hraw, hpassed⟩
  | @faulty _ _ number raw ls errors cause hpassed _ _ ih =>
    refine List.forall_mem_cons.mpr ⟨⟨raw, List.mem_cons_self, hpassed⟩, fun e he => ?_⟩
    obtain ⟨raw, hraw, hpassed⟩ := ih e he
    exact ⟨raw, List.mem_cons_of_mem _ hraw, hpassed⟩

private theorem Loads.not_mem_of_lt (h : Loads b number ls b' errors) (hn : n < number) :
    n ∉ errors.map (·.line) := by
  intro hmem
  obtain ⟨e, he, rfl⟩ := List.mem_map.mp hmem
  exact Nat.not_le_of_lt hn (h.le_line e he)

/-- **A line has an error exactly if it should define something and does not**, with the bindings that the
lines before it make. -/
theorem Loads.mem_iff (h : Loads b number ls b' errors) {k : Nat} {raw : List Char}
    {cause : VariableError} (hraw : ls[k]? = some raw) :
    ⟨number + k, cause⟩ ∈ errors ↔ isPassedOver (Text.trim raw) = false ∧
      define (loadLines b number (ls.take k)).1 (Text.trim raw) = .error cause := by
  -- a line behind the first one has the number `number + 1 + k` to the lines behind that
  have hnext (number k : Nat) : number + (k + 1) = number + 1 + k := by omega
  have hfirst {number : Nat} {m b' : Bindings} {ls : List (List Char)} {errors : List LineError}
      (hrest : Loads m (number + 1) ls b' errors) : ⟨number, cause⟩ ∉ errors :=
    fun hmem => Nat.not_succ_le_self number (hrest.le_line _ hmem)
  induction h generalizing k with
  | nil => cases hraw
  | passed hpassed hrest ih =>
    cases k with
    | zero =>
      obtain rfl := Option.some.inj hraw
      rw [hpassed]
      exact iff_of_false (hfirst hrest) fun h => Bool.false_ne_true h.1.symm
    | succ k =>
      rw [hnext, List.take_succ_cons, loadLines, if_pos hpassed]
      exact ih hraw
  | defines hpassed hdefine hrest ih =>
    cases k with
    | zero =>
      obtain rfl := Option.some.inj hraw
      refine iff_of_false (hfirst hrest) fun h => ?_
      cases hdefine.symm.trans h.2
    | succ k =>
      rw [hnext, List.take_succ_cons, loadLines_cons _ hpassed hdefine]
      exact ih hraw
  | @faulty b _ number first ls errors cause' hpassed hdefine hrest ih =>
    cases k with
    | zero =>
      obtain rfl := Option.some.inj hraw
      have hdefined : define (loadLines b number []).1 (Text.trim first) = .error cause' := hdefine
      rw [Nat.add_zero, List.take_zero, hdefined, List.mem_cons, or_iff_left (hfirst hrest), hpassed,
        LineError.mk.injEq, Except.error.injEq]
      exact and_congr (iff_of_true rfl rfl) eq_comm
    | succ k =>
      have hother : (⟨number + (k + 1), cause⟩ : LineError) ≠ ⟨number, cause'⟩ := by
        intro heq
        have hline := congrArg LineError.line heq
        simp only at hline
        omega
      rw [List.mem_cons, or_iff_right hother, hnext, List.take_succ_cons, loadLines, hpassed, hdefine]
      exact ih hraw

/-- **Without the lines that have errors the others do the same**, whatever number the first one has. -/
theorem Loads.without_faulty (h : Loads b number ls b' errors) (n : Nat) :
    Loads b n (leaveOut (errors.map (·.line)) number ls) b' [] := by
  induction h generalizing n with
  | nil => exact .nil
  | passed hpassed hrest ih =>
    rw [leaveOut, if_neg (hrest.not_mem_of_lt (Nat.lt_succ_self _))]
    exact .passed hpassed (ih (n + 1))
  | defines hpassed hdefine hrest ih =>
    rw [leaveOut, if_neg (hrest.not_mem_of_lt (Nat.lt_succ_self _))]
    exact .defines hpassed hdefine (ih (n + 1))
  | faulty _ _ _ ih =>
    rw [leaveOut, List.map_cons, if_pos List.mem_cons_self,
      leaveOut_cons_of_lt (Nat.lt_succ_self _)]
    exact ih n

/-- A line that counts starts with a character that begins no comment. -/
private theorem isPassedOver_eq_false {line : List Char} (h : isPassedOver line = false) :
    ∃ c s, line = c :: s ∧ c ≠ ';' ∧ c ≠ '#' := by
  cases line with
  | nil => cases h
  | cons c s =>
    rw [isPassedOver, Bool.or_eq_false_iff, beq_eq_false_iff_ne, beq_eq_false_iff_ne] at h
    exact ⟨c, s, rfl, h⟩

/-- **Faulty lines have no effect.** The lines that are reported are reported in their order, and none of
them is blank or a comment: they are the definitions that fail after those before them. A file without
them is read without an error, and makes the same bindings. -/
theorem load_withoutLines (text : List Char) :
    let errors := (load text).2
    (errors.map (·.line)).Pairwise (· < ·) ∧
    (∀ e ∈ errors, ∃ raw c s, (raw, e.line) ∈ (Text.lines text).zipIdx 1 ∧
      Text.trim raw = c :: s ∧ c ≠ ';' ∧ c ≠ '#') ∧
    (∀ k raw cause, (Text.lines text)[k]? = some raw → (⟨k + 1, cause⟩ ∈ errors ↔
      isPassedOver (Text.trim raw) = false ∧
        define (loadLines [] 1 ((Text.lines text).take k)).1 (Text.trim raw) = .error cause)) ∧
    load (Text.withoutLines (errors.map (·.line)) text) = ((load text).1, []) := by
  intro errors
  have hloads : Loads [] 1 (Text.lines text) (load text).1 errors := loads_loadLines [] 1 _
  refine ⟨hloads.pairwise, fun e he => ?_, fun k raw cause hraw => ?_, ?_⟩
  · obtain ⟨raw, hraw, hpassed⟩ := hloads.exists_of_mem e he
    obtain ⟨c, s, htrim, hmarks⟩ := isPassedOver_eq_false hpassed
    exact ⟨raw, c, s, hraw, htrim, hmarks⟩
  · rw [Nat.add_comm k 1]
    exact hloads.mem_iff hraw
  · rw [load, Text.lines_withoutLines]
    exact (hloads.without_faulty 1).loadLines_eq

/-- A text for a name that is fixed to integers has no effect, and neither has a name that is none. -/
theorem load_withoutLines_two :
    let text := "ok=1\n9lives=1\nok='text'\nlast=true".toList
    (load text).2.map (·.line) = [2, 3] ∧
      load "ok=1\nlast=true".toList = ((load text).1, []) := by
  intro text
  have hlines : (load text).2.map (·.line) = [2, 3] := by decide +kernel
  have hrest : Text.withoutLines [2, 3] text = "ok=1\nlast=true".toList := by decide +kernel
  obtain ⟨-, -, -, hload⟩ := load_withoutLines text
  rw [hlines, hrest] at hload
  exact ⟨hlines, hload⟩

end Variables

end Stencil
