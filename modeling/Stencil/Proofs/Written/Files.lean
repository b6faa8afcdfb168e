import Stencil.Proofs.Definitions
import Stencil.Proofs.Written.Scalars

/-!
# Variables files in writing

A variables file can be written with one line for each name, the name and the written form of its value
with an equals sign between them, as long as no text has a line feed. If no name comes twice, such a
file is read without an error, and binds exactly these names to exactly these values
(`Variables.load_writeFile`).
-/

namespace Stencil

/-! ## Lines -/

namespace Text

variable {line s rest : List Char} {ls : List (List Char)}

private theorem lines_go_append (h : '\n' ∉ s) :
    lines.go line (s ++ rest) = lines.go (s.reverse ++ line) rest := by
  induction s generalizing line with
  | nil => rfl
  | cons c s ih =>
    rw [List.mem_cons, not_or] at h
    rw [List.cons_append, lines.go.eq_3 _ _ _ (Ne.symm h.1), ih h.2, List.reverse_cons,
      List.append_assoc]
    rfl

/-- A line goes up to the line feed, and to a carriage return in front of that. -/
theorem lines_append_chomp (hline : '\n' ∉ line) (rest : List Char) :
    lines (line ++ '\n' :: rest) = (lines.chomp line.reverse).reverse :: lines rest := by
  rw [lines, lines_go_append hline, List.append_nil, lines.go]
  rfl

private theorem lines_append_cons (hline : '\n' ∉ line) (hlast : line.getLast? ≠ some '\r')
    (rest : List Char) :
    lines (line ++ '\n' :: rest) = line :: lines rest := by
  have hchomp : lines.chomp line.reverse = line.reverse := by
    rw [lines.chomp.eq_2]
    rintro front hfront
    rw [← List.head?_reverse, hfront] at hlast
    exact hlast rfl
  rw [lines_append_chomp hline, hchomp, List.reverse_reverse]

/-- The last line needs no line feed. -/
theorem lines_of_not_mem (hne : line ≠ []) (hline : '\n' ∉ line) : lines line = [line] := by
  have hgo : lines.go [] (line ++ []) = lines.go (line.reverse ++ []) [] := lines_go_append hline
  rw [List.append_nil, List.append_nil] at hgo
  rw [lines, hgo, lines.go, List.reverse_reverse, if_neg (by simpa using hne)]

/-- **Lines are read one after the other.** -/
theorem lines_flatMap_append (h : ∀ line ∈ ls, '\n' ∉ line ∧ line.getLast? ≠ some '\r')
    (rest : List Char) : lines (ls.flatMap (· ++ ['\n']) ++ rest) = ls ++ lines rest := by
  induction ls with
  | nil => rfl
  | cons line ls ih =>
    obtain ⟨⟨hline, hlast⟩, hls⟩ := List.forall_mem_cons.mp h
    have hfirst : (line :: ls).flatMap (· ++ ['\n']) ++ rest =
        line ++ '\n' :: (ls.flatMap (· ++ ['\n']) ++ rest) := by
      simp
    rw [hfirst, lines_append_cons hline hlast, ih hls]
    rfl

/-- The last line feed can be left out. -/
theorem lines_dropLast (hne : ∀ line ∈ ls, line ≠ [])
    (h : ∀ line ∈ ls, '\n' ∉ line ∧ line.getLast? ≠ some '\r') :
    lines (ls.flatMap (· ++ ['\n'])).dropLast = ls := by
  rcases List.eq_nil_or_concat' ls with rfl | ⟨front, last, rfl⟩
  · rfl
  · rw [List.forall_mem_append, List.forall_mem_singleton] at hne h
    have hdrop : ((front ++ [last]).flatMap (· ++ ['\n'])).dropLast =
        front.flatMap (· ++ ['\n']) ++ last := by
      simp [← List.append_assoc]
    rw [hdrop, lines_flatMap_append h.1, lines_of_not_mem hne.2 h.2.1]

end Text

/-! ## Definitions -/

/-- A value that is written without a line feed. -/
def Scalar.OnOneLine : Scalar → Prop
  | text s _ => '\n' ∉ s.toList
  | _ => True

/-- A value on one line is written without a line feed. -/
private theorem Scalar.newline_not_mem_write {p : Scalar} (h : p.OnOneLine) : '\n' ∉ p.write := by
  intro hmem
  rcases write_cases p with ⟨s, quotable, rfl⟩ | ⟨-, hbare⟩
  · have hs : '\n' ∉ s.toList := h
    have hquote : '\n' ∈ '\'' :: (Written.escape s.toList ++ ['\'']) := hmem
    simp only [List.mem_cons, List.mem_append, List.not_mem_nil, or_false] at hquote
    rcases hquote with hopening | hinside | hclosing
    · exact absurd hopening (by decide)
    · exact (Written.mem_escape hinside).elim (by decide) hs
    · exact absurd hclosing (by decide)
  · exact absurd (hbare '\n' hmem) (by decide)

namespace Variables

variable {name value : List Char}

/-- A name that a variables file can bind, and a value for it in one line. -/
structure Definition where
  name : List Char
  value : Scalar
  isName : Variables.isName name = true
  onOneLine : value.OnOneLine

namespace Definition

/-- A definition in writing. -/
def write (d : Definition) : List Char := d.name ++ '=' :: d.value.write

/-- What a definition binds its name to, if it is the only one. -/
def entry (d : Definition) : String × Entry :=
  (String.ofList d.name, ⟨d.value.value, d.value.value.fixes?⟩)

end Definition

/-- Definitions in writing, each on a line of its own. -/
def writeFile (ds : List Definition) : List Char := ds.flatMap fun d => d.write ++ ['\n']

/-! ### One line -/

private theorem not_mem_of_isName {c : Char} (h : isName name = true)
    (hc : Scan.continuesName c = false) :
    c ∉ name := by
  intro hmem
  obtain ⟨_, _, _, -, hgoes⟩ := exists_cons_of_isName h
  exact Bool.false_ne_true (hc.symm.trans (hgoes c hmem))

private theorem trim_of_isName (h : isName name = true) : Text.trim name = name := by
  obtain ⟨_, _, _, -, hgoes⟩ := exists_cons_of_isName h
  exact Text.trim_of_ends
    (fun c hc => Scan.isBlank_of_continuesName (hgoes c (List.mem_of_mem_head? hc)))
    fun c hc => Scan.isBlank_of_continuesName (hgoes c (List.mem_of_mem_getLast? hc))

/-- A line is taken apart at the first equals sign, and there is none in a name. -/
theorem splitAssignment?_append (h : '=' ∉ name) (value : List Char) :
    splitAssignment? (name ++ '=' :: value) = some (name, value) := by
  have hname : ∀ c ∈ name, (c != '=') = true := by
    intro c hc
    exact bne_iff_ne.mpr fun heq => h (heq ▸ hc)
  rw [splitAssignment?, List.dropWhile_append_of_pos hname, List.takeWhile_append_of_pos hname]
  simp

namespace Definition

variable (d : Definition)

private theorem equals_not_mem_name : '=' ∉ d.name := not_mem_of_isName d.isName (by decide +kernel)

/-- A line ends as the value in it does. -/
theorem getLast?_write : d.write.getLast? = d.value.write.getLast? := by
  obtain ⟨hne, -, -⟩ := Scalar.ends_write d.value
  rw [write, List.append_cons, List.getLast?_append_of_ne_nil _ hne]

private theorem newline_not_mem_write : '\n' ∉ d.write := by
  have hname : '\n' ∉ d.name := not_mem_of_isName d.isName (by decide +kernel)
  have hvalue : '\n' ∉ d.value.write := Scalar.newline_not_mem_write d.onOneLine
  simp [write, hname, hvalue]

private theorem getLast?_write_ne : d.write.getLast? ≠ some '\r' := by
  obtain ⟨-, -, hlast⟩ := Scalar.ends_write d.value
  rw [getLast?_write]
  intro h
  exact absurd (Scalar.isBlank_of_end (hlast '\r' h)) (by decide +kernel)

/-- No blank is around a definition. -/
theorem trim_write : Text.trim d.write = d.write := by
  obtain ⟨c, s, hname, -, hgoes⟩ := exists_cons_of_isName d.isName
  obtain ⟨-, -, hlast⟩ := Scalar.ends_write d.value
  apply Text.trim_of_ends
  · intro a ha
    rw [write, hname] at ha
    obtain rfl : c = a := Option.some.inj ha
    exact Scan.isBlank_of_continuesName (hgoes c (by rw [hname]; exact List.mem_cons_self))
  · intro a ha
    rw [getLast?_write] at ha
    exact Scalar.isBlank_of_end (hlast a ha)

/-- A definition is no comment. -/
theorem isPassedOver_write : isPassedOver d.write = false := by
  obtain ⟨c, s, hname, hstarts, -⟩ := exists_cons_of_isName d.isName
  have hmark (mark : Char) (hmark : Scan.startsName mark = false) : (c == mark) = false := by
    refine beq_eq_false_iff_ne.mpr fun heq => ?_
    rw [heq, hmark] at hstarts
    cases hstarts
  rw [write, hname, List.cons_append, isPassedOver, hmark ';' (by decide +kernel),
    hmark '#' (by decide +kernel)]
  rfl

/-- **A definition in writing binds the name to the value.** -/
theorem define_write (b : Bindings) : define b d.write =
    (b.set (String.ofList d.name) d.value.value).mapError .bind := by
  rw [define, write, splitAssignment?_append d.equals_not_mem_name]
  simp only [trim_of_isName d.isName, d.isName, Scalar.trim_write, (Scalar.read_write d.value).2,
    Bool.not_true, Bool.false_eq_true, ↓reduceIte]

end Definition

/-! ### One line after the other -/

variable {b b' : Bindings} {line : List Char} {lines : List (List Char)} {ds : List Definition}

/-- A line that defines something has no error. -/
theorem loadLines_cons (number : Nat) (hpassed : isPassedOver (Text.trim line) = false)
    (hdefine : define b (Text.trim line) = .ok b') :
    loadLines b number (line :: lines) = loadLines b' (number + 1) lines := by
  rw [loadLines, hpassed, hdefine]
  rfl

/-- **New names are added in order**, without an error. -/
theorem loadLines_write (number : Nat) (hnew : ∀ d ∈ ds, b.has (String.ofList d.name) = false)
    (hnames : (ds.map (·.name)).Nodup) :
    loadLines b number (ds.map (·.write)) = (b ++ ds.map (·.entry), []) := by
  induction ds generalizing b number with
  | nil => simp [loadLines]
  | cons d ds ih =>
    obtain ⟨hd, hds⟩ := List.forall_mem_cons.mp hnew
    rw [List.map_cons, List.nodup_cons] at hnames
    have hset : b.set (String.ofList d.name) d.value.value = .ok (b ++ [d.entry]) :=
      Bindings.set_of_not_has hd _
    have hdefine : define b (Text.trim d.write) = .ok (b ++ [d.entry]) := by
      rw [d.trim_write, d.define_write, hset]
      rfl
    have hpassed : isPassedOver (Text.trim d.write) = false := by
      rw [d.trim_write, d.isPassedOver_write]
    have hstillNew : ∀ other ∈ ds, Bindings.has (b ++ [d.entry]) (String.ofList other.name) = false := by
      intro other hother
      have hne : String.ofList other.name ≠ String.ofList d.name := by
        intro heq
        have hname : other.name = d.name := String.ofList_injective heq
        exact hnames.1 (hname ▸ List.mem_map_of_mem hother)
      rw [Bindings.has, Bindings.entry?_of_set hset hne]
      exact hds other hother
    rw [List.map_cons, loadLines_cons number hpassed hdefine, ih (number + 1) hstillNew hnames.2]
    simp

/-- **A variables file is read back**: each of its names is bound to its value and to nothing else, with
the type of the value, and no line has an error. The last line feed can be left out. -/
theorem load_writeFile (hnames : (ds.map (·.name)).Nodup) :
    load (writeFile ds) = (ds.map (·.entry), []) ∧
      load (writeFile ds).dropLast = (ds.map (·.entry), []) := by
  have hlines : ∀ line ∈ ds.map (·.write), '\n' ∉ line ∧ line.getLast? ≠ some '\r' := by
    intro line hline
    obtain ⟨d, -, rfl⟩ := List.mem_map.mp hline
    exact ⟨d.newline_not_mem_write, d.getLast?_write_ne⟩
  have hne : ∀ line ∈ ds.map (·.write), line ≠ [] := by
    intro line hline
    obtain ⟨d, -, rfl⟩ := List.mem_map.mp hline
    exact List.append_ne_nil_of_right_ne_nil _ (List.cons_ne_nil _ _)
  have hfile : writeFile ds = (ds.map (·.write)).flatMap (· ++ ['\n']) := by
    rw [writeFile, List.flatMap_map]
  have hwhole : Text.lines (writeFile ds) = ds.map (·.write) := by
    have hnone : Text.lines [] = [] := rfl
    have happend := Text.lines_flatMap_append hlines []
    rwa [hnone, List.append_nil, List.append_nil, ← hfile] at happend
  have hdropped : Text.lines (writeFile ds).dropLast = ds.map (·.write) := by
    rw [hfile, Text.lines_dropLast hne hlines]
  have hload : loadLines [] 1 (ds.map (·.write)) = (ds.map (·.entry), []) :=
    loadLines_write 1 (fun _ _ => rfl) hnames
  rw [load, load, hwhole, hdropped]
  exact ⟨hload, hload⟩

/-- The least integer, and a text with signs that mean something elsewhere. -/
theorem load_writeFile_two :
    let ds : List Definition :=
      [⟨"least".toList, .integer Int64.minValue, by decide +kernel, trivial⟩,
        ⟨"_1".toList, .text " it\\'s = [1]; # \r" (by decide), by decide +kernel,
          show '\n' ∉ " it\\'s = [1]; # \r".toList by decide⟩]
    (ds.map (·.name)).Nodup ∧ load (writeFile ds) =
      ([("least", ⟨.integer Int64.minValue, some "integer"⟩),
        ("_1", ⟨.text " it\\'s = [1]; # \r", some "text"⟩)], []) := by
  intro ds
  have hnames : (ds.map (·.name)).Nodup := by decide
  exact ⟨hnames, (load_writeFile hnames).1⟩

end Variables

end Stencil
