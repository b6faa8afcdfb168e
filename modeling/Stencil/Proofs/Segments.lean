import Stencil.Proofs.InBraces
import Stencil.Proofs.Rendering

/-!
# Templates put together from segments

A template can be put together from literal texts and from expressions: a text is written with a
backslash before every opening brace and every backslash, and an expression in braces. What is written
so is read as these segments, with neighbouring texts in one fragment and empty ones in none
(`Segment.ofText_written`), and rendered as the texts between the values of the expressions, which are
evaluated from the left (`Segment.execute_written`). How one segment is written does not depend on the
others: a text ends where a brace opens, and after a closing brace reading is where it was at the start.
-/

namespace Stencil

/-- Part of a template: a literal text, or an expression with its tree. -/
inductive Segment where
  | literal (text : List Char)
  | program (source : List Char) (tree : Node)

namespace Segment

/-- A text with a backslash before every opening brace and every backslash. -/
def escape : List Char → List Char
  | [] => []
  | c :: s => if c = '{' || c = '\\' then '\\' :: c :: escape s else c :: escape s

/-- A template of these segments. -/
def written : List Segment → List Char
  | [] => []
  | literal text :: segments => escape text ++ written segments
  | program source _ :: segments => '{' :: (source ++ '}' :: written segments)

/-- The tree of an expression is what is read from it. -/
def IsRead : Segment → Prop
  | literal _ => True
  | program source tree => Node.ofText .program source = .ok tree

/-! ## Neighbouring texts -/

/-- Segments with a text before them, which becomes one with a text that they begin with. -/
def prepend (text : List Char) : List Segment → List Segment
  | literal more :: segments => literal (text ++ more) :: segments
  | segments => if text.isEmpty then segments else literal text :: segments

/-- Each run of texts as one text, if there is anything in it. -/
def joined : List Segment → List Segment
  | [] => []
  | literal text :: segments => prepend text (joined segments)
  | program source tree :: segments => program source tree :: joined segments

/-- No text is empty, and none stands behind another. -/
inductive Apart : List Segment → Prop
  | nil : Apart []
  | literal {text : List Char} {segments : List Segment} :
      text ≠ [] → (∀ more others, segments ≠ literal more :: others) → Apart segments →
      Apart (literal text :: segments)
  | program {source : List Char} {tree : Node} {segments : List Segment} :
      Apart segments → Apart (program source tree :: segments)

/-- The fragments that segments are read as, of which the first one starts at the offset. -/
def fragments (offset : Nat) : List Segment → List Node
  | [] => []
  | literal text :: segments =>
    .terminal ⟨.textLiteral, String.ofList text, offset⟩ (.text (String.ofList text)) ::
      fragments (offset + (escape text).length) segments
  | program source tree :: segments =>
    tree.mapTokens (Token.moved (offset + 1)) :: fragments (offset + source.length + 2) segments

section
variable {text : List Char} {segments : List Segment}

/-- A text joins one that stands first, or else is put there, if it is not empty. -/
private theorem prepend_cases (text : List Char) (segments : List Segment) :
    (∃ more others, segments = literal more :: others ∧
      prepend text segments = literal (text ++ more) :: others) ∨
    (∀ more others, segments ≠ literal more :: others) ∧
      (text = [] ∧ prepend text segments = segments ∨
        text ≠ [] ∧ prepend text segments = literal text :: segments) := by
  have hempty : text = [] ∨ text ≠ [] := Classical.em _
  rcases segments with _ | ⟨more | ⟨source, tree⟩, others⟩
  · refine .inr ⟨nofun, hempty.imp (fun h => ⟨h, ?_⟩) (fun h => ⟨h, ?_⟩)⟩ <;> simp [prepend, h]
  · exact .inl ⟨more, others, rfl, rfl⟩
  · refine .inr ⟨nofun, hempty.imp (fun h => ⟨h, ?_⟩) (fun h => ⟨h, ?_⟩)⟩ <;> simp [prepend, h]

private theorem apart_prepend (h : Apart segments) : Apart (prepend text segments) := by
  rcases prepend_cases text segments with
    ⟨more, others, rfl, hprepend⟩ | ⟨hnone, ⟨-, hprepend⟩ | ⟨hne, hprepend⟩⟩ <;> rw [hprepend]
  · cases h with
    | literal hmore hnone hothers =>
      exact .literal (List.append_ne_nil_of_right_ne_nil text hmore) hnone hothers
  · exact h
  · exact .literal hne hnone h

/-- **Joined texts are apart.** -/
theorem apart_joined : (segments : List Segment) → Apart (joined segments)
  | [] => .nil
  | literal _ :: segments => apart_prepend (apart_joined segments)
  | program _ _ :: segments => .program (apart_joined segments)

private theorem escape_append (s t : List Char) : escape (s ++ t) = escape s ++ escape t := by
  induction s with
  | nil => rfl
  | cons c s ih =>
    rw [List.cons_append, escape, escape, ih]
    split <;> rfl

/-- To put a text before segments is to write it before them. -/
private theorem written_prepend :
    written (prepend text segments) = escape text ++ written segments := by
  rcases prepend_cases text segments with
    ⟨more, others, rfl, hprepend⟩ | ⟨-, ⟨rfl, hprepend⟩ | ⟨-, hprepend⟩⟩ <;> rw [hprepend]
  · rw [written, written, escape_append, List.append_assoc]
  · rfl
  · rfl

/-- Joined texts are written as the texts were. -/
theorem written_joined (segments : List Segment) : written (joined segments) = written segments := by
  induction segments with
  | nil => rfl
  | cons segment segments ih =>
    cases segment with
    | literal text => rw [joined, written_prepend, ih, written]
    | program source tree => rw [joined, written, ih, written]

/-- A text put before segments leaves the trees of their expressions as they are. -/
private theorem isRead_prepend (h : ∀ segment ∈ segments, segment.IsRead) :
    ∀ segment ∈ prepend text segments, segment.IsRead := by
  rcases prepend_cases text segments with
    ⟨more, others, rfl, hprepend⟩ | ⟨-, ⟨-, hprepend⟩ | ⟨-, hprepend⟩⟩ <;> rw [hprepend]
  · exact List.forall_mem_cons.mpr ⟨trivial, (List.forall_mem_cons.mp h).2⟩
  · exact h
  · exact List.forall_mem_cons.mpr ⟨trivial, h⟩

private theorem isRead_joined (h : ∀ segment ∈ segments, segment.IsRead) :
    ∀ segment ∈ joined segments, segment.IsRead := by
  induction segments with
  | nil => exact h
  | cons segment segments ih =>
    obtain ⟨hsegment, hsegments⟩ := List.forall_mem_cons.mp h
    cases segment with
    | literal text => exact isRead_prepend (ih hsegments)
    | program source tree => exact List.forall_mem_cons.mpr ⟨hsegment, ih hsegments⟩

end

end Segment

/-! ## Tokens -/

open Segment Stencil.Parser

/-- What is read back from an escaped text, up to the next brace or the end, is the text. -/
theorem Scan.literal_escape {tail : List Char} (htail : tail = [] ∨ tail.head? = some '{')
    (s : List Char) : literal (escape s ++ tail) = (s, (escape s).length) := by
  induction s with
  | nil =>
    rcases htail with rfl | hhead
    · rfl
    · obtain ⟨more, rfl⟩ := List.head?_eq_some_iff.mp hhead
      rfl
  | cons c s ih =>
    by_cases hbrace : c = '{'
    · subst hbrace
      show literal ('\\' :: '{' :: (escape s ++ tail)) = _
      rw [literal, ih]
      rfl
    by_cases hslash : c = '\\'
    · subst hslash
      show literal ('\\' :: '\\' :: (escape s ++ tail)) = _
      rw [literal, ih]
      rfl
    · have hplain : escape (c :: s) = c :: escape s := by simp [escape, hbrace, hslash]
      rw [hplain, List.cons_append, literal, ih]
      · rfl
      · exact hbrace
      · exact fun _ hc => absurd hc hslash
      · exact fun _ hc => absurd hc hslash

/-- An escaped text starts with no brace. -/
theorem Segment.exists_escape_cons (c : Char) (s : List Char) :
    ∃ d more, escape (c :: s) = d :: more ∧ d ≠ '{' := by
  rw [escape]
  split
  · exact ⟨'\\', _, rfl, by decide⟩
  · next hplain =>
    simp only [Bool.or_eq_true, decide_eq_true_eq, not_or] at hplain
    exact ⟨c, _, rfl, hplain.1⟩

namespace Cursor

/-- Outside the braces an escaped text is one token. -/
theorem next_escape {s tail : List Char} (offset : Nat) (hs : s ≠ [])
    (htail : tail = [] ∨ tail.head? = some '{') :
    next ⟨.text, offset, escape s ++ tail⟩ =
      (.ok ⟨.textLiteral, String.ofList s, offset⟩, ⟨.text, offset + (escape s).length, tail⟩) := by
  have hliteral := Scan.literal_escape htail s
  have hdrop : (escape s ++ tail).drop (escape s).length = tail := List.drop_left
  obtain ⟨c, s', rfl⟩ := List.exists_cons_of_ne_nil hs
  obtain ⟨d, more, hescape, hd⟩ := exists_escape_cons c s'
  rw [hescape, List.cons_append] at hliteral hdrop ⊢
  have hahead : Scan.ahead .text d (more ++ tail) =
      ⟨.ok (.textLiteral, c :: s'), (d :: more).length⟩ := by
    rw [Scan.ahead, if_pos (by simp [hd]), Scan.outside, hliteral]
  have hmode : modeAt .text d = .text := by simp [modeAt, hd]
  rw [next_cons, behind, hahead, hmode, hdrop]

end Cursor

namespace Segment

variable {segments : List Segment}

/-- Segments that begin with no text are written with an opening brace in front. -/
private theorem head_written (h : ∀ more others, segments ≠ literal more :: others) :
    written segments = [] ∨ (written segments).head? = some '{' := by
  rcases segments with _ | ⟨text | ⟨source, tree⟩, others⟩
  · exact .inl rfl
  · exact absurd rfl (h text others)
  · exact .inr rfl

/-- **What is written is scanned to the end, and its tokens make the fragments.** -/
theorem exists_scans (h : Apart segments) (hread : ∀ segment ∈ segments, segment.IsRead)
    (offset : Nat) : ∃ ts stop, Cursor.Scans ⟨.text, offset, written segments⟩ ts stop ∧
      stop.rest = [] ∧ ReadsFragments ts (fragments offset segments) := by
  induction h generalizing offset with
  | nil => exact ⟨[], _, .refl, rfl, .nil⟩
  | @literal text segments htext hnone _ ih =>
    obtain ⟨ts, stop, hscans, hend, hfragments⟩ :=
      ih (List.forall_mem_cons.mp hread).2 (offset + (escape text).length)
    have hrest : escape text ++ written segments ≠ [] := by
      obtain ⟨c, s, rfl⟩ := List.exists_cons_of_ne_nil htext
      obtain ⟨d, more, hescape, -⟩ := exists_escape_cons c s
      simp [hescape]
    have hnext := Cursor.next_escape offset htext (head_written hnone)
    exact ⟨_, stop, .token hrest hnext hscans, hend, .text rfl hfragments⟩
  | @program source tree segments _ ih =>
    obtain ⟨hsource, hsegments⟩ := List.forall_mem_cons.mp hread
    obtain ⟨us, stop, hscans, hend, hfragments⟩ := ih hsegments (offset + source.length + 2)
    obtain ⟨ts, after, n, hscans', hend', hts, hn, hreads⟩ := Node.exists_reads_of_ofText hsource
    obtain ⟨closing, hclosing, hbraces⟩ :=
      hscans'.inBraces .text offset (written segments) hend' hts
    refine ⟨_, stop, hbraces.append hscans, hend, ?_⟩
    rw [List.cons_append, List.append_assoc]
    exact .program rfl hn (hreads (offset + 1)) hclosing hfragments

/-- **A template of segments is read as their fragments.** -/
theorem ofText_written (hread : ∀ segment ∈ segments, segment.IsRead) : ∃ token,
    Node.ofText .text (written segments) = .ok (.template token (fragments 0 (joined segments))) := by
  obtain ⟨ts, stop, hscans, hend, hfragments⟩ :=
    exists_scans (apart_joined segments) (isRead_joined hread) 0
  rw [written_joined] at hscans
  have hsupply := Token.Supply.ofText_of_scans hscans hend
  obtain ⟨hends, hfront⟩ := Token.Supply.ends_ofText.mpr ⟨stop, hscans, hend⟩
  obtain ⟨token, htoken⟩ : ∃ token,
      (Token.Supply.ofText .text (written segments)).pull.1 = .ok token := by
    rw [hsupply]
    cases ts <;> exact ⟨_, rfl⟩
  exact ⟨token, Node.ofSupply_text_eq_ok.mpr ⟨hends, token, _, htoken, hfront ▸ hfragments, rfl⟩⟩

/-! ## Values -/

/-- Texts as they are, and the written forms of the values of expressions, evaluated from the left. -/
def render (host : Host) : List Segment → Engine String
  | [] => return ""
  | literal text :: segments => return String.ofList text ++ (← render host segments)
  | program source _ :: segments => do
    let v ← Engine.evaluate host .value source
    return v.display ++ (← render host segments)

/-- A text put before segments is rendered before them. -/
private theorem render_prepend (host : Host) (text : List Char) (segments : List Segment) :
    render host (prepend text segments) = (return String.ofList text ++ (← render host segments)) := by
  rcases prepend_cases text segments with
    ⟨more, others, rfl, hprepend⟩ | ⟨-, ⟨rfl, hprepend⟩ | ⟨-, hprepend⟩⟩ <;> rw [hprepend]
  · simp only [render, bind_assoc, pure_bind, String.ofList_append, String.append_assoc]
  · simp
  · rfl

/-- Joined texts are rendered as the texts were. -/
theorem render_joined (host : Host) (segments : List Segment) :
    render host (joined segments) = render host segments := by
  induction segments with
  | nil => rfl
  | cons segment segments ih =>
    cases segment with
    | literal text => rw [joined, render_prepend, ih, render]
    | program source tree => rw [joined, render, ih, render]

end Segment

namespace Evaluation

variable {f : Token → Token} {e : Evaluation Value} {v : Value} {b b' : Bindings}

/-- Where rendering stops at an error, a fragment is the written form of a value. -/
theorem fragment_stop (e : Evaluation Value) : fragment .stop e = (return (← e).display) := by
  funext b
  cases he : e b with
  | ok v b' =>
    rw [bind_of_ok he, fragment_of_ok .stop he]
    rfl
  | error e b' => rw [bind_of_error he, fragment_stop_of_error he]

/-- A template is rendered fragment by fragment. -/
theorem render_template_cons (host : Host) (token : Token) (node : Node) (nodes : List Node) :
    render host .stop (.template token (node :: nodes)) = do
      let v ← node.eval host
      return v.display ++ (← render host .stop (.template token nodes)) := by
  simp only [render, fragments, fragment_stop, bind_assoc, pure_bind, String.join_cons]

/-- Changed tokens do not change what has a value. -/
theorem relabel_eq_ok : relabel f e b = .ok v b' ↔ e b = .ok v b' := by
  cases he : e b <;> simp [relabel, he]

end Evaluation

namespace Segment

open Engine

variable {host : Host} {segments : List Segment} {token : Token} {out : String} {b b' : Bindings}

private theorem ofEvaluation_eq_ok {α : Type} {e : Evaluation α} {a : α} :
    ofEvaluation e b = .ok a b' ↔ e b = .ok a b' := by
  cases he : e b <;> simp [ofEvaluation, he]

/-- The fragments of segments are rendered as the segments are. -/
theorem render_fragments (hread : ∀ segment ∈ segments, segment.IsRead) (offset : Nat) :
    Evaluation.render host .stop (.template token (fragments offset segments)) b = .ok out b' ↔
      render host segments b = .ok out b' := by
  induction segments generalizing offset b b' out with
  | nil =>
    show (pure "" : Evaluation String) b = _ ↔ (pure "" : Engine String) b = _
    rw [pure_eq_ok, pure_eq_ok]
  | cons segment segments ih =>
    obtain ⟨hsegment, hsegments⟩ := List.forall_mem_cons.mp hread
    cases segment with
    | literal text =>
      have hvalue : (Node.terminal ⟨.textLiteral, String.ofList text, offset⟩
          (.text (String.ofList text))).eval host = pure (.text (String.ofList text)) := rfl
      rw [fragments, Evaluation.render_template_cons, hvalue, pure_bind, render, bind_eq_ok, bind_eq_ok]
      simp only [ih hsegments, pure_eq_ok, Value.display]
    | program source tree =>
      have hmoved := Node.eval_mapTokens host (Token.relabels_moved (offset + 1)) tree
      rw [fragments, Evaluation.render_template_cons, hmoved, render,
        evaluate_of_ofText host hsegment, bind_eq_ok, bind_eq_ok]
      simp only [bind_eq_ok, Evaluation.relabel_eq_ok, ofEvaluation_eq_ok, ih hsegments, pure_eq_ok]

private theorem execute_of_template {onError : OnError} {source : List Char} {node : Node}
    (h : Node.ofText .text source = .ok node) :
    execute host onError source = ofEvaluation (Evaluation.render host onError node) := by
  rw [execute, h]
  rfl

/-- **Templates are put together from segments.** A template of texts and of expressions in braces is
read as one fragment for each run of texts that are not all empty, with the characters of the texts,
and one for each expression, with the expression's own tree further on. It is rendered as the texts
and the written forms of the values of the expressions, in order, each expression being evaluated with
the bindings that the one before it leaves; and if an expression has no value, so has the template.
A text alone is rendered as it is, and leaves the bindings alone. -/
theorem execute_written (hread : ∀ segment ∈ segments, segment.IsRead) :
    (∃ token, Node.ofText .text (written segments) =
      .ok (.template token (fragments 0 (joined segments)))) ∧
    (∀ host b out b', execute host .stop (written segments) b = .ok out b' ↔
      render host segments b = .ok out b') ∧
    ∀ host onError text b, execute host onError (escape text) b = .ok (String.ofList text) b := by
  refine ⟨ofText_written hread, fun host b out b' => ?_, fun host onError text b => ?_⟩
  · obtain ⟨token, htree⟩ := ofText_written hread
    rw [execute_of_template htree, ofEvaluation_eq_ok, render_fragments (isRead_joined hread),
      render_joined]
  · have hwritten : written [literal text] = escape text := List.append_nil _
    obtain ⟨token, htree⟩ := ofText_written (List.forall_mem_singleton.mpr trivial :
      ∀ segment ∈ [literal text], segment.IsRead)
    rw [hwritten] at htree
    rw [execute_of_template htree, ofEvaluation_eq_ok]
    cases text with
    | nil => rfl
    | cons c text =>
      have hjoin : String.join [String.ofList (c :: text)] = String.ofList (c :: text) :=
        String.empty_append
      exact congrArg (EStateM.Result.ok · b) hjoin

/-- A text that ends in a backslash and one that is a brace, before the program of a name. -/
theorem execute_backslash_brace_name :
    let segments := [literal ['a', '\\'], literal ['{'],
      program ['x'] (.access (.read ⟨.identifier, "x", 0⟩) [])]
    let b : Bindings := [("x", ⟨.integer 1, some "integer"⟩)]
    (∀ segment ∈ segments, segment.IsRead) ∧
      execute .empty .stop ['a', '\\', '\\', '\\', '{', '{', 'x', '}'] b = .ok "a\\\x7b1" b := by
  intro segments b
  have hread : ∀ segment ∈ segments, segment.IsRead := by
    have hname : (program ['x'] (.access (.read ⟨.identifier, "x", 0⟩) [])).IsRead := by
      with_unfolding_all rfl
    simp only [segments, List.forall_mem_cons]
    exact ⟨trivial, trivial, hname, List.forall_mem_nil _⟩
  refine ⟨hread, ((execute_written hread).2.1 .empty b _ b).mpr ?_⟩
  with_unfolding_all rfl

end Segment

end Stencil
