import Stencil.Engine
import Stencil.Proofs.Reading.Template
import Stencil.Proofs.Relabel
import Stencil.Proofs.Scanning.ClosingBrace

/-!
# Expressions and programs in braces

An expression by itself and the template that has nothing but the expression in braces: the braces
move every token by one character and change nothing else, so that both have the same tree, and
evaluation and rendering answer the same (`Engine.execute_inBraces`). A closing brace in the expression
would end the program early; neither way is such a text accepted.
-/

namespace Stencil

open Stencil.Parser

/-! ## Tokens -/

/-- Only the place of a token changes as it is moved. -/
theorem Token.relabels_moved (distance : Nat) : Token.Relabels (Token.moved distance) :=
  fun _ => ⟨rfl, rfl⟩

/-- The same token further back. -/
def Token.movedBack (distance : Nat) (t : Token) : Token := { t with offset := t.offset - distance }

private theorem Token.relabels_movedBack (distance : Nat) : Token.Relabels (Token.movedBack distance) :=
  fun _ => ⟨rfl, rfl⟩

private theorem Token.movedBack_moved (distance : Nat) (t : Token) :
    (t.moved distance).movedBack distance = t := by
  obtain ⟨kind, text, offset⟩ := t
  show Token.mk kind text (offset + distance - distance) = _
  rw [Nat.add_sub_cancel]

/-- Blanks stay blanks. -/
theorem Token.Relabels.solid_map {f : Token → Token} (hf : Relabels f) (tokens : List Token) :
    Token.solid (tokens.map f) = (Token.solid tokens).map f := by
  induction tokens with
  | nil => rfl
  | cons t ts ih =>
    rw [List.map_cons]
    by_cases hblank : t.kind = .whitespace
    · rw [solid_of_blank (hf.kind.trans hblank), solid_of_blank hblank, ih]
    · have hblank' : (f t).kind ≠ .whitespace := fun h => hblank (hf.kind.symm.trans h)
      rw [solid_cons hblank', solid_cons hblank, ih, List.map_cons]

/-- Among tokens that are derived, but for blanks, none is a closing brace. -/
theorem Parser.Reads.ne_rBrace {next : Kind} {n : Nat} {tokens : List Token} {phrase : Phrase}
    (h : Reads next n (Token.solid tokens) phrase) : ∀ t ∈ tokens, t.kind ≠ .rBrace := by
  intro t ht hkind
  have hsolid : t ∈ Token.solid tokens :=
    List.mem_filter.mpr ⟨ht, decide_eq_true (by rw [hkind]; decide)⟩
  exact h.insideProgram t hsolid (by rw [hkind]; decide)

namespace Cursor

variable {source : List Char} {ts : List Token} {after : Cursor}

/-- In braces the tokens of a text stand further on, by what comes before the text. -/
theorem Scans.inBraces (mode : Mode) (offset : Nat) (tail : List Char)
    (h : Scans (.start .program source) ts after) (hend : after.rest = [])
    (hts : ∀ t ∈ ts, t.kind ≠ .rBrace) :
    ∃ closing, closing.kind = .rBrace ∧
      Scans ⟨mode, offset, '{' :: (source ++ '}' :: tail)⟩
        (⟨.lBrace, "\x7b", offset⟩ :: (ts.map (Token.moved (offset + 1)) ++ [closing]))
        ⟨.text, offset + source.length + 2, tail⟩ := by
  have hmoved : ∀ t ∈ ts.map (Token.moved (offset + 1)), t.kind ≠ .rBrace := by
    intro t ht
    obtain ⟨u, hu, rfl⟩ := List.mem_map.mp ht
    exact hts u hu
  have hlength := h.offset_add_length
  have hplace : (⟨.program, offset + 1, source ++ '}' :: tail⟩ : Cursor) =
      ((Cursor.start .program source).moved (offset + 1)).followedBy ('}' :: tail) := by
    show _ = Cursor.mk .program (0 + (offset + 1)) (source ++ '}' :: tail)
    rw [Nat.zero_add]
  obtain ⟨hmode, hscans⟩ := (h.moved (k := offset + 1)).followedBy tail rfl hmoved
  rw [← hplace] at hscans
  obtain ⟨mode', stop, rest⟩ := after
  obtain rfl : mode' = .program := hmode
  obtain rfl : rest = [] := hend
  obtain rfl : stop = source.length := by
    simpa only [Cursor.start, List.length_nil, Nat.add_zero, Nat.zero_add] using hlength
  refine ⟨⟨.rBrace, "\x7d", source.length + (offset + 1)⟩, rfl, ?_⟩
  refine .token (List.cons_ne_nil _ _) next_opening (hscans.append ?_)
  have hstop : source.length + (offset + 1) + 1 = offset + source.length + 2 := by omega
  exact .token (List.cons_ne_nil _ _) next_closing (hstop ▸ .refl)

/-- And there are no others, if only the last one is a closing brace. -/
theorem Scans.of_inBraces {opening closing : Token} {us : List Token}
    (h : Scans (.start .text ('{' :: (source ++ ['}']))) (opening :: (us ++ [closing])) after)
    (hend : after.rest = []) (hus : ∀ t ∈ us, t.kind ≠ .rBrace) :
    opening = ⟨.lBrace, "\x7b", 0⟩ ∧ ∃ ts stop, us = ts.map (Token.moved 1) ∧
      Scans (.start .program source) ts stop ∧ stop.rest = [] := by
  obtain ⟨mid, -, hnext, hmore⟩ := h.cons
  cases next_opening.symm.trans hnext
  have hplace : (⟨.program, 0 + 1, source ++ ['}']⟩ : Cursor) =
      ((Cursor.start .program source).moved 1).followedBy ['}'] := rfl
  rw [hplace] at hmore
  obtain ⟨stop, hscans, hstop⟩ := hmore.of_followedBy rfl hend hus
  obtain ⟨ts, stop', hscans', rfl, rfl⟩ := hscans.of_moved
  exact ⟨rfl, ts, stop', rfl, hscans', hstop⟩

end Cursor

/-! ## Trees -/

section
variable {source : List Char} {node child : Node}

/-- An expression is derived from its tokens, wherever it stands in braces. -/
theorem Node.exists_reads_of_ofText (h : ofText .program source = .ok node) :
    ∃ ts after n, Cursor.Scans (.start .program source) ts after ∧ after.rest = [] ∧
      (∀ t ∈ ts, t.kind ≠ .rBrace) ∧ n ≤ maxDepth ∧
      ∀ k, Reads .rBrace n (Token.solid (ts.map (Token.moved k)))
        (.statement (node.mapTokens (Token.moved k))) := by
  obtain ⟨hends, n, hn, hreads⟩ := ofSupply_program_eq_ok.mp h
  obtain ⟨after, hscans, hend⟩ := Token.Supply.ends_ofText.mp ⟨hends, rfl⟩
  refine ⟨_, after, n, hscans, hend, hreads.ne_rBrace, hn, fun k => ?_⟩
  have hmoved := Token.relabels_moved k
  rw [hmoved.solid_map]
  exact (hreads.mapTokens hmoved).inFrontOf .rBrace (by decide) nofun

/-- In braces an expression makes a template of one program, a character further on. -/
theorem Node.ofText_inBraces (h : ofText .program source = .ok node) :
    ofText .text ('{' :: (source ++ ['}'])) =
      .ok (.template ⟨.lBrace, "\x7b", 0⟩ [node.mapTokens (Token.moved 1)]) := by
  obtain ⟨ts, after, n, hscans, hend, hts, hn, hreads⟩ := exists_reads_of_ofText h
  obtain ⟨closing, hclosing, hscans'⟩ := hscans.inBraces .text 0 [] hend hts
  obtain ⟨hends', hfront⟩ := Token.Supply.ends_ofText.mpr ⟨_, hscans', rfl⟩
  refine ofSupply_text_eq_ok.mpr ⟨hends', _, _, ?_, ?_, rfl⟩
  · rw [Token.Supply.ofText_of_scans hscans' rfl]
    rfl
  · rw [hfront]
    exact .program rfl hn (hreads 1) hclosing .nil

/-- And a template of one program in braces is made by an expression. -/
theorem Node.exists_ofText_of_inBraces {token : Token}
    (h : ofText .text ('{' :: (source ++ ['}'])) = .ok (.template token [child])) :
    ∃ node, ofText .program source = .ok node ∧ child = node.mapTokens (Token.moved 1) := by
  obtain ⟨hends, _, nodes, -, hfragments, heq⟩ := ofSupply_text_eq_ok.mp h
  cases heq
  obtain ⟨after, hscans, hend⟩ := Token.Supply.ends_ofText.mp ⟨hends, rfl⟩
  generalize (Token.Supply.ofText .text ('{' :: (source ++ ['}']))).front = front at hfragments hscans
  cases hfragments with
  | text htext =>
    -- the first token is the opening brace
    obtain ⟨mid, -, hnext, -⟩ := hscans.cons
    cases Cursor.next_opening.symm.trans hnext
    cases htext
  | @program n opening closing us _ _ _ hopening hn hreads hclosing hmore =>
    cases hmore
    obtain ⟨rfl, ts, stop, rfl, hscans', hstop⟩ := hscans.of_inBraces hend hreads.ne_rBrace
    obtain ⟨hends', hfront⟩ := Token.Supply.ends_ofText.mpr ⟨stop, hscans', hstop⟩
    have hback := Token.relabels_movedBack 1
    have hstatement := (hreads.mapTokens hback).inFrontOf .eof (by decide) nofun
    have hinverse : (ts.map (Token.moved 1)).map (Token.movedBack 1) = ts := by
      have hid : Token.movedBack 1 ∘ Token.moved 1 = id := funext (Token.movedBack_moved 1)
      rw [List.map_map, hid, List.map_id]
    rw [← hback.solid_map, hinverse, ← hfront] at hstatement
    have hnode := ofSupply_program_eq_ok.mpr ⟨hends', n, hn, hstatement⟩
    have hsame := Except.ok.inj (h.symm.trans (ofText_inBraces hnode))
    simp only [Node.template.injEq, List.cons.injEq] at hsame
    exact ⟨_, hnode, hsame.2.1⟩

end

/-! ## Values -/

/-- The same error further on. -/
def RuntimeError.moved (distance : Nat) (e : RuntimeError) : RuntimeError :=
  { e with token := e.token.moved distance }

/-- A template of one program is rendered as the program is displayed. -/
theorem Evaluation.render_single (host : Host) (token : Token) (node : Node) :
    render host .stop (.template token [node]) = do return (← node.eval host).display := by
  funext bindings
  cases heval : node.eval host bindings with
  | ok v bindings' =>
    have hjoin : String.join [v.display] = v.display := String.empty_append
    simp only [render, fragments, fragment, bind, EStateM.bind, pure, EStateM.pure, heval, hjoin]
  | error e bindings' =>
    simp only [render, fragments, fragment, bind, EStateM.bind, heval]

namespace Engine

variable {source : List Char} {node : Node} {bindings : Bindings}

/-- Any value will do where a value is asked for. -/
theorem evaluate_of_ofText (host : Host) (h : Node.ofText .program source = .ok node) :
    evaluate host .value source = ofEvaluation (node.eval host) := by
  have hform (v : Value) : inForm .value node v = pure v := rfl
  rw [evaluate, h]
  show ofEvaluation (node.eval host >>= inForm .value node) = _
  rw [funext hform, bind_pure]

/-- A text is evaluated as the tree that its tokens make. -/
theorem evaluate_of_scans (host : Host) {ts : List Token} {after : Cursor} {n : Nat}
    (hscans : Cursor.Scans (.start .program source) ts after) (hend : after.rest = [])
    (hreads : Reads .eof n ts (.statement node)) (hn : n ≤ maxDepth) :
    evaluate host .value source = ofEvaluation (node.eval host) := by
  obtain ⟨hends, hfront⟩ := Token.Supply.ends_ofText.mpr ⟨after, hscans, hend⟩
  refine evaluate_of_ofText host (Node.ofSupply_program_eq_ok.mpr ⟨hends, n, hn, ?_⟩)
  have hsolid : Token.solid ts = ts :=
    Token.solid_eq_self fun t ht => (hreads.insideProgram t ht).not_blank
  rw [Token.Supply.significant, hfront, hsolid]
  exact hreads

/-- A text of one program and nothing else is worth what the program is worth. -/
private theorem execute_of_ofText (host : Host) {token : Token}
    (h : Node.ofText .text source = .ok (.template token [node])) :
    execute host .stop source = ofEvaluation do return (← node.eval host).display := by
  rw [execute, h, ← Evaluation.render_single host token]
  rfl

/-- **An expression and the template that has it in braces answer the same.** Either both read the same
tree, a character further on in the template, or the expression is no expression and the template not
one program; and with the same tree both succeed, with the same value and its written form, or both
fail, with the same error a character further on. The bindings are the same afterwards. -/
theorem execute_inBraces (host : Host) (source : List Char) :
    (∀ node, Node.ofText .program source = .ok node ↔
      ∃ token, Node.ofText .text ('{' :: (source ++ ['}'])) =
        .ok (.template token [node.mapTokens (Token.moved 1)])) ∧
    (∀ token child, Node.ofText .text ('{' :: (source ++ ['}'])) = .ok (.template token [child]) →
      ∃ node, Node.ofText .program source = .ok node ∧ child = node.mapTokens (Token.moved 1)) ∧
    ∀ node, Node.ofText .program source = .ok node → ∀ bindings,
      (∃ v after, evaluate host .value source bindings = .ok v after ∧
        execute host .stop ('{' :: (source ++ ['}'])) bindings = .ok v.display after) ∨
      ∃ e after, evaluate host .value source bindings = .error (.runtime e) after ∧
        execute host .stop ('{' :: (source ++ ['}'])) bindings =
          .error (.runtime (e.moved 1)) after := by
  refine ⟨fun node => ⟨fun h => ⟨_, Node.ofText_inBraces h⟩, ?_⟩,
    fun token child => Node.exists_ofText_of_inBraces, fun node h bindings => ?_⟩
  · rintro ⟨token, h⟩
    obtain ⟨node', hnode, hmoved⟩ := Node.exists_ofText_of_inBraces h
    have hback := congrArg (Node.mapTokens (Token.movedBack 1)) hmoved
    rw [Node.mapTokens_of_inverse (Token.movedBack_moved 1),
      Node.mapTokens_of_inverse (Token.movedBack_moved 1)] at hback
    exact hback ▸ hnode
  · have hmoved := Node.eval_mapTokens host (Token.relabels_moved 1) node
    rw [evaluate_of_ofText host h, execute_of_ofText host (Node.ofText_inBraces h), hmoved]
    cases heval : node.eval host bindings with
    | ok v after =>
      refine .inl ⟨v, after, ?_, ?_⟩
      · simp only [ofEvaluation, heval]
      · simp only [ofEvaluation, bind, EStateM.bind, pure, EStateM.pure, Evaluation.relabel, heval]
    | error e after =>
      refine .inr ⟨e, after, ?_, ?_⟩
      · simp only [ofEvaluation, heval]
      · simp only [ofEvaluation, bind, EStateM.bind, Evaluation.relabel, heval, RuntimeError.moved]

/-- A name that is not bound is an error both ways. -/
theorem execute_unbound_inBraces : ∃ e after,
    evaluate .empty .value ['x'] [] = .error (.runtime e) after ∧
      execute .empty .stop ['{', 'x', '}'] [] = .error (.runtime (e.moved 1)) after := by
  have hread : (Node.ofText .program ['x']).isOk = true := by decide +kernel
  have hfails : (match evaluate .empty .value ['x'] [] with
      | .ok _ _ => true
      | .error _ _ => false) = false := by decide +kernel
  cases hnode : Node.ofText .program ['x'] with
  | error e =>
    rw [hnode] at hread
    cases hread
  | ok node =>
    obtain ⟨v, after, heval, -⟩ | herror := (execute_inBraces .empty ['x']).2.2 node hnode []
    · rw [heval] at hfails
      cases hfails
    · exact herror

end Engine

end Stencil
