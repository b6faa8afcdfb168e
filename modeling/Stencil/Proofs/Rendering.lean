import Stencil.Evaluation
import Stencil.Proofs.Steps

/-!
# Two ways with errors

A template has a value, and it is rendered, either up to the first fragment that fails or with the wording
of errors in the place of such fragments. All three go through the fragments from the left and hand the
bindings on, so that they agree as long as no fragment fails (`Evaluation.fragments_append`), and which
fragment is the first to fail is the same for them (`Evaluation.evalAll_cases`). What becomes of the
template then is said by `Evaluation.render_both_ways`.
-/

namespace Stencil.Evaluation

variable {host : Host} {onError : OnError} {e : Evaluation Value} {node : Node}
  {nodes before after more : List Node} {v : Value} {values : List Value} {err : RuntimeError}
  {token : Token} {b b₁ b' : Bindings}

/-! ## One fragment -/

/-- The value of a fragment is written. -/
theorem fragment_of_ok (onError : OnError) (h : e b = .ok v b') :
    fragment onError e b = .ok v.display b' := by
  unfold fragment
  rw [h]

/-- A fragment that fails ends a rendering that stops at errors. -/
theorem fragment_stop_of_error (h : e b = .error err b') : fragment .stop e b = .error err b' := by
  unfold fragment
  rw [h]

/-- In one that substitutes, the error is written in its place. -/
theorem fragment_substitute_of_error (h : e b = .error err b') :
    fragment .substitute e b = .ok err.message b' := by
  unfold fragment
  rw [h]

/-- Where errors are substituted, there is something for every fragment. -/
theorem exists_fragment_substitute (e : Evaluation Value) (b : Bindings) :
    ∃ text b', fragment .substitute e b = .ok text b' := by
  cases h : e b with
  | ok v b' => exact ⟨_, _, fragment_of_ok .substitute h⟩
  | error err b' => exact ⟨_, _, fragment_substitute_of_error h⟩

/-! ## Fragments in a row -/

/-- **Either all nodes have values, or one of them is the first that has none.** -/
theorem evalAll_cases (host : Host) (nodes : List Node) (b : Bindings) :
    (∃ values b', Node.evalAll host nodes b = .ok values b') ∨
      ∃ before node after values b₁ err b', nodes = before ++ node :: after ∧
        Node.evalAll host before b = .ok values b₁ ∧ node.eval host b₁ = .error err b' := by
  induction nodes generalizing b with
  | nil => exact .inl ⟨[], b, rfl⟩
  | cons node nodes ih =>
    cases hnode : node.eval host b with
    | error err b' => exact .inr ⟨[], node, nodes, [], b, err, b', rfl, rfl, hnode⟩
    | ok v m =>
      obtain ⟨values, b', hvalues⟩ | ⟨before, failing, after, values, b₁, err, b', rfl, hvalues, herr⟩ :=
        ih m
      · refine .inl ⟨v :: values, b', ?_⟩
        rw [Node.evalAll, bind_of_ok hnode, bind_of_ok hvalues]
        rfl
      · refine .inr ⟨node :: before, failing, after, v :: values, b₁, err, b', rfl, ?_, herr⟩
        rw [Node.evalAll, bind_of_ok hnode, bind_of_ok hvalues]
        rfl

/-- The first node that has no value is where evaluation fails. -/
theorem evalAll_of_error (hbefore : Node.evalAll host before b = .ok values b₁)
    (hnode : node.eval host b₁ = .error err b') :
    Node.evalAll host (before ++ node :: after) b = .error err b' := by
  induction before generalizing b values with
  | nil =>
    obtain ⟨rfl, rfl⟩ := EStateM.Result.ok.inj hbefore
    rw [List.nil_append, Node.evalAll, bind_of_error hnode]
  | cons first before ih =>
    rw [Node.evalAll] at hbefore
    obtain ⟨v, m, hfirst, hrest⟩ := bind_eq_ok.mp hbefore
    obtain ⟨values', m', hvalues, hpure⟩ := bind_eq_ok.mp hrest
    obtain ⟨-, rfl⟩ := pure_eq_ok.mp hpure
    rw [List.cons_append, Node.evalAll, bind_of_ok hfirst, bind_of_error (ih hvalues)]

/-- **Nodes that have values are rendered as their written forms**, whatever is done where others fail,
and rendering goes on with the bindings that they leave. -/
theorem fragments_append (onError : OnError) (more : List Node)
    (h : Node.evalAll host before b = .ok values b₁) :
    fragments host onError (before ++ more) b =
      (do return Value.displays values ++ (← fragments host onError more)) b₁ := by
  induction before generalizing b values with
  | nil =>
    obtain ⟨rfl, rfl⟩ := EStateM.Result.ok.inj h
    simp only [List.nil_append, Value.displays, bind_pure]
  | cons node before ih =>
    rw [Node.evalAll] at h
    obtain ⟨v, m, hnode, hrest⟩ := bind_eq_ok.mp h
    obtain ⟨values', m', hvalues, hpure⟩ := bind_eq_ok.mp hrest
    obtain ⟨rfl, rfl⟩ := pure_eq_ok.mp hpure
    rw [List.cons_append, fragments, bind_of_ok (fragment_of_ok onError hnode),
      bind_of_eq (ih hvalues)]
    simp only [bind_assoc, pure_bind, Value.displays, List.cons_append]

/-- What is written for a fragment stands before what is written for those behind it. -/
theorem fragments_cons {text : String} {texts : List String}
    (hfirst : fragment onError (node.eval host) b = .ok text b₁)
    (hrest : fragments host onError nodes b₁ = .ok texts b') :
    fragments host onError (node :: nodes) b = .ok (text :: texts) b' := by
  rw [fragments, bind_of_ok hfirst, bind_of_ok hrest]
  rfl

/-- Where errors are substituted, fragments do not fail. -/
theorem exists_fragments_substitute (host : Host) (nodes : List Node) (b : Bindings) :
    ∃ texts b', fragments host .substitute nodes b = .ok texts b' := by
  induction nodes generalizing b with
  | nil => exact ⟨[], b, rfl⟩
  | cons node nodes ih =>
    obtain ⟨text, m, hnode⟩ := exists_fragment_substitute (node.eval host) b
    obtain ⟨texts, b', hnodes⟩ := ih m
    exact ⟨text :: texts, b', fragments_cons hnode hnodes⟩

/-! ## Templates -/

private theorem render_of_fragments {texts : List String}
    (h : fragments host onError nodes b = .ok texts b') :
    render host onError (.template token nodes) b = .ok (String.join texts) b' := by
  rw [render, bind_of_ok h]
  rfl

/-- Where errors are substituted, no template fails. -/
theorem exists_render_substitute (host : Host) (token : Token) (nodes : List Node) (b : Bindings) :
    ∃ out b', render host .substitute (.template token nodes) b = .ok out b' := by
  obtain ⟨texts, b', htexts⟩ := exists_fragments_substitute host nodes b
  exact ⟨_, b', render_of_fragments htexts⟩

/-- Behind the first fragment that fails, substitution goes on with the bindings that it has left. -/
theorem render_substitute_of_error {rest : String} {b'' : Bindings}
    (hbefore : Node.evalAll host before b = .ok values b₁)
    (hnode : node.eval host b₁ = .error err b')
    (hafter : render host .substitute (.template token after) b' = .ok rest b'') :
    render host .substitute (.template token (before ++ node :: after)) b =
      .ok (String.join (Value.displays values) ++ err.message ++ rest) b'' := by
  obtain ⟨texts, m, htexts, hjoin⟩ := bind_eq_ok.mp hafter
  obtain ⟨rfl, rfl⟩ := pure_eq_ok.mp hjoin
  have hfragments : fragments host .substitute (before ++ node :: after) b =
      .ok (Value.displays values ++ err.message :: texts) m := by
    rw [fragments_append .substitute _ hbefore, fragments, bind_assoc,
      bind_of_ok (fragment_substitute_of_error hnode), bind_assoc, bind_of_ok htexts]
    rfl
  rw [render_of_fragments hfragments, String.join_append, String.join_cons, String.append_assoc]

/-- **Both ways to render a template agree with its value, up to the first fragment that fails.** If
rendering does not stop, the other way gives the same text and evaluation that text for a value, with
the same bindings left. If it stops at a fragment, evaluation fails with the same error and leaves
the same bindings, and the other way gives the written forms of the fragments before it, the wording of
the error, and what it gives for the fragments behind it from there. So the other way never fails. -/
theorem render_both_ways (host : Host) (token : Token) (nodes : List Node) (b : Bindings) :
    (match render host .stop (.template token nodes) b with
    | .ok out b' =>
      render host .substitute (.template token nodes) b = .ok out b' ∧
        (Node.template token nodes).eval host b = .ok (.text out) b'
    | .error err b' =>
      (Node.template token nodes).eval host b = .error err b' ∧
        ∃ before node after values b₁ rest b'', nodes = before ++ node :: after ∧
          Node.evalAll host before b = .ok values b₁ ∧ node.eval host b₁ = .error err b' ∧
          render host .substitute (.template token after) b' = .ok rest b'' ∧
          render host .substitute (.template token nodes) b =
            .ok (String.join (Value.displays values) ++ err.message ++ rest) b'') ∧
    ∃ out b', render host .substitute (.template token nodes) b = .ok out b' := by
  refine ⟨?_, exists_render_substitute host token nodes b⟩
  obtain ⟨values, b', hvalues⟩ | ⟨before, node, after, values, b₁, err, b', rfl, hbefore, hnode⟩ :=
    evalAll_cases host nodes b
  · have hrender (onError : OnError) : render host onError (.template token nodes) b =
        .ok (String.join (Value.displays values)) b' := by
      have hfragments := fragments_append onError [] hvalues
      rw [List.append_nil] at hfragments
      refine render_of_fragments (hfragments.trans ?_)
      rw [fragments, pure_bind, List.append_nil]
      rfl
    rw [hrender .stop]
    refine ⟨hrender .substitute, ?_⟩
    rw [Node.eval, bind_of_ok hvalues]
    rfl
  · have hstop : render host .stop (.template token (before ++ node :: after)) b = .error err b' := by
      rw [render, bind_of_error]
      rw [fragments_append .stop _ hbefore, fragments, bind_assoc,
        bind_of_error (fragment_stop_of_error hnode)]
    obtain ⟨rest, b'', hafter⟩ := exists_render_substitute host token after b'
    rw [hstop]
    refine ⟨?_, before, node, after, values, b₁, rest, b'', rfl, hbefore, hnode, hafter,
      render_substitute_of_error hbefore hnode hafter⟩
    rw [Node.eval, bind_of_error (evalAll_of_error hbefore hnode)]

end Stencil.Evaluation
