import Stencil.Proofs.Reading.Nodes
import Stencil.Proofs.Relabel
import Stencil.Proofs.Rendering
import Stencil.Tree.Alike
import Stencil.Tree.Rows
import Mathlib.Data.List.Forall2

/-!
# Trees that are alike do the same

Trees that are read off texts and are alike become one tree once it is forgotten where the tokens stand
(`Node.unplaced_of_alike`). The one thing that trees can hold besides tokens are literals, and a literal
that is read is what its token stands for. Since evaluation, rendering and the rows of a tree go by the
kinds and the texts of tokens, alike trees do the same: they are shown by the same rows, and they have
the same values, bind the same names and fail for the same reasons (`Node.congr_of_alike`). Where errors
are written into a template, the two texts may differ in the places that the errors name.
-/

namespace Stencil

/-! ## Without places -/

/-- The token, wherever it stands. -/
def Token.unplaced (t : Token) : Token := { t with offset := 0 }

/-- The error, wherever its token stands. -/
def RuntimeError.unplaced (e : RuntimeError) : RuntimeError := { e with token := e.token.unplaced }

namespace Token

variable {s t : Token}

private theorem relabels_unplaced : Relabels unplaced := fun _ => ⟨rfl, rfl⟩

/-- Tokens are alike where they are the same but for their places. -/
private theorem unplaced_eq_iff : s.unplaced = t.unplaced ↔ s.alike t = true := by
  simp only [unplaced, alike, mk.injEq, and_true, Bool.and_eq_true, beq_iff_eq]

end Token

/-- A value that the node holds is what its token stands for. -/
def Node.Literal (node : Node) : Prop :=
  ∀ value, node.literal? = some value → node.token.literal? = some value

namespace Node

/-- A tree that is read has no value that its token does not stand for. -/
theorem throughout_literal_of_ofSupply {mode : Mode} {supply : Token.Supply} {node : Node}
    (h : ofSupply mode supply = .ok node) : node.Throughout Literal := by
  have hliteral (inner : Node) (hinner : inner.FoundIn supply.front) : inner.Literal := hinner.literal
  obtain hfound | ⟨token, nodes, rfl, hfound⟩ := foundIn_of_ofSupply h
  · exact hfound.imp hliteral
  · exact .of_children nofun fun child hchild => (hfound child hchild).imp hliteral

/-- Alike tokens stand for the same value. -/
theorem value_of_alike {s t : Token} {x y : Stencil.Literal} (h : s.alike t = true)
    (hx : (terminal s x).Literal) (hy : (terminal t y).Literal) : x = y := by
  have hs : s.literal? = some x := hx x rfl
  have ht : t.literal? = some y := hy y rfl
  rw [← Token.relabels_unplaced.literal?, Token.unplaced_eq_iff.mpr h,
    Token.relabels_unplaced.literal?, ht] at hs
  exact (Option.some.inj hs).symm

end Node

open Token in
mutual
/-- **Alike trees are the same tree without places**, if the values that they hold are those of their
tokens. -/
theorem Node.unplaced_of_alike : (a b : Node) → a.alike b = true → a.Throughout Node.Literal →
    b.Throughout Node.Literal → a.mapTokens unplaced = b.mapTokens unplaced
  | .template s as, b, h, ha, hb => by
    cases b <;> simp only [Node.alike, Bool.false_eq_true, Bool.and_eq_true] at h
    case template t bs =>
      rw [Node.mapTokens, Node.mapTokens, unplaced_eq_iff.mpr h.1,
        Node.unplacedAll_of_alike as bs h.2 ha.forall_children hb.forall_children]
  -- that the values are the same follows from the tokens, as both trees were read
  | .terminal s x, b, h, ha, hb => by
    cases b <;> simp only [Node.alike, Bool.false_eq_true, Bool.and_eq_true] at h
    case terminal t y =>
      rw [Node.mapTokens, Node.mapTokens, unplaced_eq_iff.mpr h.1,
        Node.value_of_alike h.1 ha.root hb.root]
  | .null s, b, h, _, _ => by
    cases b <;> simp only [Node.alike, Bool.false_eq_true] at h
    case null t => rw [Node.mapTokens, Node.mapTokens, unplaced_eq_iff.mpr h]
  | .noOp s, b, h, _, _ => by
    cases b <;> simp only [Node.alike, Bool.false_eq_true] at h
    case noOp t => rw [Node.mapTokens, Node.mapTokens, unplaced_eq_iff.mpr h]
  | .access l ls, b, h, ha, hb => by
    cases b <;> simp only [Node.alike, Bool.false_eq_true, Bool.and_eq_true] at h
    case access m ms =>
      obtain ⟨hl, hls⟩ := ha.of_access
      obtain ⟨hm, hms⟩ := hb.of_access
      rw [Node.mapTokens, Node.mapTokens, Link.unplaced_of_alike l m h.1 hl hm,
        Link.unplacedAll_of_alike ls ms h.2 hls hms]
  | .binary op left right, b, h, ha, hb => by
    cases b <;> simp only [Node.alike, Bool.false_eq_true, Bool.and_eq_true] at h
    case binary op' left' right' =>
      obtain ⟨⟨hop, hleft⟩, hright⟩ := h
      rw [Node.mapTokens, Node.mapTokens, unplaced_eq_iff.mpr hop,
        Node.unplaced_of_alike left left' hleft ha.of_binary.1 hb.of_binary.1,
        Node.unplaced_of_alike right right' hright ha.of_binary.2 hb.of_binary.2]
  | .unary op operand, b, h, ha, hb => by
    cases b <;> simp only [Node.alike, Bool.false_eq_true, Bool.and_eq_true] at h
    case unary op' operand' =>
      rw [Node.mapTokens, Node.mapTokens, unplaced_eq_iff.mpr h.1,
        Node.unplaced_of_alike operand operand' h.2 (ha.forall_children _ List.mem_cons_self)
          (hb.forall_children _ List.mem_cons_self)]
  | .branch condition thenBody elseBody, b, h, ha, hb => by
    cases b <;> simp only [Node.alike, Bool.false_eq_true, Bool.and_eq_true] at h
    case branch condition' thenBody' elseBody' =>
      obtain ⟨⟨hcondition, hthen⟩, helse⟩ := h
      obtain ⟨hc, ht, he⟩ := ha.of_branch
      obtain ⟨hc', ht', he'⟩ := hb.of_branch
      rw [Node.mapTokens, Node.mapTokens,
        Node.unplaced_of_alike condition condition' hcondition hc hc',
        Node.unplaced_of_alike thenBody thenBody' hthen ht ht',
        Node.unplaced_of_alike elseBody elseBody' helse he he']
  | .each s item source body, b, h, ha, hb => by
    cases b <;> simp only [Node.alike, Bool.false_eq_true, Bool.and_eq_true] at h
    case each t item' source' body' =>
      obtain ⟨⟨⟨htoken, hitem⟩, hsource⟩, hbody⟩ := h
      obtain ⟨hi, hs, hinner⟩ := ha.of_each
      obtain ⟨hi', hs', hinner'⟩ := hb.of_each
      rw [Node.mapTokens, Node.mapTokens, unplaced_eq_iff.mpr htoken,
        Node.unplaced_of_alike item item' hitem hi hi',
        Node.unplaced_of_alike source source' hsource hs hs',
        Node.unplaced_of_alike body body' hbody hinner hinner']

private theorem Node.unplacedAll_of_alike : (as bs : List Node) → Node.allAlike as bs = true →
    (∀ node ∈ as, node.Throughout Node.Literal) → (∀ node ∈ bs, node.Throughout Node.Literal) →
    Node.mapTokensOfAll unplaced as = Node.mapTokensOfAll unplaced bs
  | [], bs, h, _, _ => by
    cases bs <;> simp only [Node.allAlike, Bool.false_eq_true] at h
    case nil => rfl
  | a :: as, bs, h, ha, hb => by
    cases bs <;> simp only [Node.allAlike, Bool.false_eq_true, Bool.and_eq_true] at h
    case cons b bs =>
      obtain ⟨ha, has⟩ := List.forall_mem_cons.mp ha
      obtain ⟨hb, hbs⟩ := List.forall_mem_cons.mp hb
      rw [Node.mapTokensOfAll, Node.mapTokensOfAll, Node.unplaced_of_alike a b h.1 ha hb,
        Node.unplacedAll_of_alike as bs h.2 has hbs]

private theorem Link.unplaced_of_alike : (l m : Link) → l.alike m = true →
    (∀ arg ∈ l.args, arg.Throughout Node.Literal) → (∀ arg ∈ m.args, arg.Throughout Node.Literal) →
    l.mapTokens unplaced = m.mapTokens unplaced
  | .bare s, m, h, _, _ => by
    cases m <;> simp only [Link.alike, Bool.false_eq_true] at h
    case bare t => rw [Link.mapTokens, Link.mapTokens, unplaced_eq_iff.mpr h]
  | .read s, m, h, _, _ => by
    cases m <;> simp only [Link.alike, Bool.false_eq_true] at h
    case read t => rw [Link.mapTokens, Link.mapTokens, unplaced_eq_iff.mpr h]
  | .call s as, m, h, hl, hm => by
    cases m <;> simp only [Link.alike, Bool.false_eq_true, Bool.and_eq_true] at h
    case call t bs =>
      rw [Link.mapTokens, Link.mapTokens, unplaced_eq_iff.mpr h.1,
        Node.unplacedAll_of_alike as bs h.2 hl hm]

private theorem Link.unplacedAll_of_alike : (ls ms : List Link) → Link.allAlike ls ms = true →
    (∀ node ∈ Node.ofMembers ls, node.Throughout Node.Literal) →
    (∀ node ∈ Node.ofMembers ms, node.Throughout Node.Literal) →
    Link.mapTokensOfAll unplaced ls = Link.mapTokensOfAll unplaced ms
  | [], ms, h, _, _ => by
    cases ms <;> simp only [Link.allAlike, Bool.false_eq_true] at h
    case nil => rfl
  | l :: ls, ms, h, ha, hb => by
    cases ms <;> simp only [Link.allAlike, Bool.false_eq_true, Bool.and_eq_true] at h
    case cons m ms =>
      obtain ⟨hl, hls⟩ := (ha _ List.mem_cons_self).of_access
      obtain ⟨hm, hms⟩ := (hb _ List.mem_cons_self).of_access
      rw [Link.mapTokensOfAll, Link.mapTokensOfAll, Link.unplaced_of_alike l m h.1 hl hm,
        Link.unplacedAll_of_alike ls ms h.2 hls hms]
end

/-! ## Rows -/

section
variable {f : Token → Token}

/-- The row with its token changed. -/
def Row.mapToken (f : Token → Token) (row : Row) : Row := { row with token := f row.token }

open Row in
mutual
/-- **A tree with changed tokens has the same rows** with changed tokens. -/
theorem Node.rows_mapTokens : (node : Node) → (depth : Nat) →
    (node.mapTokens f).rows depth = (node.rows depth).map (mapToken f)
  | .template token children, depth => by
    rw [Node.mapTokens, Node.rows, Node.rows, Node.rowsOfAll_mapTokens children]
    rfl
  | .terminal _ _, _ | .null _, _ | .noOp _, _ => by
    rw [Node.mapTokens, Node.rows, Node.rows]
    rfl
  | .access head members, depth => by
    rw [Node.mapTokens, Node.rows, Node.rows, List.map_append, Link.rows_mapTokens head,
      Link.rowsOfAll_mapTokens members]
  | .binary op left right, depth => by
    rw [Node.mapTokens, Node.rows, Node.rows, List.map_cons, List.map_append,
      Node.rows_mapTokens left, Node.rows_mapTokens right]
    rfl
  | .unary op operand, depth => by
    rw [Node.mapTokens, Node.rows, Node.rows, List.map_cons, Node.rows_mapTokens operand]
    rfl
  | .branch condition thenBody elseBody, depth => by
    rw [Node.mapTokens, Node.rows, Node.rows, List.map_cons, List.map_append, List.map_append,
      Node.rows_mapTokens condition, Node.rows_mapTokens thenBody, Node.rows_mapTokens elseBody,
      condition.token_mapTokens]
    rfl
  | .each token item source body, depth => by
    rw [Node.mapTokens, Node.rows, Node.rows, List.map_cons, List.map_append, List.map_append,
      Node.rows_mapTokens item, Node.rows_mapTokens source, Node.rows_mapTokens body]
    rfl

private theorem Node.rowsOfAll_mapTokens : (nodes : List Node) → (depth : Nat) →
    Node.rowsOfAll depth (Node.mapTokensOfAll f nodes) =
      (Node.rowsOfAll depth nodes).map (mapToken f)
  | [], _ => by
    rw [Node.mapTokensOfAll, Node.rowsOfAll]
    rfl
  | node :: nodes, depth => by
    rw [Node.mapTokensOfAll, Node.rowsOfAll, Node.rowsOfAll, List.map_append,
      Node.rows_mapTokens node, Node.rowsOfAll_mapTokens nodes]

private theorem Link.rows_mapTokens : (link : Link) → (depth : Nat) →
    (link.mapTokens f).rows depth = (link.rows depth).map (mapToken f)
  | .bare _, _ | .read _, _ => by
    rw [Link.mapTokens, Link.rows, Link.rows]
    rfl
  | .call token args, depth => by
    rw [Link.mapTokens, Link.rows, Link.rows, List.map_cons, Node.rowsOfAll_mapTokens args]
    rfl

private theorem Link.rowsOfAll_mapTokens : (links : List Link) → (depth : Nat) →
    Link.rowsOfAll depth (Link.mapTokensOfAll f links) =
      (Link.rowsOfAll depth links).map (mapToken f)
  | [], _ => by
    rw [Link.mapTokensOfAll, Link.rowsOfAll]
    rfl
  | link :: links, depth => by
    rw [Link.mapTokensOfAll, Link.rowsOfAll, Link.rowsOfAll, List.map_append,
      Link.rows_mapTokens link, Link.rowsOfAll_mapTokens links]
end

/-- **Where tokens stand is not shown.** -/
theorem Node.dump_mapTokens (hf : Token.Relabels f) (node : Node) :
    (node.mapTokens f).dump = node.dump := by
  rw [dump, dump, rows_mapTokens, List.map_map]
  refine congrArg String.join (List.map_congr_left fun row _ => ?_)
  have htext : (f row.token).text = row.token.text := (hf row.token).2
  simp only [Function.comp_apply, Row.mapToken, htext]

end

/-! ## Outcomes -/

namespace Evaluation

/-- **The same outcome, wherever the token of an error stands**: either both have answers, which are related,
or both fail for the same reason, and the bindings are the same afterwards. -/
def SameUpToPlaces {α : Type} (R : α → α → Prop) :
    EStateM.Result RuntimeError Bindings α → EStateM.Result RuntimeError Bindings α → Prop
  | .ok a b, .ok a' b' => R a a' ∧ b = b'
  | .error e b, .error e' b' => e.unplaced = e'.unplaced ∧ b = b'
  | _, _ => False

/-- What is written for the fragments of two templates that are evaluated side by side, where the wording of
an error takes the place of a fragment. Two fragments begin with the same bindings. Either both have the
same value, which is written, or both fail for the same reason, and each error is worded with its own
place; and both leave the same bindings to the fragments behind them. -/
inductive AlikeFragments (host : Host) :
    Bindings → List Node → List Node → List String → List String → Prop
  | nil {b : Bindings} : AlikeFragments host b [] [] [] []
  | value {b m : Bindings} {node node' : Node} {nodes nodes' : List Node} {texts texts' : List String}
      {v : Value} : node.eval host b = .ok v m → node'.eval host b = .ok v m →
      AlikeFragments host m nodes nodes' texts texts' →
      AlikeFragments host b (node :: nodes) (node' :: nodes') (v.display :: texts) (v.display :: texts')
  | message {b m : Bindings} {node node' : Node} {nodes nodes' : List Node} {texts texts' : List String}
      {e e' : RuntimeError} : node.eval host b = .error e m → node'.eval host b = .error e' m →
      e.unplaced = e'.unplaced → AlikeFragments host m nodes nodes' texts texts' →
      AlikeFragments host b (node :: nodes) (node' :: nodes') (e.message :: texts) (e'.message :: texts')

/-- What is written for two trees: for two templates what is written for their fragments, and else the same
text. -/
inductive AlikeTexts (host : Host) (b : Bindings) : Node → Node → String → String → Prop
  | template {token token' : Token} {nodes nodes' : List Node} {texts texts' : List String} :
      AlikeFragments host b nodes nodes' texts texts' →
      AlikeTexts host b (.template token nodes) (.template token' nodes') (String.join texts)
        (String.join texts')
  | same {a a' : Node} (text : String) : (∀ token nodes, a ≠ .template token nodes) →
      AlikeTexts host b a a' text text

section
variable {α β : Type} {R : α → α → Prop} {S : β → β → Prop} {host : Host} {b : Bindings}

/-- Evaluations that are the same once places are forgotten have the same outcome up to places. -/
theorem SameUpToPlaces.of_relabel {e e' : Evaluation α}
    (h : relabel Token.unplaced e = relabel Token.unplaced e') (b : Bindings) :
    SameUpToPlaces Eq (e b) (e' b) := by
  have hb := congrFun h b
  unfold relabel at hb
  cases he : e b <;> cases he' : e' b <;>
    simp only [he, he', reduceCtorEq, EStateM.Result.ok.injEq, EStateM.Result.error.injEq] at hb
  · exact hb
  · exact hb

/-- Values that are related are the same outcome. -/
theorem SameUpToPlaces.pure {a a' : α} (h : R a a') :
    SameUpToPlaces R ((pure a : Evaluation α) b) ((pure a' : Evaluation α) b) :=
  ⟨h, rfl⟩

/-- It is the same outcome where both go on in ways that have the same outcome. -/
theorem SameUpToPlaces.bind {p p' : Evaluation α} {k k' : α → Evaluation β}
    (h : SameUpToPlaces R (p b) (p' b))
    (hk : ∀ a a' m, R a a' → SameUpToPlaces S (k a m) (k' a' m)) :
    SameUpToPlaces S ((p >>= k) b) ((p' >>= k') b) := by
  cases hp : p b with
  | ok a m =>
    cases hp' : p' b with
    | ok a' m' =>
      rw [hp, hp'] at h
      obtain ⟨hR, rfl⟩ := h
      rw [bind_of_ok hp, bind_of_ok hp']
      exact hk a a' m hR
    | error e' m' =>
      rw [hp, hp'] at h
      exact h.elim
  | error e m =>
    cases hp' : p' b with
    | ok a' m' =>
      rw [hp, hp'] at h
      exact h.elim
    | error e' m' =>
      rw [hp, hp'] at h
      rw [bind_of_error hp, bind_of_error hp']
      exact h

/-- A fragment that fails fails alike, where rendering stops at it. -/
theorem SameUpToPlaces.fragment {e e' : Evaluation Value} (h : SameUpToPlaces Eq (e b) (e' b)) :
    SameUpToPlaces Eq (fragment .stop e b) (fragment .stop e' b) := by
  unfold Evaluation.fragment
  cases he : e b <;> cases he' : e' b <;> rw [he, he'] at h
  · obtain ⟨rfl, rfl⟩ := h
    exact ⟨rfl, rfl⟩
  · exact h.elim
  · exact h.elim
  · exact h

/-- Trees that are the same once places are forgotten have the same value up to places. -/
theorem sameUpToPlaces_eval {a a' : Node}
    (h : a.mapTokens Token.unplaced = a'.mapTokens Token.unplaced)
    (b : Bindings) : SameUpToPlaces Eq (a.eval host b) (a'.eval host b) := by
  refine .of_relabel ?_ b
  rw [← Node.eval_mapTokens host Token.relabels_unplaced, h,
    Node.eval_mapTokens host Token.relabels_unplaced]

/-- So have fragments, one after the other, up to the first that fails. -/
theorem sameUpToPlaces_fragments : {nodes nodes' : List Node} →
    Node.mapTokensOfAll Token.unplaced nodes = Node.mapTokensOfAll Token.unplaced nodes' →
    (b : Bindings) → SameUpToPlaces Eq (fragments host .stop nodes b) (fragments host .stop nodes' b)
  | [], [], _, _ => .pure rfl
  | node :: nodes, node' :: nodes', h, b => by
    simp only [Node.mapTokensOfAll, List.cons.injEq] at h
    rw [fragments, fragments]
    refine (sameUpToPlaces_eval h.1 b).fragment.bind fun first first' m hfirst => ?_
    refine (sameUpToPlaces_fragments h.2 m).bind fun rest rest' m' hrest => ?_
    exact .pure (by rw [hfirst, hrest])
  | [], _ :: _, h, _ => by simp only [Node.mapTokensOfAll, reduceCtorEq] at h
  | _ :: _, [], h, _ => by simp only [Node.mapTokensOfAll, reduceCtorEq] at h

/-- Where rendering goes on behind errors, all fragments are written, and they are written alike. -/
theorem alikeFragments_run : {nodes nodes' : List Node} →
    Node.mapTokensOfAll Token.unplaced nodes = Node.mapTokensOfAll Token.unplaced nodes' →
    (b : Bindings) → ∃ texts texts' m, fragments host .substitute nodes b = .ok texts m ∧
      fragments host .substitute nodes' b = .ok texts' m ∧ AlikeFragments host b nodes nodes' texts texts'
  | [], [], _, b => ⟨[], [], b, rfl, rfl, .nil⟩
  | node :: nodes, node' :: nodes', h, b => by
    simp only [Node.mapTokensOfAll, List.cons.injEq] at h
    have hfirst : SameUpToPlaces Eq (node.eval host b) (node'.eval host b) := sameUpToPlaces_eval h.1 b
    cases hnode : node.eval host b with
    | ok v m =>
      cases hnode' : node'.eval host b with
      | ok v' m' =>
        rw [hnode, hnode'] at hfirst
        obtain ⟨rfl, rfl⟩ := hfirst
        obtain ⟨texts, texts', last, hrun, hrun', hrest⟩ := alikeFragments_run h.2 m
        exact ⟨v.display :: texts, v.display :: texts', last,
          fragments_cons (fragment_of_ok .substitute hnode) hrun,
          fragments_cons (fragment_of_ok .substitute hnode') hrun', .value hnode hnode' hrest⟩
      | error e m' =>
        rw [hnode, hnode'] at hfirst
        exact hfirst.elim
    | error e m =>
      cases hnode' : node'.eval host b with
      | ok v' m' =>
        rw [hnode, hnode'] at hfirst
        exact hfirst.elim
      | error e' m' =>
        rw [hnode, hnode'] at hfirst
        obtain ⟨hsame, rfl⟩ := hfirst
        obtain ⟨texts, texts', last, hrun, hrun', hrest⟩ := alikeFragments_run h.2 m
        exact ⟨e.message :: texts, e'.message :: texts', last,
          fragments_cons (fragment_substitute_of_error hnode) hrun,
          fragments_cons (fragment_substitute_of_error hnode') hrun',
          .message hnode hnode' hsame hrest⟩
  -- templates that are alike are of one length
  | [], _ :: _, h, _ => by simp only [Node.mapTokensOfAll, reduceCtorEq] at h
  | _ :: _, [], h, _ => by simp only [Node.mapTokensOfAll, reduceCtorEq] at h

/-- What is no template is rendered as its value is displayed. -/
theorem render_of_ne_template {onError : OnError} {node : Node}
    (h : ∀ token nodes, node ≠ .template token nodes) :
    render host onError node = do return (← node.eval host).display := by
  cases node with
  | template token nodes => exact absurd rfl (h token nodes)
  | _ => rfl

end

end Evaluation

/-! ## Trees -/

namespace Node

open Evaluation

variable {host : Host} {a a' : Node}

/-- Of trees that are the same once places are forgotten both are templates or neither is. -/
theorem template_of_mapTokens {token : Token} {nodes : List Node}
    (h : a.mapTokens Token.unplaced = (template token nodes).mapTokens Token.unplaced) :
    ∃ token' nodes', a = .template token' nodes' ∧
      mapTokensOfAll Token.unplaced nodes' = mapTokensOfAll Token.unplaced nodes := by
  cases a <;> simp only [mapTokens, reduceCtorEq, template.injEq] at h
  case template token' nodes' => exact ⟨token', nodes', rfl, h.2⟩

/-- Trees that are the same once places are forgotten are rendered alike, up to the first error. -/
theorem sameUpToPlaces_render (h : a.mapTokens Token.unplaced = a'.mapTokens Token.unplaced)
    (b : Bindings) : SameUpToPlaces Eq (render host .stop a b) (render host .stop a' b) := by
  by_cases htemplate : ∃ token nodes, a' = .template token nodes
  · obtain ⟨token, nodes, rfl⟩ := htemplate
    obtain ⟨token', nodes', rfl, hnodes⟩ := template_of_mapTokens h
    refine (sameUpToPlaces_fragments hnodes b).bind fun texts texts' m htexts => ?_
    exact .pure (congrArg String.join htexts)
  · have ha' : ∀ token nodes, a' ≠ .template token nodes :=
      fun token nodes heq => htemplate ⟨token, nodes, heq⟩
    have ha : ∀ token nodes, a ≠ .template token nodes := by
      rintro token nodes rfl
      obtain ⟨token', nodes', heq, -⟩ := template_of_mapTokens h.symm
      exact ha' token' nodes' heq
    rw [render_of_ne_template ha, render_of_ne_template ha']
    exact (sameUpToPlaces_eval h b).bind fun v v' m hv => .pure (congrArg Value.display hv)

/-- So are they where rendering goes on behind errors, fragment by fragment. -/
theorem sameUpToPlaces_substitute (h : a.mapTokens Token.unplaced = a'.mapTokens Token.unplaced)
    (b : Bindings) : SameUpToPlaces (AlikeTexts host b a a') (render host .substitute a b)
      (render host .substitute a' b) := by
  by_cases htemplate : ∃ token nodes, a' = .template token nodes
  · obtain ⟨token, nodes, rfl⟩ := htemplate
    obtain ⟨token', nodes', rfl, hnodes⟩ := template_of_mapTokens h
    obtain ⟨texts, texts', m, hrun, hrun', halike⟩ := alikeFragments_run hnodes b
    rw [render, render, bind_of_ok hrun, bind_of_ok hrun']
    exact ⟨.template halike, rfl⟩
  · have ha' : ∀ token nodes, a' ≠ .template token nodes :=
      fun token nodes heq => htemplate ⟨token, nodes, heq⟩
    have ha : ∀ token nodes, a ≠ .template token nodes := by
      rintro token nodes rfl
      obtain ⟨token', nodes', heq, -⟩ := template_of_mapTokens h.symm
      exact ha' token' nodes' heq
    rw [render_of_ne_template ha, render_of_ne_template ha']
    refine (sameUpToPlaces_eval h b).bind fun v v' m hv => ?_
    exact .pure (hv ▸ .same v.display ha)

variable {mode mode' : Mode} {supply supply' : Token.Supply}

/-- **Alike trees do the same.** Of two trees that are read, from whatever tokens, and are alike, the rows
are the same. Whatever is bound, both have the same value, or both fail for the same reason, and the
bindings are the same afterwards; so it is when they are rendered. With the wording of errors in the
place of fragments the texts are the same, fragment by fragment, but for the places in the wordings of the
errors with which both fail. -/
theorem congr_of_alike (host : Host) (ha : ofSupply mode supply = .ok a)
    (ha' : ofSupply mode' supply' = .ok a') (h : a.alike a' = true) :
    a.dump = a'.dump ∧ ∀ b,
      SameUpToPlaces Eq (a.eval host b) (a'.eval host b) ∧
      SameUpToPlaces Eq (render host .stop a b) (render host .stop a' b) ∧
      SameUpToPlaces (AlikeTexts host b a a') (render host .substitute a b)
        (render host .substitute a' b) := by
  have hsame : a.mapTokens Token.unplaced = a'.mapTokens Token.unplaced :=
    unplaced_of_alike a a' h (throughout_literal_of_ofSupply ha) (throughout_literal_of_ofSupply ha')
  refine ⟨?_, fun b => ⟨sameUpToPlaces_eval hsame b, sameUpToPlaces_render hsame b,
    sameUpToPlaces_substitute hsame b⟩⟩
  rw [← dump_mapTokens Token.relabels_unplaced, hsame, dump_mapTokens Token.relabels_unplaced]

/-- Blanks in the braces make no difference but for the place of a name that is not bound. -/
theorem congr_of_alike_blanks : ∃ a a',
    ofText .text "{1 + x}!".toList = .ok a ∧ ofText .text "{ 1+x }!".toList = .ok a' ∧
      a.alike a' = true ∧ a.dump = a'.dump ∧ ∀ host b,
        SameUpToPlaces Eq (a.eval host b) (a'.eval host b) ∧
        SameUpToPlaces (AlikeTexts host b a a') (render host .substitute a b)
          (render host .substitute a' b) := by
  have hfound : (match ofText .text "{1 + x}!".toList, ofText .text "{ 1+x }!".toList with
      | .ok a, .ok a' => a.alike a'
      | _, _ => false) = true := by decide +kernel
  split at hfound
  · next a a' ha ha' =>
    have hcongr (host : Host) := congr_of_alike host ha ha' hfound
    exact ⟨a, a', ha, ha', hfound, (hcongr .empty).1,
      fun host b => ⟨((hcongr host).2 b).1, ((hcongr host).2 b).2.2⟩⟩
  · cases hfound

end Node

end Stencil
