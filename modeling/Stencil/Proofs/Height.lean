import Stencil.Proofs.Reading.Template

/-!
# How tall a tree may get

The cap on levels does not bound the height of a tree: what operators in a row have entered is left
again at the end of the row, while the row itself becomes the leftmost branch of the tree. What is
capped are the nodes along a path of which those are not counted that have an operator and are left
for their left operand (`Node.extent_le_of_ofSupply`). So a tree is within the cap exactly if the left
operands of its operators are (`Node.height_le_iff_of_ofSupply`). With those, there may be as many nodes
along a path as `(Reach.within 1 256).statement`, which is 48898, and trees as tall as that are read
(`Node.exists_ofSupply_height`).
-/

namespace Stencil

/-! ## Extents -/

mutual
/-- The greatest number of nodes along a path, where an operator that is left for its left operand
counts as `w`. -/
def Node.extent (w : Nat) : Node → Nat
  | .template _ children => 1 + Node.extentOfAll w children
  | .terminal _ _ | .null _ | .noOp _ => 1
  | .access head members => 1 + max (head.extent w) (Link.extentOfAll w members)
  | .binary _ left right => max (w + left.extent w) (1 + right.extent w)
  | .unary _ operand => 1 + operand.extent w
  | .branch condition thenBody elseBody =>
    1 + max (condition.extent w) (max (thenBody.extent w) (elseBody.extent w))
  | .each _ item source body => 1 + max (item.extent w) (max (source.extent w) (body.extent w))
/-- The greatest extent of trees side by side. -/
def Node.extentOfAll (w : Nat) : List Node → Nat
  | [] => 0
  | node :: nodes => max (node.extent w) (Node.extentOfAll w nodes)
/-- The greatest extent of a link's arguments. -/
def Link.extent (w : Nat) : Link → Nat
  | .bare _ | .read _ => 0
  | .call _ args => Node.extentOfAll w args
/-- The extent of links of which each lies below the one before it. -/
def Link.extentOfAll (w : Nat) : List Link → Nat
  | [] => 0
  | link :: links => 1 + max (link.extent w) (Link.extentOfAll w links)
end

namespace Node

/-- The number of nodes on the longest path down a tree. -/
def height (node : Node) : Nat := node.extent 1

private theorem extentOfAll_append (w : Nat) (nodes more : List Node) :
    extentOfAll w (nodes ++ more) = max (extentOfAll w nodes) (extentOfAll w more) := by
  induction nodes with
  | nil => rw [List.nil_append, extentOfAll, Nat.zero_max]
  | cons node nodes ih => rw [List.cons_append, extentOfAll, extentOfAll, ih, Nat.max_assoc]

/-- The arguments of members reach as far as the members do. -/
private theorem extentOfAll_ofMembers (w : Nat) (members : List Link) :
    extentOfAll w (ofMembers members) = Link.extentOfAll w members := by
  cases members with
  | nil => rfl
  | cons link links => rw [ofMembers, extentOfAll, extentOfAll, extent, Link.extentOfAll, Nat.max_zero]

/-- An extent is one more than the greatest one of an operand, if a node that is left for its left
operand counts as one or is none of an operator. -/
theorem extent_eq {w : Nat} {node : Node} (h : w = 1 ∨ ∀ op left right, node ≠ .binary op left right) :
    node.extent w = 1 + extentOfAll w node.children := by
  cases node with
  | access head members =>
    rw [children, extentOfAll_append, extentOfAll_ofMembers, extent]
    cases head <;> rfl
  | template | terminal | null | noOp => rfl
  | binary op left right =>
    obtain rfl : w = 1 := h.resolve_right fun hne => hne op left right rfl
    rw [extent, children, extentOfAll, extentOfAll, extentOfAll, Nat.max_zero, Nat.add_max_add_left]
  | unary | branch | each =>
    simp only [extent, children, extentOfAll]
    omega

/-- **A tree is one node taller than the tallest of its operands.** -/
theorem height_eq (node : Node) :
    node.height = 1 + (node.children.map height).foldr max 0 := by
  have hall (nodes : List Node) : (nodes.map height).foldr max 0 = extentOfAll 1 nodes := by
    induction nodes with
    | nil => rfl
    | cons node nodes ih => rw [List.map_cons, List.foldr_cons, ih, extentOfAll, height]
  rw [hall, height, extent_eq (.inl rfl)]

/-- None of the trees reaches further than all of them together. -/
private theorem extentOfAll_le_iff {w bound : Nat} {nodes : List Node} :
    extentOfAll w nodes ≤ bound ↔ ∀ node ∈ nodes, node.extent w ≤ bound := by
  induction nodes with
  | nil => exact iff_of_true (Nat.zero_le _) (List.forall_mem_nil _)
  | cons node nodes ih => rw [extentOfAll, Nat.max_le, List.forall_mem_cons, ih]

/-! ### Nodes in a tree -/

/-- There is a node in the tree with so many nodes above it. -/
inductive HasAt : Node → Nat → Node → Prop
  | root {node : Node} : HasAt node 0 node
  | inside {node child inner : Node} {depth : Nat} :
      child ∈ node.children → HasAt child depth inner → HasAt node (depth + 1) inner

/-- What is in a tree reaches no further down than the tree. -/
theorem HasAt.height_le {node inner : Node} {depth : Nat} (h : node.HasAt depth inner) :
    depth + inner.height ≤ node.height := by
  induction h with
  | root => exact Nat.le_of_eq (Nat.zero_add _)
  | @inside node child inner depth hchild _ ih =>
    have hle := extentOfAll_le_iff.mp (Nat.le_refl (extentOfAll 1 node.children)) child hchild
    have hnode : node.height = 1 + extentOfAll 1 node.children := extent_eq (.inl rfl)
    have hchild : child.height = child.extent 1 := rfl
    omega

/-- **Only the left operands of operators can make a tree taller than its extent is** where operators
that are left for them do not count. -/
theorem height_le_of_left {bound : Nat} (node : Node) (above : Nat)
    (hextent : above + node.extent 0 ≤ bound)
    (hleft : ∀ depth op left right, node.HasAt depth (.binary op left right) →
      above + depth + 1 + left.height ≤ bound) : above + node.height ≤ bound := by
  -- on the height, since the left operands are bounded by the hypothesis and need no induction
  induction hheight : node.height using Nat.strongRecOn generalizing node above with
  | ind height ih =>
  subst hheight
  have hnode : node.height = 1 + extentOfAll 1 node.children := extent_eq (.inl rfl)
  have hoperand {child : Node} (hchild : child ∈ node.children)
      (hextent : above + 1 + child.extent 0 ≤ bound) : above + 1 + child.extent 1 ≤ bound := by
    have hlt := (HasAt.inside hchild .root).height_le
    refine ih child.height (by omega) child (above + 1) hextent (fun depth op left right h => ?_) rfl
    have hbound := hleft (depth + 1) op left right (.inside hchild h)
    omega
  have hall : above + 1 ≤ bound ∧ ∀ child ∈ node.children, above + 1 + child.extent 1 ≤ bound := by
    -- only below an operator do the two extents count differently
    by_cases hop : ∃ op left right, node = .binary op left right
    · obtain ⟨op, left, right, rfl⟩ := hop
      have hbound : above + 0 + 1 + left.extent 1 ≤ bound := hleft 0 op left right .root
      rw [extent] at hextent
      refine ⟨by omega, ?_⟩
      simp only [children, List.forall_mem_cons]
      refine ⟨hbound, hoperand (List.mem_cons_of_mem _ List.mem_cons_self) (by omega), ?_⟩
      exact List.forall_mem_nil _
    · have hother : ∀ op left right, node ≠ .binary op left right :=
        fun op left right heq => hop ⟨op, left, right, heq⟩
      rw [extent_eq (.inr hother)] at hextent
      refine ⟨by omega, fun child hchild => hoperand hchild ?_⟩
      have hle := extentOfAll_le_iff.mp (Nat.le_refl (extentOfAll 0 node.children)) child hchild
      omega
  have hmax : extentOfAll 1 node.children ≤ bound - (above + 1) :=
    extentOfAll_le_iff.mpr fun child hchild => Nat.le_sub_of_add_le' (hall.2 child hchild)
  omega

end Node

/-! ## How far a reader can reach -/

/-- The greatest extents that are possible with so many levels: of a factor, and of a statement. -/
structure Reach where
  factor : Nat
  statement : Nat

namespace Reach

/-- A statement may start with a row on each of the three tiers, of which each has as many operators as
there are levels but one. -/
def within (w : Nat) : Nat → Reach
  | 0 => ⟨0, 0⟩
  | n + 1 =>
    let below := within w n
    ⟨max (1 + below.factor) below.statement,
      1 + max below.statement (3 * (w * (n - 1)) + below.factor)⟩

variable {w m n : Nat}

private theorem factor_succ :
    (within w (n + 1)).factor = max (1 + (within w n).factor) (within w n).statement :=
  rfl

private theorem statement_succ : (within w (n + 1)).statement =
    1 + max (within w n).statement (3 * (w * (n - 1)) + (within w n).factor) :=
  rfl

private theorem factor_mono (h : m ≤ n) : (within w m).factor ≤ (within w n).factor := by
  induction h with
  | refl => exact Nat.le_refl _
  | step _ ih =>
    rw [Nat.succ_eq_add_one, factor_succ]
    omega

private theorem statement_mono (h : m ≤ n) : (within w m).statement ≤ (within w n).statement := by
  induction h with
  | refl => exact Nat.le_refl _
  | step _ ih =>
    rw [Nat.succ_eq_add_one, statement_succ]
    omega

/-- A factor on a level of its own reaches further by one at least. -/
theorem factor_lt (h : m < n) : 1 + (within w m).factor ≤ (within w n).factor := by
  refine Nat.le_trans ?_ (factor_mono h)
  rw [Nat.succ_eq_add_one, factor_succ]
  omega

/-- With a level there is a statement of one node at least. -/
private theorem statement_pos (h : 0 < n) : 0 < (within w n).statement := by
  refine Nat.lt_of_lt_of_le ?_ (statement_mono h)
  rw [statement_succ]
  omega

/-- Without the operators that are left to the left, a path has no more nodes than there are
levels. -/
theorem within_zero : (within 0 n).factor ≤ n ∧ (within 0 n).statement ≤ n := by
  induction n with
  | zero => exact ⟨Nat.le_refl _, Nat.le_refl _⟩
  | succ n ih =>
    rw [factor_succ, statement_succ]
    omega

end Reach

/-! ## What is read reaches no further -/

open Stencil.Parser

/-- How far the operands of a tier can reach. -/
def Tier.reach (w n : Nat) : Tier → Nat
  | relational => 2 * (w * (n - 1)) + (Reach.within w n).factor
  | additive => w * (n - 1) + (Reach.within w n).factor
  | multiplicative => (Reach.within w n).factor

namespace Tier

variable {w m n : Nat} {tier : Tier}

private theorem reach_mono (h : m ≤ n) : tier.reach w m ≤ tier.reach w n := by
  have hfactor : (Reach.within w m).factor ≤ (Reach.within w n).factor := Reach.factor_mono h
  have hrow : w * (m - 1) ≤ w * (n - 1) := Nat.mul_le_mul_left w (Nat.sub_le_sub_right h 1)
  cases tier <;> simp only [reach] <;> omega

private theorem reach_lt (h : m < n) : 1 + tier.reach w m ≤ tier.reach w n := by
  have hfactor : 1 + (Reach.within w m).factor ≤ (Reach.within w n).factor := Reach.factor_lt h
  have hrow : w * (m - 1) ≤ w * (n - 1) :=
    Nat.mul_le_mul_left w (Nat.sub_le_sub_right (Nat.le_of_lt h) 1)
  cases tier <;> simp only [reach] <;> omega

end Tier

/-- A phrase reaches no further than its levels allow. -/
def Phrase.Within (w n : Nat) : Phrase → Prop
  | .statement node => node.extent w ≤ (Reach.within w n).statement
  | .row t k node => node.extent w ≤ w * k + t.reach w n
  | .tier t node => node.extent w ≤ w * (n - 1) + t.reach w n
  | .factor node => node.extent w ≤ (Reach.within w n).factor
  | .link l => l.extent w ≤ (Reach.within w n).statement
  | .access head members => (Node.access head members).extent w ≤ 1 + (Reach.within w n).factor
  | .args nodes => Node.extentOfAll w nodes ≤ (Reach.within w n).statement

/-- With more levels a phrase may reach further. -/
theorem Phrase.Within.mono {w m n : Nat} {phrase : Phrase} (h : phrase.Within w m) (hle : m ≤ n) :
    phrase.Within w n := by
  have hfactor : (Reach.within w m).factor ≤ (Reach.within w n).factor := Reach.factor_mono hle
  have hstatement : (Reach.within w m).statement ≤ (Reach.within w n).statement :=
    Reach.statement_mono hle
  cases phrase with
  | statement | link | args => exact Nat.le_trans h hstatement
  | row t k node => exact Nat.le_trans h (Nat.add_le_add_left (Tier.reach_mono hle) _)
  | tier t node =>
    have hrow : w * (m - 1) ≤ w * (n - 1) := Nat.mul_le_mul_left w (Nat.sub_le_sub_right hle 1)
    exact Nat.le_trans h (Nat.add_le_add hrow (Tier.reach_mono hle))
  | factor => exact Nat.le_trans h hfactor
  | access => exact Nat.le_trans h (Nat.add_le_add_left hfactor 1)

/-- An operand of a tier reaches no further than those of its tier. -/
theorem Phrase.Within.operand {w n : Nat} {t : Tier} {node : Node}
    (h : (t.operand node).Within w n) : node.extent w ≤ t.reach w n := by
  cases t with
  | relational =>
    have hextent : node.extent w ≤ w * (n - 1) + Tier.additive.reach w n := h
    refine Nat.le_trans hextent ?_
    simp only [Tier.reach]
    omega
  | additive => exact h
  | multiplicative => exact h

/-- A branch reaches no further than a statement one level above its parts. -/
theorem extent_branch_le {w n : Nat} {condition thenBody elseBody : Node}
    (hcondition : condition.extent w ≤ w * (n - 1) + Tier.relational.reach w n)
    (hthen : thenBody.extent w ≤ (Reach.within w n).statement)
    (helse : elseBody.extent w ≤ (Reach.within w n).statement) :
    (Node.branch condition thenBody elseBody).extent w ≤ (Reach.within w (n + 1)).statement := by
  rw [Node.extent, Reach.statement_succ]
  simp only [Tier.reach] at hcondition
  omega

/-- **What is read reaches no further than its levels allow.** -/
theorem within_of_reads {w n : Nat} {next : Kind} {tokens : List Token} {phrase : Phrase}
    (h : Reads next n tokens phrase) : phrase.Within w n := by
  induction h with
  | @loop _ n _ _ _ _ _ _ body _ _ _ _ _ hreads ih =>
    have hbody : body.extent w ≤ (Reach.within w n).statement := ih
    have hone : 0 < (Reach.within w n).statement := Reach.statement_pos hreads.least_le
    show 1 + max 1 (max 1 (body.extent w)) ≤ (Reach.within w (n + 1)).statement
    rw [Reach.statement_succ]
    omega
  | @plain _ n _ node _ _ _ ih =>
    have hextent : node.extent w ≤ w * (n - 1) + Tier.relational.reach w n := ih
    show node.extent w ≤ (Reach.within w (n + 1)).statement
    rw [Reach.statement_succ]
    simp only [Tier.reach] at hextent
    omega
  | @oneSided _ m n _ _ _ _ _ _ _ _ hreads _ ih ih' =>
    have hcondition := ih.mono (Nat.le_max_left m n)
    have hbody := ih'.mono (Nat.le_max_right m n)
    have hone := Reach.statement_pos (w := w) hreads.least_le
    exact extent_branch_le hcondition hbody
      (Nat.le_trans hone (Reach.statement_mono (Nat.le_max_right m n)))
  | @twoSided _ l m n _ _ _ _ _ _ _ _ _ _ _ _ _ _ ih ih' ih'' =>
    have hcondition := ih.mono (Nat.le_max_left l (max m n))
    have hbody := (ih'.mono (Nat.le_max_left m n)).mono (Nat.le_max_right l _)
    have hother := (ih''.mono (Nat.le_max_right m n)).mono (Nat.le_max_right l _)
    exact extent_branch_le hcondition hbody hother
  | @operand _ n _ t node _ ih =>
    show node.extent w ≤ w * 0 + t.reach w n
    rw [Nat.mul_zero, Nat.zero_add]
    exact ih.operand
  -- each operator puts `w` nodes above what has been folded, and the one level that it takes makes room
  -- for its right operand
  | @operator _ k m n _ _ op t left right _ _ _ ih ih' =>
    have hleft : left.extent w ≤ w * k + t.reach w (max m (k + 1 + n)) :=
      Nat.le_trans ih (Nat.add_le_add_left (Tier.reach_mono (Nat.le_max_left _ _)) _)
    have hright : 1 + right.extent w ≤ t.reach w (max m (k + 1 + n)) :=
      Nat.le_trans (Nat.add_le_add_left ih'.operand 1) (Tier.reach_lt (by omega))
    show max (w + left.extent w) (1 + right.extent w) ≤ w * (k + 1) + t.reach w (max m (k + 1 + n))
    rw [Nat.mul_succ]
    omega
  -- a row of `k` operators has taken `k` levels besides the one for its first operand
  | @tier _ k n _ t node hreads _ ih =>
    have hextent : node.extent w ≤ w * k + t.reach w n := ih
    have hk : k + 1 ≤ n := hreads.least_le
    have hrow : w * k ≤ w * (n - 1) := Nat.mul_le_mul_left w (by omega)
    show node.extent w ≤ w * (n - 1) + t.reach w n
    omega
  | literal => exact Nat.le_refl 1
  | null => exact Nat.le_refl 1
  | @sign _ n _ _ node _ _ ih =>
    have hnode : node.extent w ≤ (Reach.within w n).factor := ih
    show 1 + node.extent w ≤ (Reach.within w (n + 1)).factor
    rw [Reach.factor_succ]
    omega
  | @not _ n _ _ node _ _ ih =>
    have hnode : node.extent w ≤ (Reach.within w n).factor := ih
    exact Nat.le_trans hnode (Reach.factor_mono (Nat.le_succ n))
  | @parens _ n _ _ _ node _ _ _ ih =>
    have hnode : node.extent w ≤ (Reach.within w n).statement := ih
    exact Nat.le_trans hnode (Nat.le_max_right _ _)
  | @reference _ n _ head members _ ih =>
    have haccess : (Node.access head members).extent w ≤ 1 + (Reach.within w n).factor := ih
    exact Nat.le_trans haccess (Nat.le_max_left _ _)
  | name => exact Nat.zero_le _
  | call _ _ _ _ ih => exact ih
  | @lastLink _ n _ head _ _ ih =>
    have hhead : head.extent w ≤ (Reach.within w n).statement := ih
    show 1 + max (head.extent w) 0 ≤ 1 + (Reach.within w (n + 1)).factor
    rw [Reach.factor_succ]
    omega
  | @dot _ m n _ _ _ head member members _ _ _ ih ih' =>
    have hhead : head.extent w ≤ (Reach.within w (max m n)).statement :=
      Nat.le_trans ih (Reach.statement_mono (Nat.le_max_left m n))
    have hrest : (Node.access member members).extent w ≤ 1 + (Reach.within w (max m n)).factor :=
      Nat.le_trans ih' (Nat.add_le_add_left (Reach.factor_mono (Nat.le_max_right m n)) 1)
    show 1 + max (head.extent w) ((Node.access member members).extent w) ≤
      1 + (Reach.within w (max m n + 1)).factor
    rw [Reach.factor_succ]
    omega
  | noArgs => exact Nat.zero_le _
  | lastArg _ ih => exact Nat.max_le.mpr ⟨ih, Nat.zero_le _⟩
  | @comma m n _ _ _ _ _ _ _ _ ih ih' =>
    have harg := ih.mono (Nat.le_max_left m n)
    have hargs := ih'.mono (Nat.le_max_right m n)
    exact Nat.max_le.mpr ⟨harg, hargs⟩

/-- The fragments of a template reach as far as statements do. -/
theorem extentOfAll_le_of_readsFragments {w : Nat} {tokens : List Token} {nodes : List Node}
    (h : ReadsFragments tokens nodes) :
    Node.extentOfAll w nodes ≤ (Reach.within w maxDepth).statement := by
  induction h with
  | nil => exact Nat.zero_le _
  | text _ _ ih => exact Nat.max_le.mpr ⟨Reach.statement_pos (by decide), ih⟩
  | program _ hn hreads _ _ ih =>
    have hnode : _ ≤ (Reach.within w _).statement := within_of_reads hreads
    exact Nat.max_le.mpr ⟨Nat.le_trans hnode (Reach.statement_mono hn), ih⟩

/-! ## Trees as tall as that -/

/-- The word for no value, wherever it stands. -/
def leaf : Token := ⟨.null, "null", 0⟩

/-- A row over one tall operand is taller by its operators. -/
theorem exists_row (tier : Tier) (op : Token) {ends : Kind → Prop} {n : Nat} {ts : List Token}
    {left : Node} (hop : op.kind ∈ tier.operators) (hends : ends op.kind)
    (hleaf : ∀ next, ends next → Reads next 1 [leaf] (tier.operand (.null leaf)))
    (hleft : ∀ next, ends next → Reads next n ts (tier.operand left)) {k : Nat} (hk : k < n) :
    ∃ us node, (∀ next, ends next → Reads next n (ts ++ us) (.row tier k node)) ∧
      node.height = k + left.height := by
  induction k with
  | zero =>
    refine ⟨[], left, fun next hnext => ?_, (Nat.zero_add _).symm⟩
    rw [List.append_nil]
    exact .operand (hleft next hnext)
  | succ k ih =>
    obtain ⟨us, node, hrow, hheight⟩ := ih (Nat.lt_of_succ_lt hk)
    refine ⟨us ++ [op, leaf], .binary op node (.null leaf), fun next hnext => ?_, ?_⟩
    · have hfolded := Reads.operator (hrow op.kind hends) hop (hleaf next hnext)
      rwa [List.append_assoc, show max n (k + 1 + 1) = n by omega] at hfolded
    · show max (1 + node.height) (1 + 1) = _
      have hpos : 0 < node.height := by
        rw [Node.height_eq]
        omega
      omega

/-- What may follow a whole row of the tiers inside the additive and inside the relational one. -/
def Tier.Ends : Tier → Kind → Prop
  | multiplicative, _ => True
  | additive, next => next ∉ Parser.multiplicative
  | relational, next => next ∉ Parser.multiplicative ∧ next ∉ Parser.additive

/-- The word for no value is an operand of every tier, and takes one level. -/
private theorem reads_leaf (tier : Tier) (next : Kind) (hnext : tier.Ends next) :
    Reads next 1 [leaf] (tier.operand (.null leaf)) := by
  have hfactor : Reads next 1 [leaf] (.factor (.null leaf)) := .null rfl
  have hterm (h : next ∉ multiplicative) : Reads next 1 [leaf] (.tier .multiplicative (.null leaf)) :=
    .tier (@Reads.operand _ _ _ .multiplicative _ hfactor) h
  cases tier with
  | multiplicative => exact hfactor
  | additive => exact hterm hnext
  | relational => exact .tier (@Reads.operand _ _ _ .additive _ (hterm hnext.1)) hnext.2

/-- The tiers one over the other make a factor taller by three operators for each level but one. -/
theorem exists_expression {n : Nat} {ts : List Token} {factor : Node} (hn : 0 < n)
    (hfactor : ∀ next, Reads next n ts (.factor factor)) :
    ∃ us node, (∀ next, next ∉ relational ++ additive ++ multiplicative →
      Reads next n (ts ++ us) (.tier .relational node)) ∧
      node.height = 3 * (n - 1) + factor.height := by
  have hk : n - 1 < n := by omega
  have hplus : Tier.additive.Ends .plus := by
    show Kind.plus ∉ multiplicative
    decide
  have heq : Tier.relational.Ends .eq := by
    show Kind.eq ∉ multiplicative ∧ Kind.eq ∉ additive
    decide
  obtain ⟨us, term, hterm, hheight⟩ := exists_row .multiplicative ⟨.mul, "*", 0⟩ (by decide) trivial
    (reads_leaf .multiplicative) (fun next _ => hfactor next) hk
  obtain ⟨vs, simple, hsimple, hheight'⟩ := exists_row .additive ⟨.plus, "+", 0⟩ (by decide) hplus
    (reads_leaf .additive) (fun next hnext => .tier (hterm next trivial) hnext) hk
  obtain ⟨ws, expression, hexpression, hheight''⟩ := exists_row .relational ⟨.eq, "=", 0⟩ (by decide)
    heq (reads_leaf .relational) (fun next hnext => .tier (hsimple next hnext.1) hnext.2) hk
  refine ⟨us ++ vs ++ ws, expression, fun next hnext => ?_, by omega⟩
  simp only [List.mem_append, not_or] at hnext
  rw [← List.append_assoc, ← List.append_assoc]
  exact .tier (hexpression next ⟨hnext.2, hnext.1.2⟩) hnext.1.1

/-- Behind a whole statement. -/
def closing : List Kind := [.eof, .rParen, .rBrace]

/-- What stands behind a whole statement is no operator and goes on with no conditional. -/
private theorem not_operator_of_closing {next : Kind} (h : next ∈ closing) :
    next ∉ relational ++ additive ++ multiplicative ∧ next ≠ .question ∧ next ≠ .colon := by
  revert h
  cases next <;> decide

/-- The smallest statement. -/
theorem reads_leaf_statement {next : Kind} (h : next ∈ closing) :
    Reads next 2 [leaf] (.statement (.null leaf)) := by
  obtain ⟨hoperator, hquestion, -⟩ := not_operator_of_closing h
  simp only [List.mem_append, not_or] at hoperator
  have hsimple := reads_leaf .relational next ⟨hoperator.2, hoperator.1.2⟩
  have hexpression := Reads.tier (@Reads.operand _ _ _ .relational _ hsimple) hoperator.1.1
  refine .plain hexpression ?_ hquestion
  rintro ⟨t, ht, hloop⟩
  obtain rfl := Option.mem_some_iff.mp ht
  cases hloop.1

/-- A branch over such an expression is a statement one level above. -/
theorem exists_statement {n : Nat} {t : Token} {ts : List Token} {factor : Node} (hn : 2 ≤ n)
    (hfirst : t.kind ≠ .identifier) (hfactor : ∀ next, Reads next n (t :: ts) (.factor factor)) :
    ∃ us node, (∀ next ∈ closing, Reads next (n + 1) us (.statement node)) ∧
      node.height = 1 + (3 * (n - 1) + factor.height) := by
  obtain ⟨us, condition, hcondition, hheight⟩ := exists_expression (by omega) hfactor
  let mark : Token := ⟨.question, "?", 0⟩
  refine ⟨t :: ts ++ us ++ mark :: [leaf], .ifThen condition (.null leaf) none,
    fun next hnext => ?_, ?_⟩
  · have hstart : ¬ StartsLoop (t :: ts ++ us) := by
      rintro ⟨t', ht, hloop⟩
      obtain rfl := Option.mem_some_iff.mp ht
      exact hfirst hloop.1
    have hbranch := Reads.oneSided (hcondition .question (by decide)) hstart
      (show mark.kind = .question from rfl) (reads_leaf_statement hnext)
      (not_operator_of_closing hnext).2.2
    rwa [show max n 2 = n by omega] at hbranch
  · show 1 + max condition.height (max 1 1) = _
    have hpos : 0 < condition.height := by
      rw [Node.height_eq]
      omega
    omega

/-- **Statements in parentheses, each the leftmost operand in the condition of the one around it**, of
which each takes two levels and is taller by six nodes for each of those inside it, and some. -/
theorem exists_tower (i : Nat) : ∃ t ts node, t.kind ≠ .identifier ∧
    (∀ next, Reads next (2 * i + 3) (t :: ts) (.factor node)) ∧
      node.height = 3 * (i * i) + 4 * i + 3 := by
  induction i with
  | zero =>
    let minus : Token := ⟨.minus, "-", 0⟩
    have hsign : minus.kind = .plus ∨ minus.kind = .minus := .inr rfl
    exact ⟨minus, [minus, leaf], .unary minus (.unary minus (.null leaf)), by decide,
      fun next => .sign hsign (.sign hsign (.null rfl)), rfl⟩
  | succ i ih =>
    obtain ⟨t, ts, node, hfirst, hreads, hheight⟩ := ih
    obtain ⟨us, statement, hstatement, hheight'⟩ := exists_statement (by omega) hfirst hreads
    refine ⟨⟨.lParen, "(", 0⟩, us ++ [⟨.rParen, ")", 0⟩], statement, by decide, fun next => ?_, ?_⟩
    · exact .parens rfl (hstatement .rParen (by decide)) rfl
    · have hsquare : (i + 1) * (i + 1) = i * i + 2 * i + 1 := by
        rw [Nat.mul_succ, Nat.succ_mul]
        omega
      omega

/-- The tallest statement that the levels allow for. -/
theorem exists_tallest : ∃ ts node,
    (∀ next ∈ closing, Reads next maxDepth ts (.statement node)) ∧ node.height = 48898 := by
  obtain ⟨t, ts, node, hfirst, hreads, hheight⟩ := exists_tower 126
  obtain ⟨us, statement, hstatement, hheight'⟩ := exists_statement (by decide) hfirst hreads
  exact ⟨us, statement, hstatement, by omega⟩

/-! ## What is accepted -/

/-- The nodes that a tree has above what is derived. -/
def Mode.roots : Mode → Nat
  | .text => 1
  | .program => 0

/-- **The cap on levels bounds the nodes along a path without the operators that are left to the
left.** With those there are 48898 at most, and one for the template. -/
theorem Node.extent_le_of_ofSupply {mode : Mode} {supply : Token.Supply} {node : Node}
    (h : ofSupply mode supply = .ok node) :
    node.extent 0 ≤ maxDepth + mode.roots ∧ node.height ≤ 48898 + mode.roots := by
  have htallest : (Reach.within 1 maxDepth).statement = 48898 := by decide +kernel
  have hcapped : (Reach.within 0 maxDepth).statement ≤ maxDepth := Reach.within_zero.2
  cases mode with
  | program =>
    obtain ⟨-, n, hn, hreads⟩ := ofSupply_program_eq_ok.mp h
    have hwithin (w : Nat) : node.extent w ≤ (Reach.within w maxDepth).statement :=
      Nat.le_trans (within_of_reads hreads) (Reach.statement_mono hn)
    exact ⟨Nat.le_trans (hwithin 0) hcapped, Nat.le_trans (hwithin 1) (Nat.le_of_eq htallest)⟩
  | text =>
    obtain ⟨-, token, nodes, -, hreads, rfl⟩ := ofSupply_text_eq_ok.mp h
    have hwithin (w : Nat) := extentOfAll_le_of_readsFragments (w := w) hreads
    have hzero := hwithin 0
    have hone := hwithin 1
    simp only [height, extent, Mode.roots]
    omega

/-- And so many there may be. -/
theorem Node.exists_ofSupply_height (mode : Mode) :
    ∃ supply node, ofSupply mode supply = .ok node ∧ node.height = 48898 + mode.roots := by
  obtain ⟨ts, node, hreads, hheight⟩ := exists_tallest
  cases mode with
  | program =>
    have hprogram := hreads .eof (by decide)
    refine ⟨.ofTokens ts, node, ofSupply_program_eq_ok.mpr ?_, hheight⟩
    refine ⟨Token.Supply.ends_ofTokens ts, maxDepth, Nat.le_refl _, ?_⟩
    rw [hprogram.significant_ofTokens]
    exact hprogram
  | text =>
    -- the same statement between braces, where it has a template above it
    let opening : Token := ⟨.lBrace, "\x7b", 0⟩
    let closing : Token := ⟨.rBrace, "\x7d", 0⟩
    have hinside := (hreads .rBrace (by decide)).insideProgram
    have hfragments : ReadsFragments (opening :: (ts ++ [closing])) [node] := by
      refine .program rfl (Nat.le_refl _) ?_ rfl .nil
      rw [Token.solid_eq_self fun t ht => (hinside t ht).not_blank]
      exact hreads .rBrace (by decide)
    have hnone : ∀ t ∈ opening :: (ts ++ [closing]), t.kind ≠ .eof := by
      simp only [List.forall_mem_cons, List.forall_mem_append]
      exact ⟨nofun, fun t ht => (hinside t ht).not_eof, nofun, List.forall_mem_nil _⟩
    have hfront : (Token.Supply.ofTokens (opening :: (ts ++ [closing]))).front =
        opening :: (ts ++ [closing]) := Token.front_eq_self hnone
    refine ⟨.ofTokens (opening :: (ts ++ [closing])), .template opening [node],
      ofSupply_text_eq_ok.mpr ⟨Token.Supply.ends_ofTokens _, opening, [node], rfl, ?_, rfl⟩, ?_⟩
    · rw [hfront]
      exact hfragments
    · have hheight : node.extent 1 = 48898 := hheight
      show 1 + max (node.extent 1) 0 = 48898 + 1
      omega

/-- **A tree that is read is within the cap exactly if the left operand of every operator in it is**,
counted from the root down: nothing else can be too tall. And none is taller than 48898. -/
theorem Node.height_le_iff_of_ofSupply {mode : Mode} {supply : Token.Supply} {node : Node}
    (h : ofSupply mode supply = .ok node) :
    (node.height ≤ maxDepth + mode.roots ↔
      ∀ depth op left right, node.HasAt depth (.binary op left right) →
        depth + 1 + left.height ≤ maxDepth + mode.roots) ∧
    node.height ≤ 48898 + mode.roots := by
  obtain ⟨hextent, htallest⟩ := extent_le_of_ofSupply h
  refine ⟨⟨fun hheight depth op left right hop => ?_, fun hleft => ?_⟩, htallest⟩
  · have hchild : left ∈ (Node.binary op left right).children := List.mem_cons_self
    have hoperand := (HasAt.inside hchild .root).height_le
    have hwhole := hop.height_le
    omega
  · have hwhole : 0 + node.height ≤ maxDepth + mode.roots := by
      refine height_le_of_left node 0 (by omega) fun depth op left right hop => ?_
      rw [Nat.zero_add]
      exact hleft depth op left right hop
    omega

/-- A chain of signs in front of a chain of factors, neither of which goes beyond the cap: together
they do, and it is a left operand that is too tall. -/
theorem Node.exists_taller_than_cap : ∃ node,
    ofText .program (List.replicate 130 '-' ++ '1' :: (List.replicate 130 ['*', '1']).flatten) =
        .ok node ∧
      maxDepth < node.height ∧ ∃ depth op left right, node.HasAt depth (.binary op left right) ∧
        maxDepth < depth + 1 + left.height := by
  have hheight : (ofText .program (List.replicate 130 '-' ++ '1' ::
      (List.replicate 130 ['*', '1']).flatten)).toOption.map height = some 261 := by decide +kernel
  cases h : ofText .program (List.replicate 130 '-' ++ '1' ::
      (List.replicate 130 ['*', '1']).flatten) with
  | error e =>
    rw [h] at hheight
    cases hheight
  | ok node =>
    rw [h] at hheight
    have htall : node.height = 261 := Option.some.inj hheight
    have hcap : maxDepth < node.height := by
      rw [htall]
      decide
    refine ⟨node, rfl, hcap, ?_⟩
    have hread : ofSupply .program (.ofText .program (List.replicate 130 '-' ++ '1' ::
      (List.replicate 130 ['*', '1']).flatten)) = .ok node := h
    have htoo := mt (height_le_iff_of_ofSupply hread).1.mpr (Nat.not_le.mpr hcap)
    simp only [Classical.not_forall, Nat.not_le] at htoo
    obtain ⟨depth, op, left, right, hop, hleft⟩ := htoo
    exact ⟨depth, op, left, right, hop, hleft⟩

end Stencil
