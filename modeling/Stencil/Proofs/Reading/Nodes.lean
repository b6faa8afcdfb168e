import Stencil.Proofs.Height

/-!
# The nodes of a tree that is read

Every node of a tree that is read stands at a token of the text, and a literal has the value that its
token stands for (`Node.foundIn_of_ofSupply`). Both can fail for trees that are put together by hand.
-/

namespace Stencil

namespace Node

/-! ## All nodes of a tree -/

/-- Every node of the tree is so. -/
def Throughout (P : Node → Prop) (node : Node) : Prop :=
  ∀ depth inner, node.HasAt depth inner → P inner

section
variable {P Q : Node → Prop} {node : Node}

/-- What follows at every node follows throughout. -/
theorem Throughout.imp (h : node.Throughout P) (himp : ∀ inner, P inner → Q inner) :
    node.Throughout Q :=
  fun depth inner hat => himp inner (h depth inner hat)

/-- It holds at the root. -/
theorem Throughout.root (h : node.Throughout P) : P node := h 0 node .root

/-- And throughout every child. -/
theorem Throughout.forall_children (h : node.Throughout P) :
    ∀ child ∈ node.children, child.Throughout P :=
  fun _ hchild depth inner hat => h (depth + 1) inner (.inside hchild hat)

/-- And that is enough. -/
theorem Throughout.of_children (hnode : P node) (hchildren : ∀ child ∈ node.children, child.Throughout P) :
    node.Throughout P := by
  intro depth inner hat
  cases hat with
  | root => exact hnode
  | inside hchild hinner => exact hchildren _ hchild _ inner hinner

/-- A tree without operands is a single node. -/
theorem Throughout.leaf (hnode : P node) (hnone : node.children = []) : node.Throughout P :=
  .of_children hnode fun _ hchild => absurd (hnone ▸ hchild) List.not_mem_nil

/-- The parts of an operator. -/
theorem Throughout.of_binary {op : Token} {left right : Node}
    (h : (binary op left right).Throughout P) : left.Throughout P ∧ right.Throughout P := by
  obtain ⟨hleft, hrest⟩ := List.forall_mem_cons.mp h.forall_children
  exact ⟨hleft, hrest right List.mem_cons_self⟩

/-- Those of a conditional. -/
theorem Throughout.of_branch {condition thenBody elseBody : Node}
    (h : (branch condition thenBody elseBody).Throughout P) :
    condition.Throughout P ∧ thenBody.Throughout P ∧ elseBody.Throughout P := by
  obtain ⟨hcondition, hrest⟩ := List.forall_mem_cons.mp h.forall_children
  obtain ⟨hthen, hrest⟩ := List.forall_mem_cons.mp hrest
  exact ⟨hcondition, hthen, hrest elseBody List.mem_cons_self⟩

/-- Those of a loop. -/
theorem Throughout.of_each {token : Token} {item source body : Node}
    (h : (each token item source body).Throughout P) :
    item.Throughout P ∧ source.Throughout P ∧ body.Throughout P := by
  obtain ⟨hitem, hrest⟩ := List.forall_mem_cons.mp h.forall_children
  obtain ⟨hsource, hrest⟩ := List.forall_mem_cons.mp hrest
  exact ⟨hitem, hsource, hrest body List.mem_cons_self⟩

/-- And those of an access. -/
theorem Throughout.of_access {head : Link} {members : List Link}
    (h : (access head members).Throughout P) :
    (∀ arg ∈ head.args, arg.Throughout P) ∧ ∀ node ∈ ofMembers members, node.Throughout P :=
  List.forall_mem_append.mp h.forall_children

end

/-! ## Nodes at tokens -/

/-- The node stands at one of the tokens, and a value that it holds is what its token stands for. -/
structure FoundIn (tokens : List Token) (node : Node) : Prop where
  token_mem : node.token ∈ tokens
  literal : ∀ value, node.literal? = some value → node.token.literal? = some value

/-- A node found among some tokens is found among more. -/
theorem FoundIn.mono {tokens more : List Token} {node : Node} (h : node.FoundIn tokens)
    (hsub : tokens ⊆ more) : node.FoundIn more :=
  ⟨hsub h.token_mem, h.literal⟩

/-- A node that holds no value need only stand at a token. -/
theorem FoundIn.of_mem {tokens : List Token} {node : Node} (hmem : node.token ∈ tokens)
    (hnone : node.literal? = none := by rfl) : node.FoundIn tokens := by
  refine ⟨hmem, fun value hvalue => ?_⟩
  rw [hnone] at hvalue
  cases hvalue

end Node

open Stencil.Parser

/-- Every node of a phrase is found among the tokens. A link by itself is no node, but has a token. -/
def Phrase.FoundIn (tokens : List Token) : Phrase → Prop
  | .statement node | .row _ _ node | .tier _ node | .factor node =>
    node.Throughout (Node.FoundIn tokens)
  | .link l => l.token ∈ tokens ∧ ∀ arg ∈ l.args, arg.Throughout (Node.FoundIn tokens)
  | .access head members => (Node.access head members).Throughout (Node.FoundIn tokens)
  | .args nodes => ∀ node ∈ nodes, node.Throughout (Node.FoundIn tokens)

section
variable {tokens more : List Token} {phrase : Phrase}

/-- And so is a phrase. -/
theorem Phrase.FoundIn.mono (h : phrase.FoundIn tokens) (hsub : tokens ⊆ more) :
    phrase.FoundIn more := by
  have hnode {node : Node} (h : node.Throughout (Node.FoundIn tokens)) :
      node.Throughout (Node.FoundIn more) :=
    h.imp fun _ hinner => hinner.mono hsub
  cases phrase with
  | statement | row | tier | factor | access => exact hnode h
  | link => exact ⟨hsub h.1, fun arg harg => hnode (h.2 arg harg)⟩
  | args => exact fun node hmem => hnode (h node hmem)

/-- Behind a token there are tokens of the whole. -/
theorem Token.subset_behind {before : List Token} {t : Token} : tokens ⊆ before ++ t :: tokens :=
  List.subset_append_of_subset_right _ (List.subset_cons_self _ _)

/-- An operand is found where the nodes of its tree are. -/
private theorem Tier.foundIn_operand {tier : Tier} {node : Node} :
    (tier.operand node).FoundIn tokens ↔ node.Throughout (Node.FoundIn tokens) := by
  cases tier <;> exact Iff.rfl

/-- A branch is found where its parts are. -/
theorem Node.foundIn_ifThen {condition body : Node} {other : Option Node}
    (hcondition : condition.Throughout (FoundIn tokens)) (hbody : body.Throughout (FoundIn tokens))
    (hother : ∀ node ∈ other, node.Throughout (FoundIn tokens)) :
    (ifThen condition body other).Throughout (FoundIn tokens) := by
  have hmem : condition.token ∈ tokens := hcondition.root.token_mem
  refine .of_children (.of_mem hmem) ?_
  simp only [ifThen, children, List.forall_mem_cons]
  refine ⟨hcondition, hbody, ?_, List.forall_mem_nil _⟩
  cases other with
  | none => exact .leaf (.of_mem hmem) rfl
  | some node => exact hother node rfl

/-- An access is found where its name, its arguments and the links behind it are. -/
theorem Node.foundIn_access {head : Link} {members : List Link} (hhead : head.token ∈ tokens)
    (hargs : ∀ arg ∈ head.args, arg.Throughout (FoundIn tokens))
    (hmembers : ∀ node ∈ ofMembers members, node.Throughout (FoundIn tokens)) :
    (access head members).Throughout (FoundIn tokens) :=
  .of_children (.of_mem hhead) (List.forall_mem_append.mpr ⟨hargs, hmembers⟩)

end

/-! ## Trees that are read -/

/-- **What is read is found among the tokens that it is read off.** -/
theorem Parser.Reads.foundIn {next : Kind} {n : Nat} {tokens : List Token} {phrase : Phrase}
    (h : Reads next n tokens phrase) : phrase.FoundIn tokens := by
  induction h with
  | @loop _ _ ts each item word source mark _ _ _ _ _ _ _ ih =>
    have hbody : ts ⊆ each :: item :: word :: source :: mark :: ts :=
      @Token.subset_behind _ [each, item, word, source] mark
    refine .of_children (.of_mem List.mem_cons_self) ?_
    simp only [Node.children, List.forall_mem_cons]
    refine ⟨.leaf (.of_mem ?_) rfl, .leaf (.of_mem ?_) rfl, ih.mono hbody, List.forall_mem_nil _⟩
    · exact List.mem_cons_of_mem _ List.mem_cons_self
    · exact List.mem_cons_of_mem _ (List.mem_cons_of_mem _ (List.mem_cons_of_mem _ List.mem_cons_self))
  | plain _ _ _ ih => exact ih
  | oneSided _ _ _ _ _ ih ih' =>
    exact Node.foundIn_ifThen (ih.mono (List.subset_append_left _ _)) (ih'.mono Token.subset_behind)
      fun node hnode => absurd hnode (Option.not_mem_none node)
  | @twoSided _ _ _ _ cs ts us mark colon _ _ _ _ _ _ _ _ _ ih ih' ih'' =>
    have hbody : ts ⊆ cs ++ mark :: (ts ++ colon :: us) :=
      List.Subset.trans (List.subset_append_left _ _) Token.subset_behind
    have hother : us ⊆ cs ++ mark :: (ts ++ colon :: us) :=
      List.Subset.trans Token.subset_behind Token.subset_behind
    refine Node.foundIn_ifThen (ih.mono (List.subset_append_left _ _)) (ih'.mono hbody) ?_
    rintro node hnode
    obtain rfl := Option.mem_some_iff.mp hnode
    exact ih''.mono hother
  | operand _ ih => exact Tier.foundIn_operand.mp ih
  | operator _ _ _ ih ih' =>
    refine .of_children (.of_mem (List.mem_append_right _ List.mem_cons_self)) ?_
    simp only [Node.children, List.forall_mem_cons]
    refine ⟨ih.mono (List.subset_append_left _ _), ?_, List.forall_mem_nil _⟩
    exact Tier.foundIn_operand.mp (ih'.mono Token.subset_behind)
  | tier _ _ ih => exact ih
  -- a literal is the one leaf that holds more than its token
  | literal hvalue =>
    refine .leaf ⟨List.mem_cons_self, fun value hsome => ?_⟩ rfl
    cases hsome
    exact hvalue
  | null => exact .leaf (.of_mem List.mem_cons_self) rfl
  | sign _ _ ih =>
    refine .of_children (.of_mem List.mem_cons_self) (List.forall_mem_singleton.mpr ?_)
    exact ih.mono (List.subset_cons_self _ _)
  | not _ _ ih => exact ih.mono (List.subset_cons_self _ _)
  | @parens _ _ ts opening closing _ _ _ _ ih =>
    have hinner : ts ⊆ opening :: (ts ++ [closing]) :=
      List.Subset.trans (List.subset_append_left _ _) (List.subset_cons_self _ _)
    exact ih.mono hinner
  | reference _ ih => exact ih
  | name => exact ⟨List.mem_cons_self, List.forall_mem_nil _⟩
  | @call _ _ ts t opening closing _ _ _ _ _ ih =>
    have hinner : ts ⊆ t :: opening :: (ts ++ [closing]) :=
      List.Subset.trans (List.subset_append_left _ _) (@Token.subset_behind _ [t] opening)
    exact ⟨List.mem_cons_self, ih.mono hinner⟩
  | lastLink _ _ ih => exact Node.foundIn_access ih.1 ih.2 (List.forall_mem_nil _)
  | @dot _ _ _ ts us dot _ _ _ _ _ _ ih ih' =>
    obtain ⟨hhead, hargs⟩ := ih.mono (List.subset_append_left ts (dot :: us))
    exact Node.foundIn_access hhead hargs
      (List.forall_mem_singleton.mpr (ih'.mono Token.subset_behind))
  | noArgs => exact List.forall_mem_nil _
  | lastArg _ ih => exact List.forall_mem_singleton.mpr ih
  | comma _ _ _ ih ih' =>
    refine List.forall_mem_cons.mpr ⟨ih.mono (List.subset_append_left _ _), ?_⟩
    exact ih'.mono Token.subset_behind

/-- So it is with the fragments of a template. -/
theorem Parser.ReadsFragments.foundIn {tokens : List Token} {nodes : List Node}
    (h : ReadsFragments tokens nodes) : ∀ node ∈ nodes, node.Throughout (Node.FoundIn tokens) := by
  induction h with
  | nil => exact List.forall_mem_nil _
  | @text t ts nodes hkind _ ih =>
    refine List.forall_mem_cons.mpr ⟨.leaf ⟨List.mem_cons_self, fun value hsome => ?_⟩ rfl, ?_⟩
    · cases hsome
      show Token.literal? t = _
      rw [Token.literal?, hkind]
    · exact fun node hnode => (ih node hnode).imp fun _ h => h.mono (List.subset_cons_self _ _)
  | @program _ opening closing ts us node nodes _ _ hreads _ _ ih =>
    have hbody : Token.solid ts ⊆ opening :: (ts ++ closing :: us) := fun t ht =>
      List.mem_cons_of_mem _ (List.mem_append_left _ (List.mem_filter.mp ht).1)
    have hrest : us ⊆ opening :: (ts ++ closing :: us) :=
      List.Subset.trans Token.subset_behind (List.subset_cons_self _ _)
    refine List.forall_mem_cons.mpr ⟨hreads.foundIn.mono hbody, fun node hnode => ?_⟩
    exact (ih node hnode).imp fun _ h => h.mono hrest

/-- **Every node of a tree that is read is found among the tokens of the text.** A template has the first
token for its own, which in an empty text is that for the end. -/
theorem Node.foundIn_of_ofSupply {mode : Mode} {supply : Token.Supply} {node : Node}
    (h : ofSupply mode supply = .ok node) :
    node.Throughout (FoundIn supply.front) ∨
      ∃ token nodes, node = .template token nodes ∧
        ∀ child ∈ nodes, child.Throughout (FoundIn supply.front) := by
  cases mode with
  | program =>
    obtain ⟨-, n, -, hreads⟩ := ofSupply_program_eq_ok.mp h
    exact .inl (hreads.foundIn.mono fun t ht => (List.mem_filter.mp ht).1)
  | text =>
    obtain ⟨-, token, nodes, -, hreads, rfl⟩ := ofSupply_text_eq_ok.mp h
    exact .inr ⟨token, nodes, rfl, hreads.foundIn⟩

end Stencil
