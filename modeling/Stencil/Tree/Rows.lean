import Stencil.Tree

/-!
# A tree, row by row

A tree is shown as one row for each node, a node before its operands, each row with the number of
nodes above it. `Node.rows_eq` says so with `Node.children`.
-/

namespace Stencil

/-- What is shown of a node, and how deep it lies. -/
structure Row where
  depth : Nat
  kindName : String
  token : Token
  literal? : Option Literal := none

mutual
/-- The rows of a tree that lies `depth` nodes deep. -/
def Node.rows (depth : Nat) : Node → List Row
  | .template token children => ⟨depth, "Template", token, none⟩ :: Node.rowsOfAll (depth + 1) children
  | .terminal token value => [⟨depth, "Terminal", token, some value⟩]
  | .null token => [⟨depth, "Null", token, none⟩]
  | .noOp token => [⟨depth, "NoOp", token, none⟩]
  | .access head members => head.rows depth ++ Link.rowsOfAll (depth + 1) members
  | .binary op left right =>
    ⟨depth, "BinaryOperation", op, none⟩ :: (left.rows (depth + 1) ++ right.rows (depth + 1))
  | .unary op operand => ⟨depth, "UnaryOperation", op, none⟩ :: operand.rows (depth + 1)
  | .branch condition thenBody elseBody =>
    ⟨depth, "Branch", condition.token, none⟩ ::
      (condition.rows (depth + 1) ++ thenBody.rows (depth + 1) ++ elseBody.rows (depth + 1))
  | .each token item source body =>
    ⟨depth, "EachLoop", token, none⟩ ::
      (item.rows (depth + 1) ++ source.rows (depth + 1) ++ body.rows (depth + 1))
/-- The rows of trees side by side. -/
def Node.rowsOfAll (depth : Nat) : List Node → List Row
  | [] => []
  | node :: nodes => node.rows depth ++ Node.rowsOfAll depth nodes
/-- The rows of a link, without those behind its dot. -/
def Link.rows (depth : Nat) : Link → List Row
  | .bare token => [⟨depth, "Identifier", token, none⟩]
  | .read token => [⟨depth, "VariableAccess", token, none⟩]
  | .call token args => ⟨depth, "ProcedureCall", token, none⟩ :: Node.rowsOfAll (depth + 1) args
/-- The rows of links of which each lies below the one before it. -/
def Link.rowsOfAll (depth : Nat) : List Link → List Row
  | [] => []
  | link :: links => link.rows depth ++ Link.rowsOfAll (depth + 1) links
end

namespace Node

private theorem rowsOfAll_eq (depth : Nat) (nodes : List Node) :
    Node.rowsOfAll depth nodes = nodes.flatMap (rows depth) := by
  induction nodes with
  | nil => simp [Node.rowsOfAll]
  | cons node nodes ih => simp [Node.rowsOfAll, ih]

private theorem flatMap_rows_ofMembers (depth : Nat) (members : List Link) :
    (ofMembers members).flatMap (rows depth) = Link.rowsOfAll depth members := by
  cases members with
  | nil => simp [ofMembers, Link.rowsOfAll]
  | cons head members => simp [ofMembers, rows, Link.rowsOfAll]

/-- The rows of a tree are a row of the root and then the rows of its operands, one node deeper. -/
theorem rows_eq (depth : Nat) (node : Node) :
    node.rows depth = ⟨depth, node.kindName, node.token, node.literal?⟩ ::
      node.children.flatMap (rows (depth + 1)) := by
  cases node with
  | template | terminal | null | noOp | binary | unary | branch | each =>
    simp [rows, rowsOfAll_eq, kindName, token, literal?, children]
  | access head members =>
    cases head <;> simp [rows, Link.rows, Link.args, Link.token, Link.kindName, rowsOfAll_eq,
      flatMap_rows_ofMembers, kindName, token, literal?, children]

/-- One line for each node, behind two blanks for each node above it. -/
def dump (node : Node) : String :=
  String.join ((node.rows 0).map fun row =>
    let indent := String.ofList (List.replicate (2 * row.depth) ' ')
    let name := row.kindName
    let text := row.token.text
    s!"{indent}{name} '{text}'\n")

end Node

end Stencil
