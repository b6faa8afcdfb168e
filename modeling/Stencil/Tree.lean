import Stencil.Token

/-!
# Trees

A template is read into a tree. Its leaves are literals; a name, a call and what is read off them
with dots make one `access`, whose links stand in the order of the text. `Node.children` gives the
operands of a node in order, so that a link behind a dot is a child of the link before it.
-/

namespace Stencil

/-- A value that stands in the text itself. -/
inductive Literal where
  | int (n : Int64)
  | real (x : Float)
  | text (s : String)
  | bool (b : Bool)

mutual
/-- A node of a tree. -/
inductive Node where
  /-- Literal texts and programs, one after the other. -/
  | template (token : Token) (children : List Node)
  | terminal (token : Token) (value : Literal)
  /-- The word for no value. -/
  | null (token : Token)
  /-- Stands where a branch has no other side. -/
  | noOp (token : Token)
  /-- A name or a call, and the links behind the dots that follow it. -/
  | access (head : Link) (members : List Link)
  | binary (op : Token) (left right : Node)
  | unary (op : Token) (operand : Node)
  | branch (condition thenBody elseBody : Node)
  /-- The body once for each item of what `source` names, which the name of `item` is bound to. Of both no
  more is looked at than the token. -/
  | each (token : Token) (item source body : Node)
/-- A link of an access: a name that plays no part of its own, a name that is read, or a call. -/
inductive Link where
  | bare (token : Token)
  | read (token : Token)
  | call (token : Token) (args : List Node)
end

namespace Link

/-- The token of the link's name. -/
def token : Link → Token
  | bare token | read token | call token _ => token

/-- The arguments of a call. Nothing else has any. -/
def args : Link → List Node
  | bare _ | read _ => []
  | call _ args => args

/-- The name of a kind of link in messages. -/
def kindName : Link → String
  | bare _ => "Identifier"
  | read _ => "VariableAccess"
  | call _ _ => "ProcedureCall"

end Link

namespace Node

/-- The token that stands for a node in messages. A branch has none of its own, and is found by its
condition's. -/
def token : Node → Token
  | template token _ | terminal token _ | null token | noOp token => token
  | access head _ => head.token
  | binary op _ _ | unary op _ => op
  | branch condition _ _ => condition.token
  | each token _ _ _ => token

/-- The name of a kind of node in messages. -/
def kindName : Node → String
  | template .. => "Template"
  | terminal .. => "Terminal"
  | null _ => "Null"
  | noOp _ => "NoOp"
  | access head _ => head.kindName
  | binary .. => "BinaryOperation"
  | unary .. => "UnaryOperation"
  | branch .. => "Branch"
  | each .. => "EachLoop"

/-- The links behind the first dot, as a node. -/
def ofMembers : List Link → List Node
  | [] => []
  | head :: members => [access head members]

/-- The operands of a node, in order. -/
def children : Node → List Node
  | template _ children => children
  | terminal .. | null _ | noOp _ => []
  | access head members => head.args ++ ofMembers members
  | binary _ left right => [left, right]
  | unary _ operand => [operand]
  | branch condition thenBody elseBody => [condition, thenBody, elseBody]
  | each _ item source body => [item, source, body]

/-- The value that a node holds itself. -/
def literal? : Node → Option Literal
  | terminal _ value => some value
  | _ => none

/-- A name that plays no part of its own: what an operand of a loop is. -/
abbrev name (token : Token) : Node := access (.bare token) []

/-- A token in the place of a node is a plain name. -/
instance : Coe Token Node := ⟨name⟩

/-- A branch, whose other side may be missing. -/
def ifThen (condition thenBody : Node) (elseBody? : Option Node) : Node :=
  branch condition thenBody (elseBody?.getD (noOp condition.token))

end Node

end Stencil
