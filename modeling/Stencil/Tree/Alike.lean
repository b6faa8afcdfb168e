import Stencil.Tree

/-!
# Trees that are alike

Two trees are alike when they differ at most in where their tokens stand. Reals are compared as
numbers, so that a tree which holds no number is not even like itself.
-/

namespace Stencil

/-- Equal values of one type. -/
def Literal.alike : Literal → Literal → Bool
  | int m, int n => m == n
  | real x, real y => x == y
  | text s, text t => s == t
  | bool a, bool b => a == b
  | _, _ => false

mutual
/-- Equal but for where the tokens stand. -/
def Node.alike : Node → Node → Bool
  | .template a as, .template b bs => a.alike b && Node.allAlike as bs
  | .terminal a x, .terminal b y => a.alike b && x.alike y
  | .null a, .null b => a.alike b
  | .noOp a, .noOp b => a.alike b
  | .access a as, .access b bs => a.alike b && Link.allAlike as bs
  | .binary a left right, .binary b left' right' => a.alike b && left.alike left' && right.alike right'
  | .unary a operand, .unary b operand' => a.alike b && operand.alike operand'
  | .branch condition thenBody elseBody, .branch condition' thenBody' elseBody' =>
    condition.alike condition' && thenBody.alike thenBody' && elseBody.alike elseBody'
  | .each a item source body, .each b item' source' body' =>
    a.alike b && item.alike item' && source.alike source' && body.alike body'
  | _, _ => false
/-- As many on both sides, and alike one by one. -/
def Node.allAlike : List Node → List Node → Bool
  | [], [] => true
  | a :: as, b :: bs => a.alike b && Node.allAlike as bs
  | _, _ => false
/-- Links of one kind, equal but for where the tokens stand. -/
def Link.alike : Link → Link → Bool
  | .bare a, .bare b => a.alike b
  | .read a, .read b => a.alike b
  | .call a as, .call b bs => a.alike b && Node.allAlike as bs
  | _, _ => false
/-- As many on both sides, and alike one by one. -/
def Link.allAlike : List Link → List Link → Bool
  | [], [] => true
  | a :: as, b :: bs => a.alike b && Link.allAlike as bs
  | _, _ => false
end

end Stencil
