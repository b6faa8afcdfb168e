import Stencil.Evaluation.Member
import Stencil.Evaluation.Operator
import Stencil.Tree

/-!
# Evaluation

The value of a tree is computed against bindings. Only loops bind: the variable of a loop must not be
bound before, takes each item in turn, and keeps the last one. What a loop has bound stays bound, also
where evaluation fails later on.

A template is rendered fragment by fragment. Where a fragment fails, rendering either stops, or goes
on with the wording of the error in the place of the fragment.
-/

namespace Stencil

/-- An evaluation: it reads and extends bindings, and those that are there when it fails remain. -/
abbrev Evaluation := EStateM RuntimeError Bindings

namespace Evaluation

/-- A result that belongs to a node. -/
def lift {α : Type} (nodeName : String) (token : Token) : Except Cause α → Evaluation α
  | .ok a => return a
  | .error cause => throw ⟨nodeName, token, cause⟩

/-- The value that a name is bound to. -/
def lookup (nodeName : String) (token : Token) (name : String) : Evaluation Value := do
  match (← get).get? name with
  | some v => return v
  | none => lift nodeName token (.error (.undefined name))

/-- Binds the variable of a loop. -/
def assign (nodeName : String) (token : Token) (name : String) (v : Value) : Evaluation Unit := do
  match (← get).set name v with
  | .ok bindings => set bindings
  | .error e => lift nodeName token (.error (.binding e))

/-- The written forms of the body, one for each item. -/
def forItems (token item : Token) (body : Evaluation Value) : List Value → Evaluation (List String)
  | [] => return []
  | v :: vs => do
    assign "EachLoop" token item.text v
    let first ← body
    return first.display :: (← forItems token item body vs)

/-- A loop, whose body is given by its evaluation. -/
def loop (host : Host) (token item source : Token) (body : Evaluation Value) : Evaluation Value := do
  if (← get).has item.text then lift "EachLoop" token (.error (.loopVariableTaken item.text))
  let v ← lookup "EachLoop" token source.text
  let items ← lift "EachLoop" token (host.items v source.text)
  return .text (String.join (← forItems token item body items))

end Evaluation

/-- The value of a literal. -/
def Literal.value : Literal → Value
  | int n => .integer n
  | real x => .real x
  | text s => .text s
  | bool b => .boolean b

open Evaluation in
mutual
/-- The value of a tree. -/
def Node.eval (host : Host) : Node → Evaluation Value
  | .template _ children => do
    return .text (String.join (Value.displays (← Node.evalAll host children)))
  | .terminal _ literal => return literal.value
  | .null _ => return .null
  | .noOp _ => return .text ""
  | .access (.bare token) _ => lookup "Identifier" token token.text
  | .access head members => do Link.evalMembers host (← head.evalHead host) members
  | .binary op left right => do
    let a ← left.eval host
    let b ← right.eval host
    lift "BinaryOperation" op (op.applyBinary a b)
  | .unary op operand => do
    let v ← operand.eval host
    lift "UnaryOperation" op (op.applyUnary v)
  | .branch condition thenBody elseBody => do
    match ← condition.eval host with
    | .boolean true => thenBody.eval host
    | .boolean false => elseBody.eval host
    | v => lift "Branch" condition.token (.error (.conditionType v.typeName))
  | .each token item source body => loop host token item.token source.token (body.eval host)
/-- The values of trees, from the left. -/
def Node.evalAll (host : Host) : List Node → Evaluation (List Value)
  | [] => return []
  | node :: nodes => do
    let v ← node.eval host
    return v :: (← Node.evalAll host nodes)
/-- The value of the link that an access starts with. -/
def Link.evalHead (host : Host) : Link → Evaluation Value
  | .bare token => lookup "Identifier" token token.text
  | .read token => lookup "VariableAccess" token token.text
  | .call token args => do
    match ← lookup "ProcedureCall" token token.text with
    | .procedure p =>
      let args ← Node.evalAll host args
      lift "ProcedureCall" token (host.callProcedure p token.text args)
    | _ => lift "ProcedureCall" token (.error (.notProcedure token.text))
/-- The value of a link behind a dot. The class is looked up before the arguments are evaluated. -/
def Link.evalMember (host : Host) (receiver : Value) : Link → Evaluation Value
  | .bare token => lift "Identifier" token (host.readMember receiver token.text)
  | .read token => lift "VariableAccess" token (host.readMember receiver token.text)
  | .call token args =>
    match host.classFor receiver token.text with
    | .error cause => lift "ProcedureCall" token (.error cause)
    | .ok c => do
      let args ← Node.evalAll host args
      lift "ProcedureCall" token (c.callMethod receiver token.text args)
/-- The value of links of which each follows the dot of the one before it. -/
def Link.evalMembers (host : Host) (receiver : Value) : List Link → Evaluation Value
  | [] => return receiver
  | link :: links => do Link.evalMembers host (← link.evalMember host receiver) links
end

/-- What is done where a fragment of a template fails. -/
inductive OnError where
  /-- The template fails as well. -/
  | stop
  /-- The wording of the error stands in the place of the fragment. -/
  | substitute
deriving DecidableEq, Repr

namespace Evaluation

/-- The written form of a value, or of the error if that is wanted. -/
def fragment (onError : OnError) (v : Evaluation Value) : Evaluation String := fun bindings =>
  match v bindings, onError with
  | .ok v bindings, _ => .ok v.display bindings
  | .error e bindings, .stop => .error e bindings
  | .error e bindings, .substitute => .ok e.message bindings

/-- The fragments of a template in writing. -/
def fragments (host : Host) (onError : OnError) : List Node → Evaluation (List String)
  | [] => return []
  | node :: nodes => do
    let first ← fragment onError (node.eval host)
    return first :: (← fragments host onError nodes)

/-- A tree in writing. Only the fragments of a template can be substituted. -/
def render (host : Host) (onError : OnError) : Node → Evaluation String
  | .template _ children => return String.join (← fragments host onError children)
  | node => return (← node.eval host).display

end Evaluation

end Stencil
