import Stencil.Proofs.Reading.Run

/-!
# Readers in settled steps

Each reader written as a row of steps that take the blanks behind them along (`settled`), which is
how the proofs go through it: between two such steps the reader always looks at a token that is no
blank.
-/

namespace Stencil.Parser

private theorem fail_bind {α β : Type} (e : Expected) (f : α → Parser β) :
    (fail e : Parser α) >>= f = fail e := by
  unfold fail
  rfl

/-- A loop: five tokens, and then its body. -/
theorem eachLoop_eq (statement : Parser Node) : eachLoop statement = (do
    let token ← settled (eat .identifier .eachWord)
    let item ← settled (eat .identifier .loopVariable)
    if ← atWord? "in" then
      let _ ← settled advance
      let source ← settled (eat .identifier .loopSource)
      let _ ← settled (eat .question .question)
      let body ← statement
      return .each token item source body
    else fail .inWord) := by
  simp only [eachLoop, settled, bind_assoc, pure_bind, discard_eq, fail_bind]

/-- The sides of a branch, the second of them behind a colon. -/
theorem sides_eq (statement : Parser Node) (condition : Node) : sides statement condition = (do
    let _ ← settled (eat .question .question)
    let thenBody ← settled statement
    if ← at? .colon then
      let _ ← settled advance
      let elseBody ← statement
      return .ifThen condition thenBody (some elseBody)
    else
      return .ifThen condition thenBody none) := by
  simp only [sides, settled, bind_assoc, pure_bind, discard_eq]

/-- A statement is a loop, or an expression that may be the condition of a branch. -/
theorem statementBody_eq (factor statement : Parser Node) : statementBody factor statement = (do
    skipBlanks
    if ← atWord? "each" then eachLoop statement
    else
      let node ← settled (expression factor)
      if ← at? .question then sides statement node else return node) := by
  simp only [statementBody, settled, bind_assoc, pure_bind]

/-- One more operator and its operand, on a level more. -/
theorem foldOperators_succ (ops : List Kind) (operand : Parser Node) (levels : Nat) (left : Node) :
    foldOperators ops operand (levels + 1) left = (do
      if ← atAny? ops then
        deepen
        let op ← settled advance
        let right ← settled operand
        foldOperators ops operand levels (.binary op left right)
      else
        return left) := by
  simp only [foldOperators, settled, bind_assoc, pure_bind]

/-- A row of operators, behind which the levels are what they were. -/
theorem tier_eq (ops : List Kind) (operand : Parser Node) : tier ops operand = (do
    let base := (← get).depth
    let first ← settled operand
    let node ← foldOperators ops operand (maxDepth - base) first
    modify fun state => state.atDepth base
    return node) := by
  simp only [tier, settled, bind_assoc, pure_bind, State.atDepth]

/-- What is looked for where a token starts no factor. -/
def wanted (t : Token) : Expected :=
  match t.kind with
  | .integerConst => .integerInRange
  | .realConst => .real
  | _ => .expression

/-- A factor, told by its first token. -/
theorem factorBody_eq (statement factor : Parser Node) (access : Parser (Link × List Link)) :
    factorBody statement factor access = (do
      skipBlanks
      let current := (← get).current
      if current.kind = .plus ∨ current.kind = .minus then
        let op ← advance
        let operand ← factor
        return .unary op operand
      else if current.kind = .null then
        let token ← advance
        return .null token
      else if current.kind = .identifier then
        let (head, members) ← access
        return .access head members
      else if current.kind = .lParen then
        let _ ← advance
        let node ← settled statement
        let _ ← eat .rParen .closeParen
        return node
      else if current.kind = .not then
        let _ ← advance
        factor
      else match current.literal? with
        | some value => terminal value
        | none => fail (wanted current)) := by
  unfold factorBody
  refine bind_congr fun _ => bind_congr fun state => ?_
  cases hkind : state.current.kind <;>
    simp only [settled, bind_assoc, pure_bind, discard_eq, Token.literal?, wanted, hkind, reduceCtorEq,
      or_self, or_true, true_or, ↓reduceIte]
  · cases Integer.read? state.current.text.toList <;> rfl
  · cases Real.read? state.current.text.toList <;> rfl

/-- One more argument, with a comma behind it or the closing parenthesis. -/
theorem argsUpTo_succ (statement : Parser Node) (bound : Nat) : argsUpTo statement (bound + 1) = (do
    if ← at? .rParen then return []
    else
      let arg ← settled statement
      if ← at? .comma then
        let _ ← settled advance
        return arg :: (← argsUpTo statement bound)
      else if ← at? .rParen then return arg :: (← argsUpTo statement bound)
      else fail .commaOrCloseParen) := by
  simp only [argsUpTo, settled, bind_assoc, pure_bind, discard_eq, fail_bind]

/-- There are no more arguments where the parenthesis closes. -/
theorem argsUpTo_of_closing {statement : Parser Node} {bound : Nat} {s : State}
    (h : s.current.kind = .rParen) : argsUpTo statement bound s = .ok [] s := by
  cases bound <;>
  · rw [argsUpTo, bind_of_ok (at?_run _ s), h]
    rfl

/-- Arguments in their parentheses. -/
theorem args_eq (statement : Parser Node) : args statement = (do
    let _ ← settled (eat .lParen .openParen)
    let args ← argsUpTo statement ((← get).supply.ahead.length + 1)
    let _ ← eat .rParen .closeParen
    return args) := by
  simp only [args, settled, bind_assoc, pure_bind, discard_eq]

/-- What may follow a link. -/
def members (access : Parser (Link × List Link)) (head : Link) : Parser (Link × List Link) := do
  if ← at? .dot then
    let _ ← settled advance
    let (member, members) ← access
    return (head, member :: members)
  else
    return (head, [])

/-- A link, and those behind its dot. -/
theorem accessBody_eq (statement : Parser Node) (access : Parser (Link × List Link)) :
    accessBody statement access = (do
      let token ← settled (eat .identifier .identifier)
      if ← at? .lParen then
        let args ← settled (args statement)
        members access (.call token args)
      else members access (.read token)) := by
  simp only [accessBody, members, settled, bind_assoc, pure_bind, discard_eq]

end Stencil.Parser
