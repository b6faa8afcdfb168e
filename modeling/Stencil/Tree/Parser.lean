import Stencil.Tree
import Stencil.Token.Supply
import Stencil.Number.Real

/-!
# Reading a tree off tokens

```text
template    := (TEXT | program)*
program     := '{' statement '}'
statement   := each | expression [ '?' statement [ ':' statement ] ]
each        := 'each' IDENT 'in' IDENT '?' statement
expression  := simple (('=' | '==' | '!=' | '>' | '<' | '>=' | '<=') simple)*
simple      := term (('+' | '-' | '||') term)*
term        := factor (('*' | '/' | '&&') factor)*
factor      := ('+' | '-') factor | '!' factor | INT | REAL | TEXT
             | 'null' | 'true' | 'false' | '(' statement ')' | access
access      := IDENT [ '(' [ statement (',' statement)* ] ')' ] [ '.' access ]
```

`each` and `in` are names with a meaning in their place. Blanks are skipped between the tokens of a
program. A reader looks one token ahead and pulls each token only when it is needed, so that what
stands behind an error does not matter.

Statements, factors, links and operators in a row count as levels, of which at most `maxDepth` may
lie on top of each other. This is also what ends the recursion: `statement`, `factor` and `access`
take the number of levels that may be left, and none of them is entered more deeply than the count in
the state allows. What ends each of the other loops is the number of tokens ahead.
-/

namespace Stencil

/-- What a reader looks for. -/
inductive Expected where
  | openBrace | closeBrace | openParen | closeParen | commaOrCloseParen | question
  | eachWord | inWord | loopVariable | loopSource
  | identifier | integerInRange | real | expression
  | textOrProgram | endOfInput
  /-- Fewer levels on top of each other. -/
  | fewerLevels
deriving DecidableEq, Repr

namespace Parser

/-- The greatest number of levels on top of each other. -/
def maxDepth : Nat := 256

end Parser

/-- The wording of what a reader looks for. -/
def Expected.wording : Expected → String
  | openBrace => "'\x7b'"
  | closeBrace => "'\x7d'"
  | openParen => "'('"
  | closeParen => "')'"
  | commaOrCloseParen => "',' or ')'"
  | question => "'?'"
  | eachWord => "'each'"
  | inWord => "'in'"
  | loopVariable => "loop variable name"
  | loopSource => "enumerable variable name"
  | identifier => "identifier"
  | integerInRange => "integer literal in range"
  | real => "real literal"
  | expression => "expression"
  | textOrProgram => "text or '\x7b'"
  | endOfInput => "end of input"
  | fewerLevels => s!"nesting depth <= {Parser.maxDepth}"

/-- A token that does not fit, and what was looked for in its place. -/
structure SyntaxError where
  found : Token
  expected : Expected
deriving DecidableEq, Repr

/-- The wording of an error. -/
def SyntaxError.message (e : SyntaxError) : String :=
  let text := e.found.text
  let kind := e.found.kind.name
  let offset := e.found.offset
  let expected := e.expected.wording
  s!"syntax error at token '{text}' ({kind}) at position {offset}: expected {expected}"

/-- Why a text has no tree. -/
inductive ParseError where
  | lexical (e : LexError)
  | grammatical (e : SyntaxError)
deriving DecidableEq, Repr

/-- What a reader knows while it reads. -/
structure Parser.State where
  /-- The token it looks at. -/
  current : Token
  supply : Token.Supply
  /-- The number of levels entered and not left. -/
  depth : Nat

/-- A reader of part of a tree. Its state lasts beyond an error. -/
abbrev Parser := EStateM ParseError Parser.State

namespace Parser

/-! ## Tokens -/

/-- The token looked at does not fit. -/
def fail (expected : Expected) : Parser α := do
  throw (.grammatical ⟨(← get).current, expected⟩)

/-- Is the token looked at of this kind? -/
def at? (kind : Kind) : Parser Bool := return (← get).current.kind == kind

/-- Is the token looked at of one of these kinds? -/
def atAny? (kinds : List Kind) : Parser Bool := return kinds.contains (← get).current.kind

/-- Is the token looked at this name? -/
def atWord? (word : String) : Parser Bool := do
  let current := (← get).current
  return current.kind == .identifier && current.text == word

/-- Takes the token looked at, and looks at the next one. -/
def advance : Parser Token := do
  let state ← get
  match state.supply.pull with
  | (.ok next, supply) =>
    set { state with current := next, supply }
    return state.current
  | (.error e, supply) =>
    set { state with supply }
    throw (.lexical e)

/-- Takes the token looked at, which must be of this kind. -/
def eat (kind : Kind) (expected : Expected) : Parser Token := do
  if ← at? kind then advance else fail expected

/-- Takes blanks for as long as there are any, and looks through at most these tokens. -/
def skipBlanksOver : List Token → Parser Unit
  | [] => do
    if ← at? .whitespace then discard advance
  | _ :: ahead => do
    if ← at? .whitespace then
      discard advance
      skipBlanksOver ahead

/-- Takes blanks for as long as there are any. -/
def skipBlanks : Parser Unit := do skipBlanksOver (← get).supply.ahead

/-! ## Levels -/

/-- Enters a level. -/
def deepen : Parser Unit := do
  let state ← get
  if state.depth < maxDepth then set { state with depth := state.depth + 1 }
  else fail .fewerLevels

/-- The state after a level is left. -/
def State.shallower (state : State) : State := { state with depth := state.depth - 1 }

/-- Reads on a level of its own, which is left on an error as well. -/
def nested (parser : Parser α) : Parser α := fun state =>
  match deepen state with
  | .error e state => .error e state
  | .ok _ state =>
    match parser state with
    | .ok a state => .ok a state.shallower
    | .error e state => .error e state.shallower

/-! ## Operators in a row -/

/-- The operators that compare. -/
def relational : List Kind := [.eq, .neq, .gt, .lt, .gte, .lte]

/-- The operators that add, with the one for "or". -/
def additive : List Kind := [.plus, .minus, .or]

/-- The operators that multiply, with the one for "and". -/
def multiplicative : List Kind := [.mul, .div, .and]

/-- Folds operators and their right operands onto `left`, from the left. Each one lies a level deeper
than the one before it, and at most `levels` of them fit. -/
def foldOperators (ops : List Kind) (operand : Parser Node) : (levels : Nat) → Node → Parser Node
  | 0, left => do
    if ← atAny? ops then fail .fewerLevels else return left
  | levels + 1, left => do
    if ← atAny? ops then
      deepen
      let op ← advance
      skipBlanks
      let right ← operand
      skipBlanks
      foldOperators ops operand levels (.binary op left right)
    else
      return left

/-- Operands with operators of one tier between them. -/
def tier (ops : List Kind) (operand : Parser Node) : Parser Node := do
  let base := (← get).depth
  let first ← operand
  skipBlanks
  let node ← foldOperators ops operand (maxDepth - base) first
  modify fun state => { state with depth := base }
  return node

/-- Factors with operators between them. The tiers bind the more tightly the further in. -/
def expression (factor : Parser Node) : Parser Node :=
  tier relational (tier additive (tier multiplicative factor))

/-! ## Statements -/

/-- A loop. -/
def eachLoop (statement : Parser Node) : Parser Node := do
  let token ← eat .identifier .eachWord
  skipBlanks
  let item ← eat .identifier .loopVariable
  skipBlanks
  unless ← atWord? "in" do fail .inWord
  discard advance
  skipBlanks
  let source ← eat .identifier .loopSource
  skipBlanks
  discard (eat .question .question)
  skipBlanks
  let body ← statement
  return .each token item source body

/-- The sides of a branch, behind its condition. -/
def sides (statement : Parser Node) (condition : Node) : Parser Node := do
  discard (eat .question .question)
  skipBlanks
  let thenBody ← statement
  skipBlanks
  if ← at? .colon then
    discard advance
    skipBlanks
    let elseBody ← statement
    return .ifThen condition thenBody (some elseBody)
  else
    return .ifThen condition thenBody none

/-- What a statement is made of. -/
def statementBody (factor statement : Parser Node) : Parser Node := do
  skipBlanks
  if ← atWord? "each" then eachLoop statement
  else
    let node ← expression factor
    skipBlanks
    if ← at? .question then sides statement node else return node

/-! ## Factors and links -/

/-- A literal, whose token is the one looked at. -/
def terminal (value : Literal) : Parser Node := return .terminal (← advance) value

/-- What a factor is made of. The word for "not" leaves no trace in the tree. -/
def factorBody (statement factor : Parser Node) (access : Parser (Link × List Link)) : Parser Node := do
  skipBlanks
  let current := (← get).current
  match current.kind with
  | .plus | .minus =>
    let op ← advance
    return .unary op (← factor)
  | .integerConst =>
    match Integer.read? current.text.toList with
    | some n => terminal (.int n)
    | none => fail .integerInRange
  | .realConst =>
    match Real.read? current.text.toList with
    | some x => terminal (.real x)
    | none => fail .real
  | .textLiteral => terminal (.text current.text)
  | .true => terminal (.bool true)
  | .false => terminal (.bool false)
  | .null => return .null (← advance)
  | .identifier =>
    let (head, members) ← access
    return .access head members
  | .lParen =>
    discard advance
    let node ← statement
    skipBlanks
    discard (eat .rParen .closeParen)
    return node
  | .not =>
    discard advance
    factor
  | _ => fail .expression

/-- Arguments up to the closing parenthesis, which is left. There are at most `bound` of them. -/
def argsUpTo (statement : Parser Node) : (bound : Nat) → Parser (List Node)
  | 0 => do
    if ← at? .rParen then return [] else fail .commaOrCloseParen
  | bound + 1 => do
    if ← at? .rParen then return []
    else
      let arg ← statement
      skipBlanks
      if ← at? .comma then
        discard advance
        skipBlanks
      else
        unless ← at? .rParen do fail .commaOrCloseParen
      return arg :: (← argsUpTo statement bound)

/-- Arguments in parentheses. No more of them can follow than there are tokens. -/
def args (statement : Parser Node) : Parser (List Node) := do
  discard (eat .lParen .openParen)
  skipBlanks
  let args ← argsUpTo statement ((← get).supply.ahead.length + 1)
  discard (eat .rParen .closeParen)
  return args

/-- What a link is made of, together with those behind its dot. -/
def accessBody (statement : Parser Node) (access : Parser (Link × List Link)) :
    Parser (Link × List Link) := do
  let token ← eat .identifier .identifier
  skipBlanks
  let head ←
    if ← at? .lParen then
      let args ← args statement
      skipBlanks
      pure (Link.call token args)
    else
      pure (Link.read token)
  if ← at? .dot then
    discard advance
    skipBlanks
    let (member, members) ← access
    return (head, member :: members)
  else
    return (head, [])

mutual
/-- A statement, with at most `levels` levels left. -/
def statement : (levels : Nat) → Parser Node
  | 0 => fail .fewerLevels
  | levels + 1 => nested (statementBody (factor levels) (statement levels))
/-- A factor, with at most `levels` levels left. -/
def factor : (levels : Nat) → Parser Node
  | 0 => fail .fewerLevels
  | levels + 1 => nested (factorBody (statement levels) (factor levels) (access levels))
/-- A link and those behind its dot, with at most `levels` levels left. -/
def access : (levels : Nat) → Parser (Link × List Link)
  | 0 => fail .fewerLevels
  | levels + 1 => nested (accessBody (statement levels) (access levels))
end

/-! ## Whole texts -/

/-- A program in braces. -/
def program : Parser Node := do
  discard (eat .lBrace .openBrace)
  let node ← statement maxDepth
  skipBlanks
  discard (eat .rBrace .closeBrace)
  return node

/-- Literal texts and programs up to the end. There are at most `bound` of them. -/
def fragmentsUpTo : (bound : Nat) → Parser (List Node)
  | 0 => do
    if ← at? .eof then return [] else fail .textOrProgram
  | bound + 1 => do
    let current := (← get).current
    if current.kind = .eof then return []
    else
      let node ← match current.kind with
        | .lBrace => program
        | .textLiteral => terminal (.text current.text)
        | _ => fail .textOrProgram
      return node :: (← fragmentsUpTo bound)

/-- A whole template, whose own token is the first one. -/
def template : Parser Node := do
  let state ← get
  return .template state.current (← fragmentsUpTo (state.supply.ahead.length + 1))

/-- A program without braces, and nothing after it. -/
def programBody : Parser Node := do
  let node ← statement maxDepth
  skipBlanks
  if ← at? .eof then return node else fail .endOfInput

/-- Reads from a supply. The first token is pulled before anything else. -/
def run (parser : Parser α) (supply : Token.Supply) : Except ParseError α × Token.Supply :=
  match supply.pull with
  | (.error e, supply) => (.error (.lexical e), supply)
  | (.ok current, supply) =>
    match parser { current, supply, depth := 0 } with
    | .ok a state => (.ok a, state.supply)
    | .error e state => (.error e, state.supply)

end Parser

namespace Node

/-- The tree of a text: a whole template, or the body of a program. -/
def ofSupply (mode : Mode) (supply : Token.Supply) : Except ParseError Node :=
  match mode with
  | .text => (Parser.template.run supply).1
  | .program => (Parser.programBody.run supply).1

/-- The tree of a template or of a program. -/
def ofText (mode : Mode) (source : List Char) : Except ParseError Node :=
  ofSupply mode (.ofText mode source)

end Node

end Stencil
