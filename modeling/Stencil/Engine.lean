import Stencil.Evaluation
import Stencil.Tree.Parser
import Stencil.Value.Conversion

/-!
# The engine

An engine keeps bindings from one text to the next: it renders templates, evaluates expressions and
binds names, and the text helper is bound from the start unless its name is taken. What fails leaves
the bindings as they were, but for the variables of loops that ran before.
-/

namespace Stencil

/-- Why an engine has no answer. -/
inductive EngineError where
  | parse (e : ParseError)
  | runtime (e : RuntimeError)
  | bind (e : BindError)
deriving DecidableEq, Repr

/-- The wording of an error. -/
def ParseError.message : ParseError → String
  | lexical e => e.message
  | grammatical e => e.message

/-- The wording of an error. -/
def EngineError.message : EngineError → String
  | parse e => e.message
  | runtime e => e.message
  | bind e => e.message

/-- The name of the text helper. -/
def TextHelper.boundName : String := "Text"

/-- Bindings with the text helper among them, unless its name is taken. -/
def Bindings.withTextHelper (b : Bindings) : Bindings :=
  if b.has TextHelper.boundName then b
  else
    let helper := Value.object (TextHelper.object 0)
    b ++ [(TextHelper.boundName, ⟨helper, helper.fixes?⟩)]

/-- A step of an engine, which keeps the bindings. -/
abbrev Engine := EStateM EngineError Bindings

namespace Engine

/-- What evaluation answers. -/
def ofEvaluation (e : Evaluation α) : Engine α := fun bindings =>
  match e bindings with
  | .ok a bindings => .ok a bindings
  | .error e bindings => .error (.runtime e) bindings

/-- The tree of a text. -/
def ofParse : Except ParseError Node → Engine Node
  | .ok node => return node
  | .error e => throw (.parse e)

/-- The value of an expression's tree, in the form that is asked for. -/
def inForm (form : Form) (node : Node) (v : Value) : Evaluation Value :=
  Evaluation.lift node.kindName node.token (Cause.ofFault (v.inForm form))

/-- Renders a template. -/
def execute (host : Host) (onError : OnError) (source : List Char) : Engine String := do
  let node ← ofParse (Node.ofText .text source)
  ofEvaluation (Evaluation.render host onError node)

/-- Evaluates an expression, and gives its value in the form that is asked for. There are no fragments
that an error could be substituted for. -/
def evaluate (host : Host) (form : Form) (source : List Char) : Engine Value := do
  let node ← ofParse (Node.ofText .program source)
  ofEvaluation do inForm form node (← node.eval host)

/-- Binds a name to a value. -/
def assign (name : String) (v : Value) : Engine Unit := do
  match (← get).set name v with
  | .ok bindings => set bindings
  | .error e => throw (.bind e)

end Engine

end Stencil
