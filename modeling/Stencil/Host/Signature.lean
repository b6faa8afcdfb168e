import Stencil.Value.Fault

/-!
# Parameters and arguments

A method has a name and parameters, of which some carry the value to be used where no argument is
given. Binding gives each parameter its argument or that value, checks the kinds, and makes reals of
integers where a real is declared.
-/

namespace Stencil

/-- A parameter, with the value to be used where no argument is given. -/
structure Param where
  kind : ValueKind
  default? : Option Value := none

namespace Param

/-- May the argument be left out? -/
def isOptional (p : Param) : Bool := p.default?.isSome

/-- A value of the parameter's kind, if need be an integer made a real. -/
def promote (p : Param) (v : Value) : Value :=
  match p.kind, v with
  | .real, .integer n => .real n.toFloat
  | _, v => v

end Param

/-- The name and the parameters of a method. -/
structure Signature where
  name : String
  params : List Param

namespace Signature

/-- The number of arguments that must be given. -/
def required (s : Signature) : Nat := s.params.countP (!·.isOptional)

/-- The value of the parameter at a position: the argument, or the value for when there is none. -/
def bindOne (name : String) (position : Nat) (param : Param) (arg? : Option Value) :
    Except Fault Value :=
  match arg? <|> param.default? with
  | none => .error (.missingArgument name position)
  | some v =>
    if param.kind.admits v.kind then .ok (param.promote v)
    else .error (.argumentKind name position param.kind v.typeName)

/-- The values of parameters, of which the first is at the given position. -/
def bindFrom (name : String) (position : Nat) : List Param → List Value → Except Fault (List Value)
  | [], _ => .ok []
  | param :: params, args => do
    let v ← bindOne name position param args.head?
    return v :: (← bindFrom name (position + 1) params args.tail)

/-- One value for each parameter. -/
def bind (s : Signature) (args : List Value) : Except Fault (List Value) :=
  if s.params.length < args.length then
    .error (.tooManyArguments s.name s.params.length args.length)
  else
    bindFrom s.name 1 s.params args

end Signature

end Stencil
