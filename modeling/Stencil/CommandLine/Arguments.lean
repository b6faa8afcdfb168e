/-!
# Arguments of the command line

Options are letters behind a hyphen, several of them in a row if need be. `f`, `D` and `e` take the
rest of their argument, or the next one; `f` takes the next one only if it starts with no hyphen, and
may do without. Behind `--` nothing is an option any more, and neither is a hyphen alone.
-/

namespace Stencil.CommandLine

/-- Which variables file is loaded. -/
inductive VariablesFile where
  /-- The first one found in the usual places. -/
  | search
  /-- None. -/
  | skip
  | file (path : String)
deriving DecidableEq, Repr, Inhabited

/-- What is asked for on a command line. -/
structure Arguments where
  debug : Bool := false
  /-- Errors are written in the place of the fragments that fail. -/
  substitute : Bool := false
  /-- The tree is shown, and nothing evaluated. -/
  tree : Bool := false
  variablesFile : VariablesFile := .search
  defines : List String := []
  expression? : Option String := none
  template? : Option String := none
deriving DecidableEq, Repr, Inhabited

/-- What is wrong with a command line. -/
inductive UsageError where
  | missingArgument (option : Char)
  | unknownOption (option : Char)
  | tooManyArguments (count : Nat)
  | expressionAndTemplate
deriving DecidableEq, Repr

/-- The wording of an error. -/
def UsageError.message : UsageError → String
  | missingArgument option => s!"-{option} requires an argument"
  | unknownOption option => s!"unknown option: -{option}"
  | tooManyArguments count => s!"too many arguments ({count})"
  | expressionAndTemplate => "-e cannot be combined with a template argument"

namespace Arguments

/-- Does an argument start with a hyphen? -/
def isHyphened (arg : String) : Bool := arg.toList.head? == some '-'

/-- An option that takes an argument, with that argument. -/
def take (args : Arguments) (option : Char) (value : String) : Arguments :=
  if option = 'D' then { args with defines := args.defines ++ [value] }
  else { args with expression? := some value }

/-- The options of one argument, where `next?` is the argument after it. The second component says
whether that one is taken as well. -/
def readOptions (args : Arguments) (next? : Option String) :
    List Char → Except UsageError (Arguments × Bool)
  | [] => .ok (args, false)
  | 'd' :: options => readOptions { args with debug := true } next? options
  | 's' :: options => readOptions { args with substitute := true } next? options
  | 't' :: options => readOptions { args with tree := true } next? options
  | 'f' :: options =>
    if !options.isEmpty then .ok ({ args with variablesFile := .file (String.ofList options) }, false)
    else match next? with
      | some next =>
        if isHyphened next then .ok ({ args with variablesFile := .skip }, false)
        else .ok ({ args with variablesFile := .file next }, true)
      | none => .ok ({ args with variablesFile := .skip }, false)
  | option :: options =>
    if option ≠ 'D' && option ≠ 'e' then .error (.unknownOption option)
    else if !options.isEmpty then .ok (args.take option (String.ofList options), false)
    else match next? with
      | some next => .ok (args.take option next, true)
      | none => .error (.missingArgument option)

/-- The options of some arguments, and the arguments that are no options, in order. -/
def readAll (args : Arguments) : List String → Except UsageError (Arguments × List String)
  | [] => .ok (args, [])
  | arg :: rest =>
    if arg = "--" then .ok (args, rest)
    else if !isHyphened arg || arg = "-" then
      (readAll args rest).map fun (args, others) => (args, arg :: others)
    else
      match readOptions args rest.head? arg.toList.tail with
      | .error e => .error e
      | .ok (args, takesNext) => readAll args (rest.drop (if takesNext then 1 else 0))
termination_by argv => argv.length
decreasing_by all_goals simp only [List.length_cons, List.length_drop]; omega

/-- What a command line asks for. -/
def read (argv : List String) : Except UsageError Arguments :=
  match readAll {} argv with
  | .error e => .error e
  | .ok (args, []) => .ok args
  | .ok (args, [template]) =>
    if args.expression?.isSome then .error .expressionAndTemplate
    else .ok { args with template? := some template }
  | .ok (_, others) => .error (.tooManyArguments others.length)

/-- Is the template read from the standard input? -/
def readsInput (args : Arguments) : Bool := args.expression?.isNone && args.template?.isNone

end Arguments

end Stencil.CommandLine
