import Stencil.CommandLine

/-!
# The command

Reads what the program needs, and writes what it answers.
-/

namespace Stencil.CommandLine

/-- The text of a file, or the reason why it cannot be had; nothing if there is no such file. -/
def source? (path : String) : IO (Option Source) := do
  try
    return some ⟨path, .ok (← IO.FS.readFile path)⟩
  catch
    | .noFileOrDirectory .. => return none
    | e => return some ⟨path, .error (toString e)⟩

/-- The first of some files that is there. -/
def firstSource? : List String → IO (Option Source)
  | [] => return none
  | path :: paths => do
    match ← source? path with
    | some source => return some source
    | none => firstSource? paths

/-- The variables file that is asked for. -/
def findSource (choice : VariablesFile) : IO (Option Source) := do
  match choice with
  | .skip => return none
  | .file path => return some ((← source? path).getD (.missing path))
  | .search =>
    let home? ← IO.getEnv "HOME"
    let settings? ← IO.getEnv "XDG_CONFIG_HOME"
    firstSource? (candidates home? (settings? <|> home?.map (· ++ "/.config")))

end Stencil.CommandLine

open Stencil.CommandLine in
/-- The program. -/
def main (argv : List String) : IO UInt32 := do
  let outcome ← match Arguments.read argv with
    | .error e => pure e.outcome
    | .ok args =>
      let source? ← findSource args.variablesFile
      let input ← if args.readsInput then (← IO.getStdin).readToEnd else pure ""
      pure (run args source? input)
  (← IO.getStderr).putStr outcome.errors
  (← IO.getStdout).putStr outcome.output
  return outcome.exitCode.toUInt32
