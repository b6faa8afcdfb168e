import Stencil.CommandLine.Arguments
import Stencil.Engine
import Stencil.Tree.Rows
import Stencil.Variables

/-!
# The program

From the arguments, the variables file and the standard input follows what the program writes and how
it exits. Nothing is written to the standard output unless all has gone well; what is wrong with lines
of the variables file is written in any case.
-/

namespace Stencil.CommandLine

/-- What the program writes, and how it exits. -/
structure Outcome where
  exitCode : Nat
  output : String
  errors : String
deriving DecidableEq, Repr

/-- A variables file: its path, and its text or the reason why it cannot be had. -/
structure Source where
  path : String
  text : Except String String

/-- A variables file that is not there. -/
def Source.missing (path : String) : Source := ⟨path, .error "No such file or directory (os error 2)"⟩

/-- The places in which a variables file is looked for, in order: the home directory, the directory
for settings, and the current directory. -/
def candidates (home? settings? : Option String) : List String :=
  (home?.map (· ++ "/.stringyrc")).toList ++ (settings?.map (· ++ "/stringy/vars")).toList ++
    ["./.stringyrc"]

/-- A line that says what is wrong. -/
def complaint (message : String) : String := s!"stringy: {message}\n"

/-- How the program is called. -/
def usage : String :=
  "Usage: stringy [-d] [-s] [-t] [-f[<file>]] [-Dname=value]... [-e<expr>] [<template>]\n"

/-- What the program does with a command line that makes no sense. -/
def UsageError.outcome (e : UsageError) : Outcome := ⟨1, "", complaint e.message ++ usage⟩

/-- The bindings that a variables file defines, and the complaints about its lines. Without a file
there are none. -/
def loadSource : Option Source → Except String (Bindings × String)
  | none => .ok ([], "")
  | some source =>
    match source.text with
    | .error reason => .error (source.path ++ ": " ++ reason)
    | .ok text =>
      let (b, errors) := Variables.load text.toList
      let path := source.path
      let complaints := errors.map fun e =>
        let message := e.message
        complaint s!"warning: {path}: {message}"
      .ok (b, String.join complaints)

/-- Bindings with the definitions of a command line. -/
def defineAll (b : Bindings) : List String → Except String Bindings
  | [] => .ok b
  | definition :: definitions =>
    match Variables.define b definition.toList with
    | .error e => .error (s!"-D{definition}: " ++ e.message)
    | .ok b => defineAll b definitions

/-- The dump of a text's tree. -/
def dump (mode : Mode) (source : String) : Except String String :=
  match Node.ofText mode source.toList with
  | .ok node => .ok node.dump
  | .error e => .error e.message

/-- What an engine answers from these bindings. -/
def answer {α : Type} (b : Bindings) (engine : Engine α) : Except String α :=
  match engine b.withTextHelper with
  | .ok a _ => .ok a
  | .error e _ => .error e.message

/-- What goes to the standard output. -/
def produce (args : Arguments) (b : Bindings) (input : String) : Except String String :=
  let onError := if args.substitute then OnError.substitute else OnError.stop
  match args.expression? with
  | some expression =>
    if args.tree then dump .program expression
    else (answer b (Engine.evaluate .empty .value expression.toList)).map (·.display ++ "\n")
  | none =>
    let template := args.template?.getD input
    if args.tree then dump .text template
    else answer b (Engine.execute .empty onError template.toList)

/-- What the program does. -/
def run (args : Arguments) (source? : Option Source) (input : String) : Outcome :=
  match loadSource source? with
  | .error message => ⟨1, "", complaint message⟩
  | .ok (b, complaints) =>
    let output := do produce args (← defineAll b args.defines) input
    match output with
    | .ok output => ⟨0, output, complaints⟩
    | .error message => ⟨1, "", complaints ++ complaint message⟩

end Stencil.CommandLine
