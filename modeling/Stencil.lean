import Stencil.Unicode.Letter
import Stencil.Unicode.Case
import Stencil.Unicode.Fold
import Stencil.Text
import Stencil.Number.Real
import Stencil.Tree.Parser
import Stencil.Tree.Rows
import Stencil.Tree.Alike
import Stencil.Value.Comparison
import Stencil.Value.Conversion
import Stencil.Main
import Stencil.Proofs.Reading.Run
import Stencil.Proofs.Reading.Derivation
import Stencil.Proofs.Reading.Form
import Stencil.Proofs.Reading.Sound
import Stencil.Proofs.Reading.Complete
import Stencil.Proofs.Reading.Whole
import Stencil.Proofs.Reading.Template
import Stencil.Proofs.Reading.Lazy
import Stencil.Proofs.Reading.Nodes
import Stencil.Proofs.Reading.Blanks
import Stencil.Proofs.Reading.Negation
import Stencil.Proofs.Reading.Balance
import Stencil.Proofs.Grammar
import Stencil.Proofs.Height
import Stencil.Proofs.Printing
import Stencil.Proofs.Scanning.ClosingBrace
import Stencil.Proofs.Scanning.Tiling
import Stencil.Proofs.Scanning.Restarts
import Stencil.Proofs.Shape
import Stencil.Proofs.Relabel
import Stencil.Proofs.InBraces
import Stencil.Proofs.Segments
import Stencil.Proofs.Rendering
import Stencil.Proofs.SourceOrder
import Stencil.Proofs.FailingNode
import Stencil.Proofs.Likeness
import Stencil.Proofs.Definitions
import Stencil.Proofs.Bindings.Entry
import Stencil.Proofs.Bindings.Growth
import Stencil.Proofs.Bindings.Dependence
import Stencil.Proofs.Bindings.Session
import Stencil.Proofs.Bindings.Iteration
import Stencil.Proofs.Bindings.Types
import Stencil.Proofs.Written.Integers
import Stencil.Proofs.Written.Quotes
import Stencil.Proofs.Written.Scalars
import Stencil.Proofs.Written.Lists
import Stencil.Proofs.Written.Files
import Stencil.Proofs.Written.FaultyLines
import Stencil.Proofs.CommandLine
import Stencil.Proofs.Calls.Arguments
import Stencil.Proofs.Calls.Overloads
import Stencil.Proofs.Calls.Substring
import Stencil.Proofs.Calls.Builtin
import Stencil.Proofs.Calls.Uses
import Stencil.Proofs.Calls.Receivers
import Stencil.Proofs.Calls.Proper
import Stencil.Proofs.Equality
import Stencil.Proofs.Arithmetic
