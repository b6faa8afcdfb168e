import Stencil.Pattern.Parser
import Stencil.Pattern.Program

/-!
# Engines for patterns

Which texts are patterns, and what a pattern matches, is not said by the language. An engine reads a
pattern or gives a reason why it cannot, and then tells whether a text matches. What is assumed of an
engine is in the types of `Patterns`: reading ends in a pattern or in a reason, matching ends in yes or
no, and both depend on nothing but the texts. Whatever is proved of members holds for every engine.

A host that names no engine has `Patterns.standard`, which gives no reasons.
-/

namespace Stencil

/-- An engine for patterns. -/
structure Patterns where
  /-- A pattern that has been read. -/
  Compiled : Type
  /-- Reads a pattern. A text that is none is refused for a reason. -/
  compile : List Char → Except String Compiled
  /-- Does some part of the text match? -/
  isMatch : Compiled → List Char → Bool

/-- The engine of the patterns of this library. -/
def Patterns.standard : Patterns where
  Compiled := Pattern
  compile source := (Pattern.ofText source).mapError fun _ => ""
  isMatch := Pattern.matchesIn

end Stencil
