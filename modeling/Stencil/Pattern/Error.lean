/-!
# What is wrong with a pattern

Why a text writes down no pattern (`PatternError`).
-/

namespace Stencil

/-- What is wrong with a written pattern. -/
inductive PatternError where
  | unclosedGroup | unopenedGroup | unclosedClass | unclosedCount
  | nothingToRepeat | missingCount | hugeCount | reversedCount
  | unfinishedEscape | unknownEscape | backReference | lookAround | noCharacter
  | reversedRange | notInRange | notInClass
  | unknownFlag | repeatedFlag | missingFlag | badGroupName | repeatedGroupName
  | unknownBoundary | unknownProperty
  /-- Of the characters of ASCII only, a match could be part of another character. -/
  | partOfCharacter
  /-- Too many groups, classes and the like inside each other. -/
  | tooDeep
  | tooLarge
deriving DecidableEq, Repr

end Stencil
