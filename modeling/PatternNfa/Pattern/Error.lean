/-
**What is wrong with a pattern.**

A text that is no pattern is refused for one reason, at one place. The place is the number of
characters before it in the whole text.
-/

namespace PatternNfa

/-- Why a text is no pattern. -/
inductive CompileError.Kind where
  /-- A character with which no piece begins. -/
  | unexpectedChar (c : Char)
  /-- A group without a closing parenthesis. -/
  | unclosedGroup
  /-- An opening parenthesis inside a group. -/
  | nestedGroup
  /-- A group that no star follows. -/
  | missingStar
  /-- A group without a literal. -/
  | emptyGroup
  deriving DecidableEq

/-- Why and where a text is no pattern. -/
structure CompileError where
  position : Nat
  kind : CompileError.Kind
  deriving DecidableEq

/-- The reason in words. -/
def CompileError.Kind.message : CompileError.Kind → String
  | .unexpectedChar c => "Unexpected character '" ++ String.singleton c ++ "'."
  | .unclosedGroup => "This group is never closed."
  | .nestedGroup => "Groups can't be nested."
  | .missingStar => "Expected a '*' after this group."
  | .emptyGroup => "Groups can't be empty."

/-- The place and the reason in words. -/
def CompileError.message (error : CompileError) : String :=
  "at char " ++ toString error.position ++ ": " ++ error.kind.message

end PatternNfa
