/-
**Patterns.**

A pattern lists alternatives with a `U` between them, and an alternative that is left empty counts
for nothing. An alternative is a sequence of pieces. A piece is a literal, `a` for a letter or `d`
for a digit, or a group in parentheses, which holds literals only and is always starred. A star
after a literal belongs to that literal alone.

Every pattern has one written form, `Pattern.text`.
-/

import PatternNfa.CharClass.Basic

namespace PatternNfa

/-- One character of a class, or any number of them if it is starred. -/
structure Literal where
  cls : CharClass
  starred : Bool
  deriving DecidableEq

/-- How a literal is written. -/
def Literal.text (literal : Literal) : List Char :=
  literal.cls.patternChar :: if literal.starred then ['*'] else []

/-- What an alternative is made of. -/
inductive Piece where
  /-- A literal by itself. -/
  | literal (literal : Literal)
  /-- Any number of repetitions of a sequence of literals, of which there is a first one. -/
  | group (first : Literal) (rest : List Literal)
  deriving DecidableEq

/-- How a piece is written. -/
def Piece.text : Piece → List Char
  | .literal single => single.text
  | .group first rest => '(' :: (first :: rest).flatMap Literal.text ++ [')', '*']

/-- An alternative: pieces one after another. -/
abbrev Segment := List Piece

/-- How an alternative is written. -/
def Segment.text (segment : Segment) : List Char :=
  segment.flatMap Piece.text

/-- A pattern: one alternative and more of them. -/
structure Pattern where
  first : Segment
  rest : List Segment
  deriving DecidableEq

namespace Pattern

/-- All the alternatives, from left to right. -/
def segments (pattern : Pattern) : List Segment :=
  pattern.first :: pattern.rest

/-- How a pattern is written. -/
def text (pattern : Pattern) : List Char :=
  pattern.first.text ++ pattern.rest.flatMap fun segment => 'U' :: segment.text

end Pattern

end PatternNfa
