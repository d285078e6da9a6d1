/-
**The automaton of a pattern.**

Every part of a pattern has an automaton: a literal one of two states, a starred part the
repetition of what it stars, a sequence the concatenation of its pieces from left to right, and a
pattern the union of its alternatives from left to right. A sequence or a pattern without anything
in it has none.
-/

import PatternNfa.Automaton.Kleene
import PatternNfa.Pattern.Reading

namespace PatternNfa

/-- The automaton that reads one character of a class. -/
def Automaton.reading (cls : CharClass) : Automaton where
  rows := #[Row.empty.insert (.read cls) 1, Row.empty]
  start := 0
  finals := {1}

/-- Joins automata from left to right; without any there is no result. -/
def Automaton.joinAll (join : Automaton → Automaton → Automaton) :
    List Automaton → Option Automaton
  | [] => none
  | first :: rest => some (rest.foldl join first)

/-- The automaton of a literal. -/
def Literal.machine (literal : Literal) : Automaton :=
  let once := Automaton.reading literal.cls
  if literal.starred then once.star else once

/-- The automaton of a piece. -/
def Piece.machine : Piece → Automaton
  | .literal single => single.machine
  | .group first rest =>
    (rest.foldl (fun joined literal => joined.concatenate literal.machine) first.machine).star

/-- The automaton of an alternative, unless it is empty. -/
def Segment.machine? (segment : Segment) : Option Automaton :=
  Automaton.joinAll Automaton.concatenate (segment.map Piece.machine)

/-- The automaton of a pattern, unless all its alternatives are empty. -/
def Pattern.machine? (pattern : Pattern) : Option Automaton :=
  Automaton.joinAll Automaton.union (pattern.segments.filterMap Segment.machine?)

/-- Reads a pattern and builds its automaton, if it has one. -/
def compile (text : String) : Except CompileError (Option Automaton) :=
  (Pattern.parse text.toList).map Pattern.machine?

end PatternNfa
