/-
**The dump of an automaton.**

A text for the eye: a line each for the states, the start and the final states, then a line for
every symbol that has transitions from a state.
-/

import PatternNfa.Automaton.Basic

namespace PatternNfa

/-- The sign of a symbol: that of its class in a pattern, or the letter epsilon. -/
def Symbol.sign : Symbol → String
  | .read cls => String.singleton cls.patternChar
  | .epsilon => "ε"

namespace Automaton

/-- States in a list, with commas between them. -/
def listStates (states : List State) : String :=
  ", ".intercalate (states.map toString)

/-- The line for one entry of a row. -/
def entryLine (source : State) (symbol : Symbol) (targets : StateSet) : String :=
  toString source ++ " " ++ symbol.sign ++ " --> \x7b" ++ listStates targets.toList ++ "\x7d\n"

/-- The lines for a row. -/
def rowLines (source : State) (row : Row) : String :=
  String.join (row.entries.map fun (symbol, targets) => entryLine source symbol targets)

/-- The dump. -/
def dump (machine : Automaton) : String :=
  "States: (" ++ listStates (List.range machine.size) ++ ")\n" ++
  "Start: " ++ toString machine.start ++ "\n" ++
  "Final States: (" ++ listStates machine.finals.toList ++ ")\n" ++
  String.join (machine.rows.toList.zipIdx.map fun (row, source) => rowLines source row)

end Automaton

end PatternNfa
