/-
**Patterns that must have an automaton.**

Where an automaton is needed, a pattern without one is at fault, be it that the text is no pattern
or that all its alternatives are empty.

* `compileRequired_eq_ok_iff`: a pattern is not at fault exactly when it has an automaton.
-/

import PatternNfa.Pattern.Machine

namespace PatternNfa

/-- Why a pattern has no automaton. -/
inductive PatternFault where
  /-- All its alternatives are empty. -/
  | empty
  /-- It is no pattern. -/
  | invalid (error : CompileError)
  deriving DecidableEq

/-- The automaton of a pattern. -/
def compileRequired (text : String) : Except PatternFault Automaton :=
  match compile text with
  | .ok (some machine) => .ok machine
  | .ok none => .error .empty
  | .error error => .error (.invalid error)

/-- A pattern is not at fault exactly when it has an automaton. -/
theorem compileRequired_eq_ok_iff {text : String} {machine : Automaton} :
    compileRequired text = .ok machine ↔ compile text = .ok (some machine) := by
  unfold compileRequired
  split <;> simp_all

end PatternNfa
