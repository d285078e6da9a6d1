/-
**Patterns expanded while a program is being built.**

A macro compiles a pattern ahead of the program that holds it: it puts in the pattern's place the
expression that rebuilds its automaton, or refuses the pattern with a message. The program has the
automaton that the expression evaluates to.

* `expand_eq_ok_iff`, `evaluates_of_expand`: what a pattern expands to, and that it can be evaluated;
* `expandedMachine_eq_ok_iff`: the automaton that the program has.
-/

import PatternNfa.Automaton.Expression
import PatternNfa.Pattern.Required

namespace PatternNfa

variable {text expression : String} {rebuilt : Automaton}

/-- What the macro says about a pattern it cannot expand. -/
def PatternFault.macroMessage : PatternFault → String
  | .empty => "Patterns can't be empty."
  | .invalid error => "Invalid pattern, " ++ error.message

/-- The expression that takes the place of a pattern. -/
def expand (text : String) : Except PatternFault String :=
  (compileRequired text).map fun machine => machine.parts.expression

/-- A pattern expands to the expression of its automaton. -/
theorem expand_eq_ok_iff :
    expand text = .ok expression ↔
      ∃ machine, compile text = .ok (some machine) ∧ machine.parts.expression = expression := by
  simp only [← compileRequired_eq_ok_iff, expand]
  cases compileRequired text <;> simp [Except.map]

/-- What a pattern expands to can be evaluated. -/
theorem evaluates_of_expand (expanded : expand text = .ok expression) :
    (Automaton.evaluate? expression).isSome := by
  obtain ⟨machine, _, rfl⟩ := expand_eq_ok_iff.mp expanded
  rw [Automaton.evaluate?_expression, Option.isSome_some]

/-- The automaton that the expression in a pattern's place evaluates to. -/
def expandedMachine (text : String) : Except PatternFault Automaton :=
  match expanded : expand text with
  | .error fault => .error fault
  | .ok expression => .ok ((Automaton.evaluate? expression).get (evaluates_of_expand expanded))

/-- **The program has what the expression evaluates to.** -/
theorem expandedMachine_eq_ok_iff :
    expandedMachine text = .ok rebuilt ↔
      ∃ expression, expand text = .ok expression ∧
        Automaton.evaluate? expression = some rebuilt := by
  unfold expandedMachine
  split
  · rename_i fault refused
    simp [refused]
  · rename_i expression expanded
    simp [expanded, Option.eq_some_iff_get_eq, evaluates_of_expand expanded]

end PatternNfa
