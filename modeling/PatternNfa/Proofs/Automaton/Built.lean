/-
**Automata that can be built.**

An automaton is built from a new one, from parts or from a pattern, and changed by any number of
edits, of which some join another automaton that has been built. Whatever the edits are and in
whichever order they come, the automaton is well-formed.

* `Built.wellFormed`: every automaton that can be built is well-formed.
-/

import PatternNfa.Proofs.Pattern.Denotation
import PatternNfa.Workbench.Edit

namespace PatternNfa

/-- The automaton that an edit joins, if it joins one. -/
def Edit.operand? : Edit → Option Automaton
  | .concatenate other => other
  | .union other => other
  | _ => none

namespace Automaton

/-- **The automata that can be built**, by any number of steps. -/
inductive Built : Automaton → Prop
  | single : Built .single
  | ofParts (parts : Parts) : Built (.ofParts parts)
  | compiled {text : String} {machine : Automaton} : compile text = .ok (some machine) →
      Built machine
  | edited {machine : Automaton} (edit : Edit) : Built machine →
      (∀ other, edit.operand? = some other → Built other) → Built (edit.apply machine).2

variable {machine other : Automaton}

namespace WellFormed

theorem concatenateOption (sound : machine.WellFormed) {operand : Option Automaton}
    (operandSound : ∀ other, operand = some other → other.WellFormed) :
    (machine.concatenateOption operand).WellFormed := by
  cases operand with
  | none => exact sound
  | some other => exact sound.concatenate (operandSound other rfl)

theorem unionOption (sound : machine.WellFormed) {operand : Option Automaton}
    (operandSound : ∀ other, operand = some other → other.WellFormed) :
    (machine.unionOption operand).WellFormed := by
  cases operand with
  | none => exact sound
  | some other => exact sound.union (operandSound other rfl)

/-- An edit keeps an automaton well-formed, even one that is refused. -/
theorem apply (sound : machine.WellFormed) (edit : Edit)
    (operandSound : ∀ other, edit.operand? = some other → other.WellFormed) :
    (edit.apply machine).2.WellFormed := by
  cases edit with
  | addState => exact sound.addState
  | addTransition source symbol target => exact sound.addTransition source symbol target
  | setStart state => exact sound.setStart state
  | addFinal state => exact sound.addFinal state
  | clearFinals => exact sound.clearFinals
  | star => exact sound.star
  | concatenate operand => exact sound.concatenateOption operandSound
  | union operand => exact sound.unionOption operandSound

end WellFormed

/-- **Every automaton that can be built is well-formed.** -/
theorem Built.wellFormed (built : machine.Built) : machine.WellFormed := by
  induction built with
  | single => exact .isolated 1
  | ofParts parts => exact .ofParts parts
  | compiled compiled => exact wellFormed_of_compile compiled
  | edited edit _ _ sound operandSound => exact sound.apply edit operandSound

theorem Built.star (built : machine.Built) : machine.star.Built :=
  .edited .star built fun _ joined => by cases joined

end Automaton

end PatternNfa
