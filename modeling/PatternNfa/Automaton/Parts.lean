/-
**The parts of an automaton.**

An automaton can be written down as its number of states, its start, the list of its transitions
and the list of its final states. Lists of any kind can be turned into an automaton: what mentions
a state that is not there is left out, and there is always one state.

* `size_ofParts`: an automaton has as many states as its parts say, but one at least.
-/

import PatternNfa.Automaton.Basic

namespace PatternNfa

/-- What an automaton is made of, in lists. -/
structure Parts where
  size : Nat
  start : State
  transitions : List Transition
  finals : List State
  deriving DecidableEq

namespace Automaton

/-- The parts of an automaton, with both lists in ascending order. -/
def parts (machine : Automaton) : Parts where
  size := machine.size
  start := machine.start
  transitions := machine.transitions
  finals := machine.finals.toList

/-- Adds those transitions whose ends are states of the automaton. -/
def addTransitions (machine : Automaton) (transitions : List Transition) : Automaton :=
  transitions.foldl
    (fun grown transition =>
      (grown.addTransition transition.source transition.symbol transition.target).2)
    machine

/-- Makes those states final that are states of the automaton. -/
def addFinals (machine : Automaton) (states : List State) : Automaton :=
  states.foldl (fun grown state => (grown.addFinal state).2) machine

/-- The automaton with the given parts. It starts in state zero when the given start is not one of
its states. -/
def ofParts (parts : Parts) : Automaton :=
  let placed := ((isolated parts.size).setStart parts.start).2
  (placed.addTransitions parts.transitions).addFinals parts.finals

theorem addTransitions_cons (machine : Automaton) (added : Transition)
    (transitions : List Transition) :
    machine.addTransitions (added :: transitions) =
      (machine.addTransition added.source added.symbol added.target).2.addTransitions
        transitions := rfl

theorem addFinals_cons (machine : Automaton) (added : State) (states : List State) :
    machine.addFinals (added :: states) = (machine.addFinal added).2.addFinals states := rfl

@[simp] theorem size_addTransitions (machine : Automaton) (transitions : List Transition) :
    (machine.addTransitions transitions).size = machine.size := by
  induction transitions generalizing machine with
  | nil => rfl
  | cons added transitions ih => rw [addTransitions_cons, ih, size_addTransition]

@[simp] theorem size_addFinals (machine : Automaton) (states : List State) :
    (machine.addFinals states).size = machine.size := by
  induction states generalizing machine with
  | nil => rfl
  | cons added states ih => rw [addFinals_cons, ih, size_addFinal]

/-- An automaton has as many states as its parts say, but one at least. -/
@[simp] theorem size_ofParts (parts : Parts) : (ofParts parts).size = max 1 parts.size := by
  rw [ofParts, size_addFinals, size_addTransitions, size_setStart, size_isolated]

end Automaton

end PatternNfa
