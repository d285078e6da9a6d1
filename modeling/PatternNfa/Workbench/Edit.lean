/-
**Edits and questions.**

What can be done to one automaton, and what can be asked about it, with the answers that are given.
-/

import PatternNfa.Automaton.Acceptance
import PatternNfa.Automaton.Dump
import PatternNfa.Automaton.Kleene
import PatternNfa.Automaton.Parts
import PatternNfa.Pattern.Error

namespace PatternNfa

/-- The answer to an instruction. -/
inductive Reply where
  /-- It is done, and there is nothing to tell. -/
  | done
  | number (n : Nat)
  | truth (b : Bool)
  | states (set : StateSet)
  | targets (entry : Option StateSet)
  | text (text : String)
  /-- All alternatives of the pattern are empty. -/
  | noPattern
  | refused (error : CompileError)
  /-- There is no automaton of that name. -/
  | noMachine
  deriving DecidableEq

/-- A change to an automaton. -/
inductive Edit where
  | addState
  | addTransition (source : State) (symbol : Symbol) (target : State)
  | setStart (state : State)
  | addFinal (state : State)
  | clearFinals
  | star
  | concatenate (other : Option Automaton)
  | union (other : Option Automaton)

/-- Carries out a change, and tells its result. -/
def Edit.apply : Edit → Automaton → Reply × Automaton
  | .addState, machine =>
    let (state, changed) := machine.addState
    (.number state, changed)
  | .addTransition source symbol target, machine =>
    let (effective, changed) := machine.addTransition source symbol target
    (.truth effective, changed)
  | .setStart state, machine =>
    let (effective, changed) := machine.setStart state
    (.truth effective, changed)
  | .addFinal state, machine =>
    let (effective, changed) := machine.addFinal state
    (.truth effective, changed)
  | .clearFinals, machine => (.done, machine.clearFinals)
  | .star, machine => (.done, machine.star)
  | .concatenate other, machine => (.done, machine.concatenateOption other)
  | .union other, machine => (.done, machine.unionOption other)

/-- A question about an automaton that does not concern a set of states. -/
inductive Question where
  | start
  | finals
  | size
  | contains (state : State)
  | hasTransition (state : State) (symbol : Symbol)
  | destinations (state : State) (symbol : Symbol)
  | accepts (input : String)
  | dump

/-- The answer to a question. -/
def Question.answer (machine : Automaton) : Question → Reply
  | .start => .number machine.start
  | .finals => .states machine.finals
  | .size => .number machine.size
  | .contains state => .truth (machine.contains state)
  | .hasTransition state symbol => .truth (machine.hasTransition state symbol)
  | .destinations state symbol => .targets (machine.destinations state symbol)
  | .accepts input => .truth (machine.accepts input)
  | .dump => .text machine.dump

end PatternNfa
