/-
**The epsilon closure.**

The states that can be reached from a set without reading a character. They are found with a list
of the states whose epsilon transitions are still to be followed: one round takes the first of them
and puts each target that is new on the list. A state goes on the list once, when it is first seen,
so there are at most as many rounds as the given set and the automaton have states.
-/

import PatternNfa.Automaton.Basic

namespace PatternNfa

/-- A search that is under way. -/
structure Search where
  /-- The states found so far. -/
  seen : StateSet
  /-- Those of them whose epsilon transitions are still to be followed, the next one first. -/
  pending : List State

namespace Search

/-- The search begins at the given states and follows the greatest of them first. -/
def begin (states : StateSet) : Search :=
  ⟨states, states.toList.reverse⟩

/-- Notes a state; one that is new will have to be followed. -/
def note (search : Search) (state : State) : Search :=
  if search.seen.contains state then
    search
  else
    ⟨search.seen.insert state, state :: search.pending⟩

/-- One round: follows the epsilon transitions of the next state. -/
def advance (machine : Automaton) (search : Search) : Search :=
  match search.pending with
  | [] => search
  | state :: pending =>
    let targets := (machine.destinations state .epsilon).getD ∅
    targets.toList.foldl note ⟨search.seen, pending⟩

/-- At most `rounds` rounds; the search stops when nothing is left to follow. -/
def run (machine : Automaton) : Nat → Search → Search
  | 0, search => search
  | rounds + 1, search =>
    if search.pending.isEmpty then search else run machine rounds (search.advance machine)

end Search

namespace Automaton

/-- The states reachable from the given ones by epsilon transitions. -/
def closure (machine : Automaton) (states : StateSet) : StateSet :=
  ((Search.begin states).run machine (states.size + machine.size)).seen

end Automaton

end PatternNfa
