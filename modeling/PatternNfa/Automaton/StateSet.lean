/-
**States and sets of states.**

The states of an automaton are the numbers below its size. A set of states has one representation:
two sets with the same members are equal, and a set lists its members in ascending order.

* `mem_shift`: the shifted set holds a state moved up by the offset, and nothing else.
-/

import Std.Data.ExtTreeSet

namespace PatternNfa

/-- A state, by its number. -/
abbrev State := Nat

/-- A finite set of states. -/
abbrev StateSet := Std.ExtTreeSet State

namespace StateSet

/-- The set of the states in a list. -/
def ofStates (states : List State) : StateSet :=
  Std.ExtTreeSet.ofList states

@[simp] theorem mem_ofStates {states : List State} {state : State} :
    state ∈ ofStates states ↔ state ∈ states := by
  simp [ofStates, Std.ExtTreeSet.mem_ofList]

theorem mem_insert {states : StateSet} {new state : State} :
    state ∈ states.insert new ↔ state = new ∨ state ∈ states := by
  rw [Std.ExtTreeSet.mem_insert, Std.compare_eq_iff_eq, eq_comm]

theorem mem_singleton {only state : State} :
    state ∈ ({only} : StateSet) ↔ state = only := by
  rw [Std.ExtTreeSet.singleton_eq_insert, mem_insert]
  simp

/-- Two sets with the same members are equal. -/
theorem eq_of_mem_iff {first second : StateSet}
    (same : ∀ state, state ∈ first ↔ state ∈ second) : first = second :=
  Std.ExtTreeSet.ext_mem same

theorem exists_mem_of_ne_empty {states : StateSet} (nonempty : states ≠ ∅) :
    ∃ state, state ∈ states := by
  simpa [Std.ExtTreeSet.eq_empty_iff_forall_not_mem] using nonempty

/-- Moves every state up by `offset`. -/
def shift (offset : Nat) (states : StateSet) : StateSet :=
  ofStates (states.toList.map (· + offset))

/-- The shifted set holds the states moved up by the offset, and nothing else. -/
theorem mem_shift {offset : Nat} {states : StateSet} {state : State} :
    state ∈ states.shift offset ↔ ∃ old ∈ states, old + offset = state := by
  simp [shift, Std.ExtTreeSet.mem_toList]

/-- Adds the states of `more`. -/
def insertAll (states more : StateSet) : StateSet :=
  states.insertMany more.toList

theorem mem_insertAll {states more : StateSet} {state : State} :
    state ∈ states.insertAll more ↔ state ∈ states ∨ state ∈ more := by
  simp [insertAll, Std.ExtTreeSet.mem_insertMany_list, Std.ExtTreeSet.mem_toList]

/-- Do the two sets have a member in common? -/
def meets (first second : StateSet) : Bool :=
  first.toList.any fun state => second.contains state

@[simp] theorem meets_eq_true_iff {first second : StateSet} :
    first.meets second = true ↔ ∃ state ∈ first, state ∈ second := by
  simp [meets, Std.ExtTreeSet.mem_toList]

end StateSet

end PatternNfa
