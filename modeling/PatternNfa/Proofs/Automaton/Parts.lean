/-
**An automaton and its parts.**

An automaton with given parts has those of the listed transitions and final states that it can have:
the ones that name only states that there are. Neither the order of the lists nor what is listed twice
makes a difference. A well-formed automaton names no other states, so it is rebuilt from its parts.

* `isolated_eq_repeat`: the states that it has before anything is listed;
* `mem_transitions_ofParts`, `mem_finals_ofParts`, `start_ofParts`: what is taken from the parts;
* `WellFormed.ofParts_parts`: a well-formed automaton is rebuilt from its parts.
-/

import PatternNfa.Proofs.Automaton.Representation

namespace PatternNfa.Automaton

variable {machine : Automaton} {transition : Transition} {state : State}

/-! ### Isolated states -/

theorem addState_isolated (count : Nat) :
    (isolated (count + 1)).addState = (count + 1, isolated (count + 2)) := by
  simp [addState, isolated, size, mapRows, Array.replicate_succ]

/-- **Isolated states are added one by one** to the first. -/
theorem isolated_eq_repeat (count : Nat) :
    isolated (count + 1) = Nat.repeat (fun machine => machine.addState.2) count single := by
  induction count with
  | zero => rfl
  | succ count ih => rw [Nat.repeat, ← ih, addState_isolated]

/-! ### The start -/

@[simp] theorem transitions_setStart (machine : Automaton) (state : State) :
    (machine.setStart state).2.transitions = machine.transitions := by
  unfold setStart
  split <;> rfl

@[simp] theorem finals_setStart (machine : Automaton) (state : State) :
    (machine.setStart state).2.finals = machine.finals := by
  unfold setStart
  split <;> rfl

theorem start_setStart (machine : Automaton) (state : State) :
    (machine.setStart state).2.start = if state < machine.size then state else machine.start := by
  unfold setStart
  by_cases inside : state < machine.size
  · have member : machine.contains state = true := decide_eq_true inside
    rw [if_pos member, if_pos inside]
  · have foreign : ¬machine.contains state = true := fun member => inside (of_decide_eq_true member)
    rw [if_neg foreign, if_neg inside]

/-! ### Lists of transitions and of final states -/

@[simp] theorem start_addTransitions (machine : Automaton) (transitions : List Transition) :
    (machine.addTransitions transitions).start = machine.start := by
  induction transitions generalizing machine with
  | nil => rfl
  | cons added transitions ih => rw [addTransitions_cons, ih, start_addTransition]

@[simp] theorem finals_addTransitions (machine : Automaton) (transitions : List Transition) :
    (machine.addTransitions transitions).finals = machine.finals := by
  induction transitions generalizing machine with
  | nil => rfl
  | cons added transitions ih => rw [addTransitions_cons, ih, finals_addTransition]

/-- **Only the listed transitions are new**, and only those between states of the automaton. -/
theorem mem_transitions_addTransitions {transitions : List Transition} :
    transition ∈ (machine.addTransitions transitions).transitions ↔
      transition ∈ machine.transitions ∨
        (transition ∈ transitions ∧ transition.source < machine.size ∧
          transition.target < machine.size) := by
  induction transitions generalizing machine with
  | nil => simp [addTransitions]
  | cons added transitions ih =>
    have first : (added.source < machine.size ∧ added.target < machine.size ∧ transition = added) ↔
        (transition = added ∧ transition.source < machine.size ∧
          transition.target < machine.size) := by
      constructor
      · rintro ⟨source, target, rfl⟩
        exact ⟨rfl, source, target⟩
      · rintro ⟨rfl, source, target⟩
        exact ⟨source, target, rfl⟩
    rw [addTransitions_cons, ih, mem_transitions_addTransition, size_addTransition, or_assoc, first,
      ← or_and_right, List.mem_cons]

@[simp] theorem start_addFinals (machine : Automaton) (states : List State) :
    (machine.addFinals states).start = machine.start := by
  induction states generalizing machine with
  | nil => rfl
  | cons added states ih => rw [addFinals_cons, ih, start_addFinal]

@[simp] theorem transitions_addFinals (machine : Automaton) (states : List State) :
    (machine.addFinals states).transitions = machine.transitions := by
  induction states generalizing machine with
  | nil => rfl
  | cons added states ih => rw [addFinals_cons, ih, transitions_addFinal]

/-- **Only the listed states become final**, and only those of the automaton. -/
theorem mem_finals_addFinals {states : List State} :
    state ∈ (machine.addFinals states).finals ↔
      state ∈ machine.finals ∨ (state ∈ states ∧ state < machine.size) := by
  induction states generalizing machine with
  | nil => simp [addFinals]
  | cons added states ih =>
    have first : (added < machine.size ∧ state = added) ↔
        (state = added ∧ state < machine.size) := by
      constructor
      · rintro ⟨inside, rfl⟩
        exact ⟨rfl, inside⟩
      · rintro ⟨rfl, inside⟩
        exact ⟨inside, rfl⟩
    rw [addFinals_cons, ih, mem_finals_addFinal, size_addFinal, or_assoc, first, ← or_and_right,
      List.mem_cons]

/-! ### Automata with given parts -/

variable {parts : Parts}

@[simp] theorem transitions_isolated (count : Nat) : (isolated count).transitions = [] := by
  refine List.eq_nil_iff_forall_not_mem.mpr fun transition listed => ?_
  obtain ⟨targets, found, _⟩ := mem_transitions.mp listed
  rw [destinations_isolated] at found
  cases found

/-- The given start is taken if there is such a state. -/
theorem start_ofParts :
    (ofParts parts).start = if parts.start < max 1 parts.size then parts.start else 0 := by
  rw [ofParts, start_addFinals, start_addTransitions, start_setStart, size_isolated]
  rfl

/-- **The transitions are those that are listed** and lead from a state to a state. -/
theorem mem_transitions_ofParts :
    transition ∈ (ofParts parts).transitions ↔
      transition ∈ parts.transitions ∧ transition.source < max 1 parts.size ∧
        transition.target < max 1 parts.size := by
  rw [ofParts, transitions_addFinals, mem_transitions_addTransitions, transitions_setStart,
    size_setStart, size_isolated, transitions_isolated]
  simp only [List.not_mem_nil, false_or]

/-- **The final states are the states that are listed.** -/
theorem mem_finals_ofParts :
    state ∈ (ofParts parts).finals ↔ state ∈ parts.finals ∧ state < max 1 parts.size := by
  rw [ofParts, mem_finals_addFinals, finals_addTransitions, size_addTransitions, finals_setStart,
    size_setStart, size_isolated]
  simp [isolated]

/-- **A well-formed automaton is rebuilt from its parts**: it has a state to start in, and none of its
transitions and final states is left out. -/
theorem WellFormed.ofParts_parts (sound : machine.WellFormed) :
    Automaton.ofParts machine.parts = machine := by
  have states : max 1 machine.parts.size = machine.size :=
    Nat.max_eq_right (Nat.succ_le_of_lt (Nat.zero_lt_of_lt sound.start_lt))
  refine (WellFormed.ofParts machine.parts).ext sound ?_ ?_ ?_ fun transition => ?_
  · rw [size_ofParts, states]
  · rw [start_ofParts, states]
    exact if_pos sound.start_lt
  · refine StateSet.eq_of_mem_iff fun state => ?_
    rw [mem_finals_ofParts, states]
    show state ∈ machine.finals.toList ∧ _ ↔ _
    rw [Std.ExtTreeSet.mem_toList]
    exact and_iff_left_of_imp (sound.final_lt state)
  · rw [mem_transitions_ofParts, states]
    exact and_iff_left_of_imp fun listed => ⟨source_lt_size listed, sound.target_lt _ listed⟩

end PatternNfa.Automaton
