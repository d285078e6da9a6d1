/-
**Equal automata.**

A well-formed automaton is determined by its size, its start, its final states and its transitions:
two that agree in these agree row by row. The order in which transitions were added and the way in
which an automaton was put together leave no trace. This makes concatenation associative as an
operation on automata, and not only on their languages.

* `WellFormed.destinations_eq_some_iff`: what an entry holds, in terms of the transitions;
* `WellFormed.ext`: what determines an automaton;
* `concatenate_assoc`: concatenation is associative, down to the numbers of the states;
* `foldl_concatenate`: a first automaton can be left for last when several are joined.
-/

import PatternNfa.Proofs.Automaton.WellFormed

namespace PatternNfa

/-! ### Moving up twice -/

/-- Moving up twice is moving up once. -/
theorem StateSet.shift_shift (states : StateSet) (first second : Nat) :
    (states.shift first).shift second = states.shift (second + first) := by
  have sums (old : State) : old + first + second = old + (second + first) := by
    rw [Nat.add_assoc, Nat.add_comm first]
  refine eq_of_mem_iff fun state => ?_
  simp only [mem_shift]
  constructor
  · rintro ⟨_, ⟨old, inside, rfl⟩, rfl⟩
    exact ⟨old, inside, (sums old).symm⟩
  · rintro ⟨old, inside, rfl⟩
    exact ⟨old + first, ⟨old, inside, rfl⟩, sums old⟩

theorem Transition.shift_shift (transition : Transition) (first second : Nat) :
    (transition.shift first).shift second = transition.shift (second + first) := by
  simp only [shift, Nat.add_assoc, Nat.add_comm first]

namespace Automaton

variable {machine other third : Automaton} {transition : Transition}

/-! ### What determines an automaton -/

/-- An automaton is determined by its entries, its start and its final states. -/
theorem ext_destinations (sizes : machine.size = other.size) (starts : machine.start = other.start)
    (finals : machine.finals = other.finals)
    (entries : ∀ state symbol, machine.destinations state symbol = other.destinations state symbol) :
    machine = other := by
  have entry {automaton : Automaton} {state : State} (inside : state < automaton.size)
      (symbol : Symbol) :
      automaton.rows[state].get? symbol = automaton.destinations state symbol := by
    rw [destinations, Array.getElem?_eq_getElem inside, Option.bind_some]
  have rows : machine.rows = other.rows := by
    refine Array.ext sizes fun state inside otherInside => Row.ext_get? fun symbol => ?_
    rw [entry inside, entry otherInside, entries]
  obtain ⟨_, _, _⟩ := machine
  obtain ⟨_, _, _⟩ := other
  cases rows
  cases starts
  cases finals
  rfl

/-- **An entry holds the targets of the transitions**, and without a transition there is none. -/
theorem WellFormed.destinations_eq_some_iff (sound : machine.WellFormed) {state : State}
    {symbol : Symbol} {targets : StateSet} :
    machine.destinations state symbol = some targets ↔
      targets ≠ ∅ ∧ ∀ target, target ∈ targets ↔ ⟨state, symbol, target⟩ ∈ machine.transitions := by
  have listed (target : State) : ⟨state, symbol, target⟩ ∈ machine.transitions ↔
      ∃ found, machine.destinations state symbol = some found ∧ target ∈ found := mem_transitions
  constructor
  · intro found
    refine ⟨fun isEmpty => sound.entry_ne_empty state symbol (isEmpty ▸ found), fun target => ?_⟩
    simp [listed, found]
  · rintro ⟨nonempty, members⟩
    obtain ⟨target, inside⟩ := StateSet.exists_mem_of_ne_empty nonempty
    obtain ⟨found, entry, _⟩ := (listed target).mp ((members target).mp inside)
    have same : found = targets := by
      refine StateSet.eq_of_mem_iff fun state => ?_
      simp [members, listed, entry]
    rw [entry, same]

/-- **A well-formed automaton is determined by its size, its start, its final states and its
transitions.** -/
theorem WellFormed.ext (sound : machine.WellFormed) (otherSound : other.WellFormed)
    (sizes : machine.size = other.size) (starts : machine.start = other.start)
    (finals : machine.finals = other.finals)
    (transitions : ∀ transition, transition ∈ machine.transitions ↔ transition ∈ other.transitions) :
    machine = other := by
  refine ext_destinations sizes starts finals fun state symbol => Option.ext fun targets => ?_
  simp only [sound.destinations_eq_some_iff, otherSound.destinations_eq_some_iff, transitions]

/-! ### Concatenation -/

/-- The transitions of a concatenation, after all its states have moved up. -/
theorem mem_map_shift_concatenate (sound : machine.WellFormed) (otherSound : other.WellFormed)
    (offset : Nat) :
    (∃ old ∈ (machine.concatenate other).transitions, transition = old.shift offset) ↔
      (∃ old ∈ machine.transitions, transition = old.shift offset) ∨
        (∃ old ∈ other.transitions, transition = old.shift (offset + machine.size)) ∨
          ∃ exit ∈ machine.finals.shift offset,
            transition = ⟨exit, .epsilon, other.start + (offset + machine.size)⟩ := by
  have link (exit : State) :
      (⟨exit, .epsilon, other.start + machine.size⟩ : Transition).shift offset =
        ⟨exit + offset, .epsilon, other.start + (offset + machine.size)⟩ := by
    rw [Transition.shift, Nat.add_assoc, Nat.add_comm machine.size]
  simp only [mem_transitions_concatenate sound otherSound, or_and_right, exists_or]
  refine or_congr_right (or_congr ?_ ?_)
  · constructor
    · rintro ⟨_, ⟨old, listed, rfl⟩, rfl⟩
      exact ⟨old, listed, old.shift_shift machine.size offset⟩
    · rintro ⟨old, listed, rfl⟩
      exact ⟨_, ⟨old, listed, rfl⟩, (old.shift_shift machine.size offset).symm⟩
  · constructor
    · rintro ⟨_, ⟨exit, final, rfl⟩, rfl⟩
      exact ⟨exit + offset, StateSet.mem_shift.mpr ⟨exit, final, rfl⟩, link exit⟩
    · rintro ⟨_, moved, rfl⟩
      obtain ⟨exit, final, rfl⟩ := StateSet.mem_shift.mp moved
      exact ⟨_, ⟨exit, final, rfl⟩, (link exit).symm⟩

/-- **Concatenation is associative**, down to the numbers of the states. -/
theorem concatenate_assoc (sound : machine.WellFormed) (otherSound : other.WellFormed)
    (thirdSound : third.WellFormed) :
    (machine.concatenate other).concatenate third =
      machine.concatenate (other.concatenate third) := by
  have firstPair := sound.concatenate otherSound
  have secondPair := otherSound.concatenate thirdSound
  refine (firstPair.concatenate thirdSound).ext (sound.concatenate secondPair) ?_ ?_ ?_
    fun transition => ?_
  · simp only [size_concatenate, Nat.add_assoc]
  · simp only [start_concatenate]
  · simp only [finals_concatenate, size_concatenate, StateSet.shift_shift]
  · rw [mem_transitions_concatenate firstPair thirdSound,
      mem_transitions_concatenate sound otherSound, mem_transitions_concatenate sound secondPair,
      mem_map_shift_concatenate otherSound thirdSound, finals_concatenate, size_concatenate,
      start_concatenate]
    -- The two sides differ in where they name the links from the first automaton to the second.
    simp only [or_assoc]
    exact or_congr_right (or_congr_right (or_comm.trans or_assoc))

/-- **A first automaton can be left for last** when several are joined one after another. -/
theorem foldl_concatenate (sound : machine.WellFormed) (otherSound : other.WellFormed)
    {machines : List Automaton} (each : ∀ joined ∈ machines, joined.WellFormed) :
    machines.foldl concatenate (machine.concatenate other) =
      machine.concatenate (machines.foldl concatenate other) := by
  induction machines generalizing other with
  | nil => rfl
  | cons next machines ih =>
    have nextSound : next.WellFormed := each next List.mem_cons_self
    rw [List.foldl_cons, List.foldl_cons, concatenate_assoc sound otherSound nextSound]
    exact ih (otherSound.concatenate nextSound) fun joined listed =>
      each joined (List.mem_cons_of_mem next listed)

end Automaton

end PatternNfa
