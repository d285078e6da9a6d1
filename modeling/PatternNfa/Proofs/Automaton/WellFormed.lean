/-
**Well-formed automata.**

An automaton is well-formed if it names no state that it does not have and keeps no empty entry.
Every operation keeps an automaton well-formed, whatever its arguments are. On well-formed automata
none of the links that a repetition, a concatenation or a union makes is refused, so the transitions
of the result can be told exactly.

* `WellFormed.star`, `WellFormed.concatenate`, `WellFormed.union`: the results are well-formed;
* `mem_transitions_star`, `mem_transitions_concatenate`, `mem_transitions_union`: their transitions.
-/

import PatternNfa.Automaton.Parts
import PatternNfa.Proofs.Automaton.Transitions

namespace PatternNfa.Automaton

/-- **Every state that the automaton names is one of its own**, and no entry is empty. -/
structure WellFormed (machine : Automaton) : Prop where
  start_lt : machine.start < machine.size
  final_lt : ∀ state ∈ machine.finals, state < machine.size
  target_lt : ∀ transition ∈ machine.transitions, transition.target < machine.size
  entry_ne_empty : ∀ state symbol, machine.destinations state symbol ≠ some ∅

variable {machine other : Automaton} {transition : Transition}

/-- A state that has moved up is still below the size, which has grown as well. -/
theorem add_size_lt {state : State} (inside : state < other.size) :
    state + machine.size < machine.size + other.size := by
  rw [Nat.add_comm]
  exact Nat.add_lt_add_left inside _

/-! ### The basic operations -/

namespace WellFormed

theorem isolated (count : Nat) : (Automaton.isolated count).WellFormed where
  start_lt := by
    rw [size_isolated]
    exact Nat.lt_of_lt_of_le Nat.zero_lt_one (Nat.le_max_left _ _)
  final_lt := fun _ inside => absurd inside Std.ExtTreeSet.not_mem_empty
  target_lt := by
    intro transition listed
    obtain ⟨targets, found, _⟩ := mem_transitions.mp listed
    rw [destinations_isolated] at found
    cases found
  entry_ne_empty := by
    intro state symbol
    rw [destinations_isolated]
    exact (Option.some_ne_none ∅).symm

/-- Another start and other final states do no harm, as long as the automaton has them. -/
theorem withEnds (sound : machine.WellFormed) {start : State} {finals : StateSet}
    (startInside : start < machine.size) (finalsInside : ∀ state ∈ finals, state < machine.size) :
    ({ machine with start := start, finals := finals } : Automaton).WellFormed :=
  ⟨startInside, finalsInside, sound.target_lt, sound.entry_ne_empty⟩

theorem addState (sound : machine.WellFormed) : machine.addState.2.WellFormed where
  start_lt := by
    rw [size_addState]
    exact Nat.lt_succ_of_lt sound.start_lt
  final_lt := by
    intro state inside
    rw [size_addState]
    exact Nat.lt_succ_of_lt (sound.final_lt state inside)
  target_lt := by
    intro transition listed
    rw [size_addState]
    exact Nat.lt_succ_of_lt (sound.target_lt transition (mem_transitions_addState.mp listed))
  entry_ne_empty := by
    intro state symbol
    rw [destinations_addState]
    exact sound.entry_ne_empty state symbol

theorem addTransition (sound : machine.WellFormed) (source : State) (symbol : Symbol)
    (target : State) : (machine.addTransition source symbol target).2.WellFormed where
  start_lt := by
    rw [start_addTransition, size_addTransition]
    exact sound.start_lt
  final_lt := by
    rw [finals_addTransition, size_addTransition]
    exact sound.final_lt
  target_lt := by
    intro transition listed
    rw [size_addTransition]
    rcases mem_transitions_addTransition.mp listed with old | ⟨_, inside, rfl⟩
    · exact sound.target_lt transition old
    · exact inside
  entry_ne_empty := by
    intro state other
    by_cases inside : source < machine.size ∧ target < machine.size
    · rw [destinations_addTransition inside.1 inside.2]
      split
      · intro isEmpty
        exact Std.ExtTreeSet.insert_ne_empty (Option.some.inj isEmpty)
      · exact sound.entry_ne_empty state other
    · rw [addTransition_of_not_lt inside]
      exact sound.entry_ne_empty state other

theorem setStart (sound : machine.WellFormed) (state : State) :
    (machine.setStart state).2.WellFormed := by
  unfold Automaton.setStart
  split
  · rename_i inside
    exact sound.withEnds (of_decide_eq_true inside) sound.final_lt
  · exact sound

theorem addFinal (sound : machine.WellFormed) (state : State) :
    (machine.addFinal state).2.WellFormed where
  start_lt := by
    rw [start_addFinal, size_addFinal]
    exact sound.start_lt
  final_lt := by
    intro final inside
    rw [size_addFinal]
    rcases mem_finals_addFinal.mp inside with old | ⟨stateInside, rfl⟩
    · exact sound.final_lt final old
    · exact stateInside
  target_lt := by
    rw [transitions_addFinal, size_addFinal]
    exact sound.target_lt
  entry_ne_empty := by
    unfold Automaton.addFinal
    split
    · exact sound.entry_ne_empty
    · exact sound.entry_ne_empty

theorem clearFinals (sound : machine.WellFormed) : machine.clearFinals.WellFormed :=
  sound.withEnds sound.start_lt fun _ inside => absurd inside Std.ExtTreeSet.not_mem_empty

theorem linkAll (sound : machine.WellFormed) (sources : List State) (target : State) :
    (machine.linkAll sources target).WellFormed := by
  induction sources generalizing machine with
  | nil => exact sound
  | cons source sources ih => exact ih (sound.addTransition source .epsilon target)

theorem addTransitions (sound : machine.WellFormed) (transitions : List Transition) :
    (machine.addTransitions transitions).WellFormed := by
  induction transitions generalizing machine with
  | nil => exact sound
  | cons transition transitions ih => exact ih (sound.addTransition _ _ _)

theorem addFinals (sound : machine.WellFormed) (states : List State) :
    (machine.addFinals states).WellFormed := by
  induction states generalizing machine with
  | nil => exact sound
  | cons state states ih => exact ih (sound.addFinal state)

/-- Parts of any kind give a well-formed automaton. -/
theorem ofParts (parts : Parts) : (Automaton.ofParts parts).WellFormed :=
  (((isolated parts.size).setStart parts.start).addTransitions parts.transitions).addFinals
    parts.finals

theorem absorb (sound : machine.WellFormed) (otherSound : other.WellFormed) :
    (machine.absorb other).WellFormed where
  start_lt := by
    rw [size_absorb]
    exact Nat.lt_add_right _ sound.start_lt
  final_lt := by
    intro state inside
    rw [size_absorb]
    exact Nat.lt_add_right _ (sound.final_lt state inside)
  target_lt := by
    intro transition listed
    rw [size_absorb]
    rcases mem_transitions_absorb.mp listed with old | ⟨moved, old, rfl⟩
    · exact Nat.lt_add_right _ (sound.target_lt transition old)
    · exact add_size_lt (otherSound.target_lt moved old)
  entry_ne_empty := by
    intro state symbol
    rw [destinations_absorb]
    split
    · exact sound.entry_ne_empty state symbol
    · intro isEmpty
      obtain ⟨targets, found, moved⟩ := Option.map_eq_some_iff.mp isEmpty
      refine otherSound.entry_ne_empty _ _ (found.trans (congrArg some ?_))
      refine Std.ExtTreeSet.eq_empty_iff_forall_not_mem.mpr fun target inside => ?_
      have listed : target + machine.size ∈ targets.shift machine.size :=
        StateSet.mem_shift.mpr ⟨target, inside, rfl⟩
      rw [moved] at listed
      exact Std.ExtTreeSet.not_mem_empty listed

end WellFormed

/-! ### Repetition -/

@[simp] theorem start_star (machine : Automaton) : machine.star.start = machine.size :=
  start_addFinal _

/-- The new state is final, and so is every old final state. -/
theorem mem_finals_star {state : State} :
    state ∈ machine.star.finals ↔ state ∈ machine.finals ∨ state = machine.size := by
  unfold star
  rw [mem_finals_addFinal]
  show state ∈ (machine.addState.2.linkAll _ _).finals ∨
    (machine.size < (machine.addState.2.linkAll _ _).size ∧ _) ↔ _
  rw [finals_linkAll, size_linkAll, size_addState]
  simp only [Nat.lt_succ_self, true_and]
  rfl

/-- **The new transitions lead to the old start**, from the new state and the final ones. -/
theorem mem_transitions_star (sound : machine.WellFormed) :
    transition ∈ machine.star.transitions ↔
      transition ∈ machine.transitions ∨
        ∃ exit ∈ machine.star.finals, transition = ⟨exit, .epsilon, machine.start⟩ := by
  have linked : machine.star.transitions =
      (machine.addState.2.linkAll (machine.size :: machine.finals.toList)
        machine.start).transitions := transitions_addFinal _
  rw [linked, mem_transitions_linkAll, mem_transitions_addState, size_addState]
  refine or_congr_right ⟨?_, ?_⟩
  · rintro ⟨exit, listed, _, _, rfl⟩
    refine ⟨exit, mem_finals_star.mpr ?_, rfl⟩
    rw [List.mem_cons, Std.ExtTreeSet.mem_toList] at listed
    exact listed.symm
  · rintro ⟨exit, final, rfl⟩
    rw [mem_finals_star] at final
    refine ⟨exit, ?_, ?_, Nat.lt_succ_of_lt sound.start_lt, rfl⟩
    · rw [List.mem_cons, Std.ExtTreeSet.mem_toList]
      exact final.symm
    · rcases final with old | rfl
      · exact Nat.lt_succ_of_lt (sound.final_lt exit old)
      · exact Nat.lt_succ_self _

theorem WellFormed.star (sound : machine.WellFormed) : machine.star.WellFormed := by
  have linked := sound.addState.linkAll (machine.size :: machine.finals.toList) machine.start
  have fresh : machine.size < (machine.addState.2.linkAll (machine.size :: machine.finals.toList)
      machine.start).size := by
    rw [size_linkAll, size_addState]
    exact Nat.lt_succ_self _
  exact (linked.withEnds fresh linked.final_lt).addFinal machine.size

/-! ### Concatenation -/

@[simp] theorem start_concatenate (machine other : Automaton) :
    (machine.concatenate other).start = machine.start :=
  start_linkAll _ _

@[simp] theorem finals_concatenate (machine other : Automaton) :
    (machine.concatenate other).finals = other.finals.shift machine.size :=
  finals_linkAll _ _

/-- **The new transitions are those of the second automaton**, moved up, and those from the old
final states to its start. -/
theorem mem_transitions_concatenate (sound : machine.WellFormed) (otherSound : other.WellFormed) :
    transition ∈ (machine.concatenate other).transitions ↔
      transition ∈ machine.transitions ∨
        (∃ old ∈ other.transitions, transition = old.shift machine.size) ∨
          ∃ exit ∈ machine.finals, transition = ⟨exit, .epsilon, other.start + machine.size⟩ := by
  unfold concatenate
  rw [mem_transitions_linkAll, ← or_assoc]
  refine or_congr mem_transitions_absorb ⟨?_, ?_⟩
  · rintro ⟨exit, listed, _, _, rfl⟩
    exact ⟨exit, Std.ExtTreeSet.mem_toList.mp listed, rfl⟩
  · rintro ⟨exit, final, rfl⟩
    refine ⟨exit, Std.ExtTreeSet.mem_toList.mpr final, ?_, ?_, rfl⟩
    · show exit < (machine.absorb other).size
      rw [size_absorb]
      exact Nat.lt_add_right _ (sound.final_lt exit final)
    · show other.start + machine.size < (machine.absorb other).size
      rw [size_absorb]
      exact add_size_lt otherSound.start_lt

theorem lt_of_mem_shift_finals (otherSound : other.WellFormed) {state : State}
    (inside : state ∈ other.finals.shift machine.size) : state < machine.size + other.size := by
  obtain ⟨final, listed, rfl⟩ := StateSet.mem_shift.mp inside
  exact add_size_lt (otherSound.final_lt final listed)

theorem WellFormed.concatenate (sound : machine.WellFormed) (otherSound : other.WellFormed) :
    (machine.concatenate other).WellFormed := by
  have joined := sound.absorb otherSound
  refine (joined.withEnds joined.start_lt fun state inside => ?_).linkAll _ _
  rw [size_absorb]
  exact lt_of_mem_shift_finals otherSound inside

/-! ### Union -/

@[simp] theorem start_union (machine other : Automaton) :
    (machine.union other).start = machine.size + other.size :=
  size_absorb machine other

theorem mem_finals_union {state : State} :
    state ∈ (machine.union other).finals ↔
      state ∈ machine.finals ∨ state ∈ other.finals.shift machine.size := by
  unfold union
  show state ∈ StateSet.insertAll (Automaton.linkAll _ _ _).finals _ ↔ _
  rw [StateSet.mem_insertAll, finals_linkAll, finals_linkAll]
  rfl

/-- **The new transitions are those of the second automaton**, moved up, and those from the new
state to both old starts. -/
theorem mem_transitions_union (sound : machine.WellFormed) (otherSound : other.WellFormed) :
    transition ∈ (machine.union other).transitions ↔
      transition ∈ machine.transitions ∨
        (∃ old ∈ other.transitions, transition = old.shift machine.size) ∨
          transition = ⟨machine.size + other.size, .epsilon, machine.start⟩ ∨
            transition = ⟨machine.size + other.size, .epsilon, other.start + machine.size⟩ := by
  have fresh : (machine.absorb other).addState.1 = machine.size + other.size :=
    size_absorb machine other
  unfold union
  show transition ∈ (((machine.absorb other).addState.2.linkAll
    [(machine.absorb other).addState.1] machine.start).linkAll
      [(machine.absorb other).addState.1] (other.start + machine.size)).transitions ↔ _
  rw [mem_transitions_linkAll, mem_transitions_linkAll, mem_transitions_addState,
    mem_transitions_absorb, size_linkAll, size_addState, size_absorb, fresh]
  have startInside : machine.start < machine.size + other.size + 1 :=
    Nat.lt_succ_of_lt (Nat.lt_add_right _ sound.start_lt)
  have otherStartInside : other.start + machine.size < machine.size + other.size + 1 :=
    Nat.lt_succ_of_lt (add_size_lt otherSound.start_lt)
  simp only [List.mem_singleton, exists_eq_left, Nat.lt_succ_self, startInside, otherStartInside,
    true_and, or_assoc]

theorem WellFormed.union (sound : machine.WellFormed) (otherSound : other.WellFormed) :
    (machine.union other).WellFormed := by
  have grown := (sound.absorb otherSound).addState
  have forked := (grown.linkAll [(machine.absorb other).addState.1] machine.start).linkAll
    [(machine.absorb other).addState.1] (other.start + machine.size)
  refine forked.withEnds ?_ fun state inside => ?_
  · rw [size_linkAll, size_linkAll, size_addState]
    exact Nat.lt_succ_self _
  · rw [size_linkAll, size_linkAll, size_addState, size_absorb]
    rcases StateSet.mem_insertAll.mp inside with old | moved
    · rw [finals_linkAll, finals_linkAll] at old
      exact Nat.lt_succ_of_lt (Nat.lt_add_right _ (sound.final_lt state old))
    · exact Nat.lt_succ_of_lt (lt_of_mem_shift_finals otherSound moved)

end PatternNfa.Automaton
