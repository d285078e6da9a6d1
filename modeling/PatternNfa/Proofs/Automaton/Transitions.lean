/-
**What each operation does to the transitions.**

One statement for each basic operation, without any condition on the automaton: which transitions
it has afterwards. The proofs about automata read these statements and never look into the rows.

* `mem_transitions_addTransition`: only the given transition is new, and only between states that
  are there;
* `mem_transitions_linkAll`: only epsilon transitions to the one target are new;
* `mem_transitions_absorb`: the new transitions are those of the second automaton, moved up.
-/

import PatternNfa.Automaton.Kleene

namespace PatternNfa

/-- The transition after all states have moved up by `offset`. -/
def Transition.shift (offset : Nat) (transition : Transition) : Transition :=
  ⟨transition.source + offset, transition.symbol, transition.target + offset⟩

namespace Automaton

variable {machine other : Automaton} {transition : Transition}

/-- A transition begins at a state of the automaton. -/
theorem source_lt_size (listed : transition ∈ machine.transitions) :
    transition.source < machine.size := by
  obtain ⟨targets, found, _⟩ := mem_transitions.mp listed
  refine Nat.lt_of_not_le fun outside => ?_
  rw [destinations_of_size_le outside] at found
  cases found

@[simp] theorem destinations_isolated (count : Nat) (state : State) (symbol : Symbol) :
    (isolated count).destinations state symbol = none := by
  refine Option.eq_none_iff_forall_not_mem.mpr fun targets found => ?_
  obtain ⟨row, isEmpty, entry⟩ := Option.bind_eq_some_iff.mp found
  rw [isolated, Array.getElem?_replicate] at isEmpty
  split at isEmpty
  · cases isEmpty
    rw [Row.get?_empty] at entry
    cases entry
  · cases isEmpty

@[simp] theorem mem_transitions_addState :
    transition ∈ machine.addState.2.transitions ↔ transition ∈ machine.transitions := by
  rw [mem_transitions, mem_transitions, destinations_addState]

/-- An entry gains the target, and nothing else. -/
theorem mem_addTarget {entry : Option StateSet} {target state : State} :
    (∃ targets, Row.addTarget target entry = some targets ∧ state ∈ targets) ↔
      (∃ targets, entry = some targets ∧ state ∈ targets) ∨ state = target := by
  simp only [Row.addTarget, Option.some.injEq, exists_eq_left', StateSet.mem_insert]
  rw [or_comm]
  cases entry <;> simp

/-- **Only the given transition is new**, and only between states of the automaton. -/
theorem mem_transitions_addTransition {source target : State} {symbol : Symbol} :
    transition ∈ (machine.addTransition source symbol target).2.transitions ↔
      transition ∈ machine.transitions ∨
        (source < machine.size ∧ target < machine.size ∧ transition = ⟨source, symbol, target⟩) := by
  by_cases inside : source < machine.size ∧ target < machine.size
  · obtain ⟨tail, other, head⟩ := transition
    rw [mem_transitions, mem_transitions, destinations_addTransition inside.1 inside.2]
    simp only [inside, true_and, Transition.mk.injEq]
    by_cases same : tail = source ∧ other = symbol
    · obtain ⟨rfl, rfl⟩ := same
      rw [if_pos ⟨rfl, rfl⟩, mem_addTarget]
      simp
    · rw [if_neg same]
      exact ⟨Or.inl, fun both => both.resolve_right fun equal => same ⟨equal.1, equal.2.1⟩⟩
  · rw [addTransition_of_not_lt inside]
    exact ⟨Or.inl, fun both => both.resolve_right fun new => inside ⟨new.1, new.2.1⟩⟩

@[simp] theorem start_addTransition (source : State) (symbol : Symbol) (target : State) :
    (machine.addTransition source symbol target).2.start = machine.start := by
  unfold addTransition
  split <;> rfl

@[simp] theorem finals_addTransition (source : State) (symbol : Symbol) (target : State) :
    (machine.addTransition source symbol target).2.finals = machine.finals := by
  unfold addTransition
  split <;> rfl

/-! ### The final states -/

@[simp] theorem start_addFinal (state : State) :
    (machine.addFinal state).2.start = machine.start := by
  unfold addFinal
  split <;> rfl

@[simp] theorem transitions_addFinal (state : State) :
    (machine.addFinal state).2.transitions = machine.transitions := by
  unfold addFinal
  split <;> rfl

/-- Only the given state becomes final, and only if the automaton has it. -/
theorem mem_finals_addFinal {state other : State} :
    other ∈ (machine.addFinal state).2.finals ↔
      other ∈ machine.finals ∨ (state < machine.size ∧ other = state) := by
  unfold addFinal
  split
  · rename_i new
    simp only [contains, Bool.and_eq_true, decide_eq_true_eq] at new
    show other ∈ machine.finals.insert state ↔ _
    simp only [StateSet.mem_insert, new.1, true_and, or_comm]
  · rename_i kept
    refine ⟨Or.inl, fun both => both.elim id ?_⟩
    rintro ⟨inside, rfl⟩
    simpa [contains, inside] using kept

/-! ### Links and absorbed automata -/

theorem linkAll_cons (source : State) (sources : List State) (target : State) :
    machine.linkAll (source :: sources) target =
      (machine.addTransition source .epsilon target).2.linkAll sources target := rfl

/-- **Only epsilon transitions from the sources to the target are new.** -/
theorem mem_transitions_linkAll {sources : List State} {target : State} :
    transition ∈ (machine.linkAll sources target).transitions ↔
      transition ∈ machine.transitions ∨
        ∃ source ∈ sources, source < machine.size ∧ target < machine.size ∧
          transition = ⟨source, .epsilon, target⟩ := by
  induction sources generalizing machine with
  | nil => simp [linkAll]
  | cons source sources ih =>
    rw [linkAll_cons, ih, mem_transitions_addTransition, size_addTransition, or_assoc]
    simp only [List.mem_cons, exists_eq_or_imp]

@[simp] theorem start_linkAll (sources : List State) (target : State) :
    (machine.linkAll sources target).start = machine.start := by
  induction sources generalizing machine with
  | nil => rfl
  | cons source sources ih => rw [linkAll_cons, ih, start_addTransition]

@[simp] theorem finals_linkAll (sources : List State) (target : State) :
    (machine.linkAll sources target).finals = machine.finals := by
  induction sources generalizing machine with
  | nil => rfl
  | cons source sources ih => rw [linkAll_cons, ih, finals_addTransition]

/-- **The new transitions are those of the second automaton, moved up.** -/
theorem mem_transitions_absorb :
    transition ∈ (machine.absorb other).transitions ↔
      transition ∈ machine.transitions ∨
        ∃ old ∈ other.transitions, transition = old.shift machine.size := by
  rw [mem_transitions, destinations_absorb]
  by_cases below : transition.source < machine.size
  · rw [if_pos below, ← mem_transitions]
    refine ⟨Or.inl, fun both => both.resolve_right ?_⟩
    rintro ⟨old, _, rfl⟩
    exact Nat.not_lt_of_le (Nat.le_add_left _ _) below
  · rw [if_neg below]
    constructor
    · rintro ⟨_, found, inside⟩
      obtain ⟨targets, old, rfl⟩ := Option.map_eq_some_iff.mp found
      obtain ⟨target, listed, moved⟩ := StateSet.mem_shift.mp inside
      refine Or.inr ⟨⟨transition.source - machine.size, transition.symbol, target⟩,
        mem_transitions.mpr ⟨targets, old, listed⟩, ?_⟩
      rw [Transition.shift, moved, Nat.sub_add_cancel (Nat.le_of_not_lt below)]
    · rintro (old | ⟨old, listed, rfl⟩)
      · exact absurd (source_lt_size old) below
      · obtain ⟨targets, found, inside⟩ := mem_transitions.mp listed
        refine ⟨targets.shift machine.size, ?_, StateSet.mem_shift.mpr ⟨_, inside, rfl⟩⟩
        rw [Transition.shift, Nat.add_sub_cancel, found, Option.map_some]

end Automaton

end PatternNfa
