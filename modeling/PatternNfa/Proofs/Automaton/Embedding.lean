/-
**An automaton inside of another one.**

The automaton that a concatenation or a union takes in keeps its transitions and its final states,
under numbers moved up by one offset, and the rest of the result adds no transition that leaves one
of its states. What is read from such a state is therefore what was read from it before.

* `Embeds.languageFrom_add`: an embedded automaton reads the same words from each of its states;
* `embeds_concatenate`, `embeds_union_left`, `embeds_union_right`: what is embedded in what.
-/

import PatternNfa.Proofs.Automaton.Path

namespace PatternNfa.Automaton

/-- **The part is found in the whole**, moved up by the offset: no other transitions leave its
states, and no others of its states are final. -/
structure Embeds (part whole : Automaton) (offset : Nat) : Prop where
  mem_transitions_add : ∀ source < part.size, ∀ symbol state,
    ⟨source + offset, symbol, state⟩ ∈ whole.transitions ↔
      ∃ target, ⟨source, symbol, target⟩ ∈ part.transitions ∧ target + offset = state
  mem_finals_add : ∀ state < part.size, state + offset ∈ whole.finals ↔ state ∈ part.finals

section Paths

variable {part whole : Automaton} {offset : Nat} {source target : State} {symbols : List Symbol}

/-- A path of the part is a path of the whole. -/
theorem Embeds.path_add (embeds : Embeds part whole offset)
    (path : part.Path source symbols target) :
    whole.Path (source + offset) symbols (target + offset) := by
  induction path with
  | nil state => exact .nil _
  | cons listed _ ih =>
    refine .cons ?_ ih
    exact (embeds.mem_transitions_add _ (source_lt_size listed) _ _).mpr ⟨_, listed, rfl⟩

/-- A path of the whole from a state of the part does not leave the part. -/
theorem Embeds.path_of_add (embeds : Embeds part whole offset) (sound : part.WellFormed)
    {moved state : State} (path : whole.Path moved symbols state) (same : source + offset = moved)
    (inside : source < part.size) :
    ∃ target, part.Path source symbols target ∧ target + offset = state := by
  induction path generalizing source with
  | nil => exact ⟨source, .nil source, same⟩
  | cons listed _ ih =>
    subst same
    obtain ⟨next, old, moves⟩ := (embeds.mem_transitions_add source inside _ _).mp listed
    obtain ⟨target, rest, ends⟩ := ih moves (sound.target_lt _ old)
    exact ⟨target, .cons old rest, ends⟩

/-- **An embedded automaton reads the same words from each of its states.** -/
theorem Embeds.languageFrom_add (embeds : Embeds part whole offset) (sound : part.WellFormed)
    (inside : source < part.size) :
    whole.languageFrom (source + offset) = part.languageFrom source := by
  ext word
  constructor
  · rintro ⟨final, isFinal, symbols, path, spells⟩
    obtain ⟨target, old, rfl⟩ := embeds.path_of_add sound path rfl inside
    have below : target < part.size := old.target_lt sound inside
    exact ⟨target, (embeds.mem_finals_add target below).mp isFinal, symbols, old, spells⟩
  · rintro ⟨final, isFinal, symbols, path, spells⟩
    have moved := (embeds.mem_finals_add final (sound.final_lt final isFinal)).mpr isFinal
    exact ⟨final + offset, moved, symbols, embeds.path_add path, spells⟩

end Paths

/-! ### What the operations embed -/

variable {machine other : Automaton}

theorem shift_mem_iff {states : StateSet} {state : State} (offset : Nat) :
    state + offset ∈ states.shift offset ↔ state ∈ states := by
  rw [StateSet.mem_shift]
  constructor
  · rintro ⟨old, inside, same⟩
    exact Nat.add_right_cancel same ▸ inside
  · exact fun inside => ⟨state, inside, rfl⟩

/-- No state of the automaton is one that has moved up by its size. -/
theorem not_add_size_lt {state : State} : ¬ state + machine.size < machine.size :=
  Nat.not_lt_of_le (Nat.le_add_left _ _)

theorem mem_map_shift {source state : State} {symbol : Symbol} (offset : Nat) :
    (∃ old ∈ other.transitions, (⟨source + offset, symbol, state⟩ : Transition) = old.shift offset) ↔
      ∃ target, ⟨source, symbol, target⟩ ∈ other.transitions ∧ target + offset = state := by
  constructor
  · rintro ⟨⟨old, same, target⟩, listed, moves⟩
    obtain ⟨sources, rfl, rfl⟩ := Transition.mk.inj moves
    exact ⟨target, Nat.add_right_cancel sources ▸ listed, rfl⟩
  · rintro ⟨target, listed, rfl⟩
    exact ⟨⟨source, symbol, target⟩, listed, rfl⟩

/-- **A concatenation embeds the second automaton.** -/
theorem embeds_concatenate (sound : machine.WellFormed) (otherSound : other.WellFormed) :
    Embeds other (machine.concatenate other) machine.size where
  mem_transitions_add := by
    intro source inside symbol state
    rw [mem_transitions_concatenate sound otherSound, mem_map_shift]
    constructor
    · rintro (old | moved | ⟨exit, final, same⟩)
      · exact absurd (source_lt_size old) not_add_size_lt
      · exact moved
      · obtain ⟨rfl, _, _⟩ := Transition.mk.inj same
        exact absurd (sound.final_lt _ final) not_add_size_lt
    · exact fun moved => Or.inr (Or.inl moved)
  mem_finals_add := by
    intro state inside
    rw [finals_concatenate, shift_mem_iff]

/-- **A union embeds the first automaton**, which keeps its numbers. -/
theorem embeds_union_left (sound : machine.WellFormed) (otherSound : other.WellFormed) :
    Embeds machine (machine.union other) 0 where
  mem_transitions_add := by
    intro source inside symbol state
    have old : source ≠ machine.size + other.size :=
      Nat.ne_of_lt (Nat.lt_add_right _ inside)
    rw [mem_transitions_union sound otherSound]
    constructor
    · rintro (listed | ⟨moved, _, same⟩ | same | same)
      · exact ⟨state, listed, rfl⟩
      · obtain ⟨rfl, _, _⟩ := Transition.mk.inj same
        exact absurd inside not_add_size_lt
      · exact absurd (Transition.mk.inj same).1 old
      · exact absurd (Transition.mk.inj same).1 old
    · rintro ⟨target, listed, rfl⟩
      exact Or.inl listed
  mem_finals_add := by
    intro state inside
    rw [mem_finals_union]
    refine ⟨fun both => both.resolve_right fun moved => ?_, Or.inl⟩
    obtain ⟨old, _, rfl⟩ := StateSet.mem_shift.mp moved
    exact not_add_size_lt inside

/-- **A union embeds the second automaton.** -/
theorem embeds_union_right (sound : machine.WellFormed) (otherSound : other.WellFormed) :
    Embeds other (machine.union other) machine.size where
  mem_transitions_add := by
    intro source inside symbol state
    have old : source + machine.size ≠ machine.size + other.size :=
      Nat.ne_of_lt (add_size_lt inside)
    rw [mem_transitions_union sound otherSound, mem_map_shift]
    constructor
    · rintro (listed | moved | same | same)
      · exact absurd (source_lt_size listed) not_add_size_lt
      · exact moved
      · exact absurd (Transition.mk.inj same).1 old
      · exact absurd (Transition.mk.inj same).1 old
    · exact fun moved => Or.inr (Or.inl moved)
  mem_finals_add := by
    intro state inside
    rw [mem_finals_union, shift_mem_iff]
    exact ⟨fun both => both.resolve_left fun final =>
      not_add_size_lt (sound.final_lt _ final), Or.inr⟩

end PatternNfa.Automaton
