/-
**The least closed set.**

A set of states is closed when epsilon transitions do not lead out of it. The closure of a set is the
least closed set around it, for any set: states that the automaton does not have stay in it and add
nothing. The laws of a closure follow from this.

* `closed_iff_step_subset`: closed sets in terms of single steps;
* `closure_subset`: no closed set around the given one is smaller;
* `closure_mono`, `closure_union`, `closure_insert`: the laws;
* `closure_least`: what the closure is for every automaton.
-/

import PatternNfa.Proofs.Automaton.Acceptance

namespace PatternNfa

open Relation (ReflTransGen)

/-- Every member of the first set is one of the second. -/
instance : HasSubset StateSet where
  Subset first second := ∀ state ∈ first, state ∈ second

namespace Automaton

variable {machine : Automaton} {states others bound : StateSet} {source target state : State}

/-! ### Closed sets -/

/-- A state that the automaton does not have has no transitions to follow. -/
theorem eq_of_silent_of_size_le (outside : machine.size ≤ source)
    (silent : ReflTransGen machine.Silent source target) : target = source := by
  cases silent.cases_head with
  | inl same => exact same.symm
  | inr more =>
    obtain ⟨_, listed, _⟩ := more
    exact absurd (source_lt_size listed) (Nat.not_lt_of_le outside)

/-- Epsilon transitions, one after another, are a path of which each symbol is an epsilon. -/
theorem silent_iff_exists_path :
    ReflTransGen machine.Silent source target ↔
      ∃ count, machine.Path source (List.replicate count .epsilon) target := by
  constructor
  · intro silent
    induction silent using ReflTransGen.head_induction_on with
    | refl => exact ⟨0, .nil target⟩
    | head listed _ ih =>
      obtain ⟨count, path⟩ := ih
      exact ⟨count + 1, .cons listed path⟩
  · intro walked
    obtain ⟨count, path⟩ := walked
    refine path.silent ?_
    rw [Symbol.spelled, List.filterMap_replicate_of_none rfl]

theorem mem_step_epsilon :
    target ∈ machine.step states .epsilon ↔ ∃ source ∈ states, machine.Silent source target := by
  simp only [mem_step, Silent, mem_transitions]

/-- **A set is closed if one epsilon step leads to no other states.** -/
theorem closed_iff_step_subset :
    machine.Closed states ↔ machine.step states .epsilon ⊆ states := by
  constructor
  · intro closed target reached
    obtain ⟨source, inside, listed⟩ := mem_step_epsilon.mp reached
    exact closed source inside target listed
  · intro inside source member target listed
    exact inside target (mem_step_epsilon.mpr ⟨source, member, listed⟩)

/-! ### The laws of a closure -/

theorem subset_closure (sound : machine.WellFormed) (states : StateSet) :
    states ⊆ machine.closure states :=
  fun state inside => (mem_closure sound).mpr ⟨state, inside, .refl⟩

/-- **No closed set around the given one is smaller than the closure.** -/
theorem closure_subset (sound : machine.WellFormed) (inside : states ⊆ bound)
    (closed : machine.Closed bound) : machine.closure states ⊆ bound := by
  intro target reached
  obtain ⟨source, begun, silent⟩ := (mem_closure sound).mp reached
  exact closed.mem_of_silent (inside source begun) silent

/-- A larger set has a larger closure, for this is a closed set around the smaller one. -/
theorem closure_mono (sound : machine.WellFormed) (smaller : states ⊆ others) :
    machine.closure states ⊆ machine.closure others :=
  closure_subset sound
    (fun state inside => subset_closure sound others state (smaller state inside))
    (closed_closure sound others)

/-- What is reached from two sets together is reached from one of them. -/
theorem closure_union (sound : machine.WellFormed) (states others : StateSet) :
    machine.closure (states ∪ others) = machine.closure states ∪ machine.closure others := by
  refine StateSet.eq_of_mem_iff fun target => ?_
  simp only [Std.ExtTreeSet.mem_union_iff, mem_closure sound, or_and_right, exists_or]

/-- A state that the automaton does not have is all that it adds to the closure. -/
theorem closure_insert (sound : machine.WellFormed) (outside : machine.size ≤ state)
    (states : StateSet) :
    machine.closure (states.insert state) = (machine.closure states).insert state := by
  refine StateSet.eq_of_mem_iff fun target => ?_
  rw [StateSet.mem_insert, mem_closure sound, mem_closure sound]
  constructor
  · intro reached
    obtain ⟨source, inside, silent⟩ := reached
    rcases StateSet.mem_insert.mp inside with rfl | old
    · exact Or.inl (eq_of_silent_of_size_le outside silent)
    · exact Or.inr ⟨source, old, silent⟩
  · intro either
    rcases either with rfl | ⟨source, inside, silent⟩
    · exact ⟨target, StateSet.mem_insert.mpr (Or.inl rfl), .refl⟩
    · exact ⟨source, StateSet.mem_insert.mpr (Or.inr inside), silent⟩

/-! ### Every automaton -/

/-- **The closure of a set is the least closed set around it**: the states to which epsilon transitions
lead from its members, any number of them or none. It holds the set, one more epsilon step leads to
no other states, and it is part of every set of which these two hold. A state that the automaton does
not have adds itself and nothing else. A second closure adds nothing, a larger set has a larger
closure, and the closure of a union is the union of the closures. -/
theorem closure_least (built : machine.Built) (states : StateSet) :
    (∀ target, target ∈ machine.closure states ↔
        ∃ source ∈ states, ∃ count,
          machine.Path source (List.replicate count .epsilon) target) ∧
      (states ⊆ machine.closure states ∧
        machine.step (machine.closure states) .epsilon ⊆ machine.closure states ∧
        ∀ bound, states ⊆ bound → machine.step bound .epsilon ⊆ bound →
          machine.closure states ⊆ bound) ∧
      (∀ state, machine.contains state = false →
        machine.closure (states.insert state) = (machine.closure states).insert state) ∧
      machine.closure (machine.closure states) = machine.closure states ∧
      (∀ others, states ⊆ others → machine.closure states ⊆ machine.closure others) ∧
      (∀ others,
        machine.closure (states ∪ others) = machine.closure states ∪ machine.closure others) ∧
      machine.closure ∅ = ∅ := by
  have sound := built.wellFormed
  have closed := closed_closure sound states
  refine ⟨fun target => ?_, ⟨subset_closure sound states, closed_iff_step_subset.mp closed,
    fun bound inside steps => closure_subset sound inside (closed_iff_step_subset.mpr steps)⟩,
    fun state foreign => ?_, closed.closure_eq sound, fun others => closure_mono sound,
    closure_union sound states, machine.closed_empty.closure_eq sound⟩
  · simp only [mem_closure sound, silent_iff_exists_path]
  · exact closure_insert sound (Nat.le_of_not_lt (of_decide_eq_false foreign)) states

/-- In the repetition of a ring an epsilon transition leads from the new start 2 to the old one, and
there is no state 7. The closure of these two is no larger than a closed set around them, and the
state 7 makes no difference to the rest of it. -/
theorem closure_least_ring :
    (ofParts .ring).star.closure (.ofStates [2, 7]) ⊆ .ofStates [0, 2, 7] ∧
      0 ∈ (ofParts .ring).star.closure (.ofStates [2]) ∧
      (ofParts .ring).star.closure (.ofStates [2]) ⊆
        (ofParts .ring).star.closure (.ofStates [2, 7]) ∧
      (ofParts .ring).star.closure ((StateSet.ofStates [2]).insert 7) =
        ((ofParts .ring).star.closure (.ofStates [2])).insert 7 := by
  have listed {first second : List State} (inside : first ⊆ second) :
      StateSet.ofStates first ⊆ StateSet.ofStates second := by
    intro state member
    rw [StateSet.mem_ofStates] at member ⊢
    exact inside member
  have steps : (ofParts .ring).star.step (.ofStates [0, 2, 7]) .epsilon = .ofStates [0] := by
    decide +kernel
  have both := closure_least (Built.ofParts .ring).star (.ofStates [2, 7])
  have one := closure_least (Built.ofParts .ring).star (.ofStates [2])
  refine ⟨both.2.1.2.2 _ (listed (by decide)) ?_, (one.1 0).mpr ⟨2, ?_, 1, .cons ?_ (.nil 0)⟩,
    one.2.2.2.2.1 _ (listed (by decide)), one.2.2.1 7 (by decide)⟩
  · rw [steps]
    exact listed (by decide)
  · exact StateSet.mem_ofStates.mpr List.mem_cons_self
  · decide +kernel

end Automaton

end PatternNfa
