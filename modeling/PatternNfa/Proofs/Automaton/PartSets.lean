/-
**Only the sets in the parts count.**

An automaton with given parts takes from the lists what it can have: the transitions between its states
and the final states among them. In which order they are listed, how often, and what else is listed
besides leaves no trace in it, down to its representation. Two parts give the same automaton exactly if
they agree in what is taken from them.

* `transitions_eq_iff`: the list of the transitions, by its order and by what is on it;
* `Parts.Agree`, `ofParts_eq_iff`: parts that give the same automaton;
* `Parts.agree_of_perm`: another order, and more entries that make no difference;
* `ofParts_by_sets`: everything that an automaton takes from its parts.
-/

import PatternNfa.Proofs.Automaton.Counting
import PatternNfa.Proofs.Automaton.Parts

namespace PatternNfa

/-! ### The list of the transitions -/

theorem Transition.Before.asymm {first second : Transition} (before : first.Before second) :
    ¬second.Before first := by
  intro after
  have ranks (symbols : first.symbol = second.symbol) : first.symbol.rank = second.symbol.rank :=
    congrArg Symbol.rank symbols
  grind [Transition.Before]

/-- **The list of the transitions is the only one** that is in ascending order and holds just them. -/
theorem Automaton.transitions_eq_iff {machine : Automaton} {listed : List Transition} :
    machine.transitions = listed ↔
      listed.Pairwise Transition.Before ∧
        ∀ transition, transition ∈ listed ↔ transition ∈ machine.transitions := by
  constructor
  · rintro rfl
    exact ⟨machine.pairwise_before_transitions, fun transition => Iff.rfl⟩
  · rintro ⟨ascending, same⟩
    have perm := transitions_perm (ascending.imp Transition.Before.ne) fun transition =>
      (same transition).symm
    refine perm.eq_of_pairwise (fun first second _ _ before after => ?_)
      machine.pairwise_before_transitions ascending
    exact absurd after before.asymm

/-! ### What is taken from parts -/

namespace Parts

/-- An automaton with these parts has the state. -/
def HasState (parts : Parts) (state : State) : Prop :=
  state < max 1 parts.size

/-- An automaton with these parts has both ends of the transition. -/
def HasEnds (parts : Parts) (transition : Transition) : Prop :=
  parts.HasState transition.source ∧ parts.HasState transition.target

instance (parts : Parts) (state : State) : Decidable (parts.HasState state) :=
  inferInstanceAs (Decidable (state < max 1 parts.size))

instance (parts : Parts) (transition : Transition) : Decidable (parts.HasEnds transition) :=
  inferInstanceAs (Decidable (_ ∧ _))

/-- The state in which an automaton with these parts starts. -/
def startState (parts : Parts) : State :=
  if parts.start < max 1 parts.size then parts.start else 0

/-- **Parts that agree in what is taken from them.** -/
structure Agree (parts other : Parts) : Prop where
  sizes : max 1 parts.size = max 1 other.size
  starts : parts.startState = other.startState
  transitions : ∀ transition, parts.HasEnds transition →
    (transition ∈ parts.transitions ↔ transition ∈ other.transitions)
  finals : ∀ state, parts.HasState state → (state ∈ parts.finals ↔ state ∈ other.finals)

variable {parts other : Parts}

theorem Agree.hasState_iff (agree : parts.Agree other) (state : State) :
    parts.HasState state ↔ other.HasState state := by
  rw [HasState, HasState, agree.sizes]

/-- **Another order, repetitions, and entries with other states** make no difference. -/
theorem agree_of_perm {transitions moreTransitions : List Transition} {finals moreFinals : List State}
    (listed : transitions.Perm (parts.transitions ++ moreTransitions))
    (finalsListed : finals.Perm (parts.finals ++ moreFinals))
    (idle : ∀ transition ∈ moreTransitions,
      transition ∈ parts.transitions ∨ ¬parts.HasEnds transition)
    (finalsIdle : ∀ state ∈ moreFinals, state ∈ parts.finals ∨ ¬parts.HasState state) :
    parts.Agree ⟨parts.size, parts.start, transitions, finals⟩ where
  sizes := rfl
  starts := rfl
  transitions := by
    intro transition ends
    rw [listed.mem_iff, List.mem_append]
    refine ⟨Or.inl, fun either => either.elim id fun more => ?_⟩
    exact (idle transition more).resolve_right fun foreign => foreign ends
  finals := by
    intro state member
    rw [finalsListed.mem_iff, List.mem_append]
    refine ⟨Or.inl, fun either => either.elim id fun more => ?_⟩
    exact (finalsIdle state more).resolve_right fun foreign => foreign member

end Parts

namespace Automaton

variable {parts other : Parts}

theorem mem_transitions_ofParts_iff {transition : Transition} :
    transition ∈ (ofParts parts).transitions ↔
      transition ∈ parts.transitions ∧ parts.HasEnds transition :=
  mem_transitions_ofParts

theorem mem_finals_ofParts_iff {state : State} :
    state ∈ (ofParts parts).finals ↔ state ∈ parts.finals ∧ parts.HasState state :=
  mem_finals_ofParts

/-- **Parts give the same automaton exactly if they agree** in what is taken from them. -/
theorem ofParts_eq_iff : ofParts parts = ofParts other ↔ parts.Agree other := by
  constructor
  · intro same
    have sizes : max 1 parts.size = max 1 other.size := by
      rw [← size_ofParts, same, size_ofParts]
    have states (state : State) : parts.HasState state ↔ other.HasState state := by
      rw [Parts.HasState, Parts.HasState, sizes]
    refine ⟨sizes, ?_, fun transition ends => ?_, fun state member => ?_⟩
    · rw [Parts.startState, ← start_ofParts, same, start_ofParts, Parts.startState]
    · have listed : transition ∈ (ofParts parts).transitions ↔
          transition ∈ (ofParts other).transitions := by rw [same]
      have otherEnds : other.HasEnds transition := ⟨(states _).mp ends.1, (states _).mp ends.2⟩
      rwa [mem_transitions_ofParts_iff, mem_transitions_ofParts_iff, and_iff_left ends,
        and_iff_left otherEnds] at listed
    · have listed : state ∈ (ofParts parts).finals ↔ state ∈ (ofParts other).finals := by rw [same]
      rwa [mem_finals_ofParts_iff, mem_finals_ofParts_iff, and_iff_left member,
        and_iff_left ((states state).mp member)] at listed
  · intro agree
    refine (WellFormed.ofParts parts).ext (WellFormed.ofParts other) ?_ ?_ ?_ fun transition => ?_
    · rw [size_ofParts, size_ofParts, agree.sizes]
    · rw [start_ofParts, start_ofParts]
      exact agree.starts
    · refine StateSet.eq_of_mem_iff fun state => ?_
      rw [mem_finals_ofParts_iff, mem_finals_ofParts_iff, ← agree.hasState_iff]
      exact and_congr_left (agree.finals state)
    · have ends : parts.HasEnds transition ↔ other.HasEnds transition :=
        and_congr (agree.hasState_iff _) (agree.hasState_iff _)
      rw [mem_transitions_ofParts_iff, mem_transitions_ofParts_iff, ← ends]
      exact and_congr_left (agree.transitions transition)

/-- **An automaton depends only on the sets in its parts.** It has as many states as they say, but one
at least, and starts where they say if it has that state, and in state zero if it has not. Its list of
transitions is the one in strictly ascending order, by source, then by symbol, then by target, that
holds just the listed transitions between its states; none is on it twice. Its final states are its
states that are listed. Two parts give the same automaton, in its whole representation, exactly if they
agree in all this. So lists in any other order, with repetitions, or with entries that name other
states, give the same automaton. -/
theorem ofParts_by_sets (parts : Parts) :
    (ofParts parts).size = max 1 parts.size ∧
      (parts.HasState parts.start → (ofParts parts).start = parts.start) ∧
      (¬parts.HasState parts.start → (ofParts parts).start = 0) ∧
      (∀ listed, (ofParts parts).transitions = listed ↔
        listed.Pairwise Transition.Before ∧
          ∀ transition, transition ∈ listed ↔
            transition ∈ parts.transitions ∧ parts.HasEnds transition) ∧
      (ofParts parts).transitions.Nodup ∧
      (∀ state, state ∈ (ofParts parts).finals ↔ state ∈ parts.finals ∧ parts.HasState state) ∧
      (∀ other, ofParts parts = ofParts other ↔ parts.Agree other) ∧
      ∀ transitions moreTransitions finals moreFinals,
        transitions.Perm (parts.transitions ++ moreTransitions) →
        finals.Perm (parts.finals ++ moreFinals) →
        (∀ transition ∈ moreTransitions,
          transition ∈ parts.transitions ∨ ¬parts.HasEnds transition) →
        (∀ state ∈ moreFinals, state ∈ parts.finals ∨ ¬parts.HasState state) →
        ofParts ⟨parts.size, parts.start, transitions, finals⟩ = ofParts parts := by
  refine ⟨size_ofParts parts, fun member => ?_, fun foreign => ?_, fun listed => ?_,
    nodup_transitions _, fun state => mem_finals_ofParts_iff, fun other => ofParts_eq_iff,
    fun transitions moreTransitions finals moreFinals listed finalsListed idle finalsIdle => ?_⟩
  · rw [start_ofParts]
    exact if_pos member
  · rw [start_ofParts]
    exact if_neg foreign
  · rw [transitions_eq_iff]
    simp only [mem_transitions_ofParts_iff]
  · exact (ofParts_eq_iff.mpr (Parts.agree_of_perm listed finalsListed idle finalsIdle)).symm

/-- Another order, a repeated transition and a repeated final state make no difference, and neither do
a transition to state 5 and the final state 4. The start is state zero, since there is no state 9. -/
theorem ofParts_by_sets_shuffled :
    ofParts ⟨2, 9, [⟨1, .epsilon, 0⟩, ⟨0, .read .digit, 5⟩, ⟨0, .read .letter, 1⟩, ⟨1, .epsilon, 0⟩],
        [4, 1, 1]⟩ =
      ofParts ⟨2, 9, [⟨0, .read .letter, 1⟩, ⟨1, .epsilon, 0⟩], [1]⟩ ∧
      (ofParts ⟨2, 9, [⟨1, .epsilon, 0⟩, ⟨0, .read .letter, 1⟩], [1]⟩).transitions =
        [⟨0, .read .letter, 1⟩, ⟨1, .epsilon, 0⟩] ∧
      (ofParts ⟨2, 9, [⟨1, .epsilon, 0⟩, ⟨0, .read .letter, 1⟩], [1]⟩).start = 0 := by
  obtain ⟨_, _, _, _, _, _, _, shuffled⟩ :=
    ofParts_by_sets ⟨2, 9, [⟨0, .read .letter, 1⟩, ⟨1, .epsilon, 0⟩], [1]⟩
  obtain ⟨_, _, start, transitions, _⟩ :=
    ofParts_by_sets ⟨2, 9, [⟨1, .epsilon, 0⟩, ⟨0, .read .letter, 1⟩], [1]⟩
  refine ⟨shuffled _ [⟨1, .epsilon, 0⟩, ⟨0, .read .digit, 5⟩] _ [1, 4] (by decide) (by decide)
    (by decide) (by decide), (transitions _).mpr ⟨?_, fun transition => ?_⟩, start (by decide)⟩
  · exact List.pairwise_pair.mpr (Or.inl Nat.zero_lt_one)
  · constructor
    · intro listed
      rcases List.mem_pair.mp listed with rfl | rfl
      · decide
      · decide
    · rintro ⟨listed, _⟩
      exact (List.Perm.swap _ _ _).mem_iff.mp listed

end Automaton

end PatternNfa
