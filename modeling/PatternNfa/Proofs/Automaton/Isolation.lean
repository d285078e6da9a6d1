/-
**Automata that are joined do not disturb each other.**

The states of an automaton that a concatenation or a union takes in are followed in the result as they
were by themselves, under their new numbers: one step and the closure, of any set of them, lead to the
same states as before, moved up. A union treats the states of the first automaton like that too, and
their numbers stay. So no link leads out of the states that are taken in, and none of a union leads out
of those that were there.

* `Embeds.step_shift`, `Embeds.closure_shift`: steps and closures of an embedded automaton;
* `joined_apart`: steps and closures in a concatenation and in a union.
-/

import PatternNfa.Proofs.Automaton.LeastClosed

namespace PatternNfa

theorem StateSet.shift_zero (states : StateSet) : states.shift 0 = states := by
  refine eq_of_mem_iff fun state => ?_
  rw [mem_shift]
  exact exists_eq_right

namespace Automaton

open Relation (ReflTransGen)

variable {part whole machine other : Automaton} {offset : Nat} {states : StateSet}
  {source state : State}

theorem mem_step_iff_exists_transition {symbol : Symbol} :
    state ∈ machine.step states symbol ↔
      ∃ source ∈ states, ⟨source, symbol, state⟩ ∈ machine.transitions := by
  simp only [mem_step, mem_transitions]

/-! ### Embedded automata -/

section Embedded

variable (embeds : Embeds part whole offset) (inside : ∀ state ∈ states, state < part.size)
include embeds

/-- **Epsilon transitions from a state of the part** lead to states of the part, as they do in the
part. -/
theorem Embeds.silent_add_iff (sound : part.WellFormed) (sourceInside : source < part.size) :
    ReflTransGen whole.Silent (source + offset) state ↔
      ∃ target, ReflTransGen part.Silent source target ∧ target + offset = state := by
  simp only [silent_iff_exists_path]
  constructor
  · intro walked
    obtain ⟨count, path⟩ := walked
    obtain ⟨target, old, same⟩ := embeds.path_of_add sound path rfl sourceInside
    exact ⟨target, ⟨count, old⟩, same⟩
  · intro walked
    obtain ⟨target, ⟨count, path⟩, rfl⟩ := walked
    exact ⟨count, embeds.path_add path⟩

include inside

/-- **One step** from states of the part is one step of the part, moved up. -/
theorem Embeds.step_shift (symbol : Symbol) :
    whole.step (states.shift offset) symbol = (part.step states symbol).shift offset := by
  refine StateSet.eq_of_mem_iff fun state => ?_
  simp only [mem_step_iff_exists_transition, StateSet.mem_shift]
  constructor
  · intro reached
    obtain ⟨_, ⟨source, begun, rfl⟩, listed⟩ := reached
    obtain ⟨target, old, same⟩ :=
      (embeds.mem_transitions_add source (inside source begun) symbol state).mp listed
    exact ⟨target, ⟨source, begun, old⟩, same⟩
  · intro reached
    obtain ⟨target, ⟨source, begun, old⟩, same⟩ := reached
    exact ⟨source + offset, ⟨source, begun, rfl⟩,
      (embeds.mem_transitions_add source (inside source begun) symbol state).mpr ⟨target, old, same⟩⟩

/-- **The closure** of states of the part is their closure in the part, moved up. -/
theorem Embeds.closure_shift (sound : part.WellFormed) (wholeSound : whole.WellFormed) :
    whole.closure (states.shift offset) = (part.closure states).shift offset := by
  refine StateSet.eq_of_mem_iff fun state => ?_
  simp only [mem_closure wholeSound, StateSet.mem_shift, mem_closure sound]
  constructor
  · intro reached
    obtain ⟨_, ⟨source, begun, rfl⟩, silent⟩ := reached
    obtain ⟨target, old, same⟩ := (embeds.silent_add_iff sound (inside source begun)).mp silent
    exact ⟨target, ⟨source, begun, old⟩, same⟩
  · intro reached
    obtain ⟨target, ⟨source, begun, old⟩, same⟩ := reached
    exact ⟨source + offset, ⟨source, begun, rfl⟩,
      (embeds.silent_add_iff sound (inside source begun)).mpr ⟨target, old, same⟩⟩

end Embedded

/-! ### Every automaton -/

/-- **Automata that are joined do not disturb each other.** In a union and in a concatenation, one step
and the closure of states of the second automaton are those of the second automaton by itself, all
states moved up by the size of the first one. In a union, one step and the closure of states of the
first automaton are those of the first automaton by itself. -/
theorem joined_apart (built : machine.Built) (otherBuilt : other.Built) :
    (∀ states : StateSet, (∀ state ∈ states, other.contains state = true) →
        ∀ joined, joined = machine.union other ∨ joined = machine.concatenate other →
          (∀ symbol, joined.step (states.shift machine.size) symbol =
              (other.step states symbol).shift machine.size) ∧
            joined.closure (states.shift machine.size) =
              (other.closure states).shift machine.size) ∧
      ∀ states : StateSet, (∀ state ∈ states, machine.contains state = true) →
        (∀ symbol, (machine.union other).step states symbol = machine.step states symbol) ∧
          (machine.union other).closure states = machine.closure states := by
  have sound := built.wellFormed
  have otherSound := otherBuilt.wellFormed
  have unionSound := sound.union otherSound
  constructor
  · intro states members joined how
    have inside : ∀ state ∈ states, state < other.size :=
      fun state listed => of_decide_eq_true (members state listed)
    rcases how with rfl | rfl
    · have embeds := embeds_union_right sound otherSound
      exact ⟨embeds.step_shift inside, embeds.closure_shift inside otherSound unionSound⟩
    · have embeds := embeds_concatenate sound otherSound
      exact ⟨embeds.step_shift inside,
        embeds.closure_shift inside otherSound (sound.concatenate otherSound)⟩
  · intro states members
    have inside : ∀ state ∈ states, state < machine.size :=
      fun state listed => of_decide_eq_true (members state listed)
    have embeds := embeds_union_left sound otherSound
    have steps := embeds.step_shift inside
    have closure := embeds.closure_shift inside sound unionSound
    simp only [StateSet.shift_zero] at steps closure
    exact ⟨steps, closure⟩

/-- A ring is joined with the repetition of a ring, in which an epsilon transition leads from the start
2 to the state 0: in both results one leads from 4 to 2. In the union, a letter still leads from 0
to 1. -/
theorem joined_apart_ring :
    ((ofParts .ring).union (ofParts .ring).star).closure (.ofStates [4]) = .ofStates [2, 4] ∧
      ((ofParts .ring).concatenate (ofParts .ring).star).closure (.ofStates [4]) =
        .ofStates [2, 4] ∧
      ((ofParts .ring).union (ofParts .ring).star).step (.ofStates [0]) (.read .letter) =
        .ofStates [1] := by
  have built := Built.ofParts .ring
  have moved : (StateSet.ofStates [2]).shift (ofParts .ring).size = .ofStates [4] := by
    decide +kernel
  have closed : ((ofParts .ring).star.closure (.ofStates [2])).shift (ofParts .ring).size =
      .ofStates [2, 4] := by
    decide +kernel
  have step : (ofParts .ring).step (.ofStates [0]) (.read .letter) = .ofStates [1] := by
    decide +kernel
  obtain ⟨second, first⟩ := joined_apart built built.star
  have only {machine : Automaton} {member : State} (inside : machine.contains member = true) :
      ∀ state ∈ StateSet.ofStates [member], machine.contains state = true := by
    intro state listed
    rwa [List.mem_singleton.mp (StateSet.mem_ofStates.mp listed)]
  have starMembers := only (by decide +kernel : (ofParts .ring).star.contains 2 = true)
  have members := only (by decide +kernel : (ofParts .ring).contains 0 = true)
  have inUnion := (second _ starMembers _ (Or.inl rfl)).2
  have inConcatenation := (second _ starMembers _ (Or.inr rfl)).2
  rw [moved, closed] at inUnion inConcatenation
  exact ⟨inUnion, inConcatenation, ((first _ members).1 _).trans step⟩

end Automaton

end PatternNfa
