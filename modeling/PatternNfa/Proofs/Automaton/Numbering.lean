/-
**A state keeps its number.**

An edit puts new states after those that there are, and takes no state and no transition away. So the
number of a state stays the number of this state, whatever is done to the automaton later: it is never
handed out again, and the transitions at it are still there. Between two states that were there before,
an edit adds epsilon transitions only, unless it is asked for another one. How automata are grouped
when several are joined makes no difference to the numbers either.

* `Grows`: what edits keep, and what they may add between old states;
* `Grows.apply`, `Grows.applyAll`: one edit, and any number of edits;
* `apply_of_refused`: an edit that is refused changes nothing;
* `pairwise_handedOut`: the numbers that are handed out ascend;
* `states_keep_numbers`, `concatenate_in_groups`: what holds of every automaton.
-/

import PatternNfa.Proofs.Automaton.Acceptance
import PatternNfa.Proofs.Automaton.Representation

namespace PatternNfa

/-- The number that an answer gives. -/
def Reply.number? : Reply → Option State
  | .number state => some state
  | _ => none

namespace Edit

/-- Carries out edits one after another. Returns their answers in the same order. -/
def applyAll : List Edit → Automaton → List Reply × Automaton
  | [], machine => ([], machine)
  | edit :: edits, machine =>
    let (reply, changed) := edit.apply machine
    let (replies, last) := applyAll edits changed
    (reply :: replies, last)

/-- The numbers that edits hand out for new states. -/
def handedOut (edits : List Edit) (machine : Automaton) : List State :=
  (applyAll edits machine).1.filterMap Reply.number?

theorem applyAll_cons (edit : Edit) (edits : List Edit) (machine : Automaton) :
    (applyAll (edit :: edits) machine).2 = (applyAll edits (edit.apply machine).2).2 := rfl

theorem handedOut_cons (edit : Edit) (edits : List Edit) (machine : Automaton) :
    handedOut (edit :: edits) machine =
      (edit.apply machine).1.number?.toList ++ handedOut edits (edit.apply machine).2 := by
  show ((edit.apply machine).1 :: (applyAll edits (edit.apply machine).2).1).filterMap _ = _
  rw [List.filterMap_cons]
  cases (edit.apply machine).1.number? <;> rfl

end Edit

namespace Automaton

variable {before middle after machine other third : Automaton} {edits more : List Edit}

/-! ### What edits keep -/

theorem rows_setStart (machine : Automaton) (state : State) :
    (machine.setStart state).2.rows = machine.rows := by
  unfold setStart
  split <;> rfl

theorem rows_addFinal (machine : Automaton) (state : State) :
    (machine.addFinal state).2.rows = machine.rows := by
  unfold addFinal
  split <;> rfl

/-- **What is kept when an automaton grows by edits.** No state and no transition is taken away, and a
transition between two old states is an old one, or an epsilon transition, or one that an edit names. -/
structure Grows (edits : List Edit) (before after : Automaton) : Prop where
  size_le : before.size ≤ after.size
  kept : ∀ transition ∈ before.transitions, transition ∈ after.transitions
  added : ∀ transition ∈ after.transitions,
    transition.source < before.size → transition.target < before.size →
      transition ∈ before.transitions ∨ transition.symbol = .epsilon ∨
        .addTransition transition.source transition.symbol transition.target ∈ edits

namespace Grows

/-- Other ends leave the transitions as they are. -/
theorem of_rows_eq (same : after.rows = before.rows) : Grows edits before after := by
  have size : after.size = before.size := congrArg Array.size same
  have transitions : after.transitions = before.transitions := by
    unfold transitions
    rw [same]
  refine ⟨Nat.le_of_eq size.symm, fun transition listed => ?_, fun transition listed _ _ => ?_⟩
  · rw [transitions]
    exact listed
  · rw [transitions] at listed
    exact Or.inl listed

/-- What grows without being asked for a transition grows for any edits. -/
theorem of_nil (grows : Grows [] before after) : Grows edits before after where
  size_le := grows.size_le
  kept := grows.kept
  added := by
    intro transition listed source target
    rcases grows.added transition listed source target with old | silent | named
    · exact Or.inl old
    · exact Or.inr (Or.inl silent)
    · cases named

/-- Growing goes on: what is between two old states after both steps was asked for in one of them. -/
theorem trans (first : Grows edits before middle) (second : Grows more middle after) :
    Grows (edits ++ more) before after where
  size_le := Nat.le_trans first.size_le second.size_le
  kept := fun transition listed => second.kept transition (first.kept transition listed)
  added := by
    intro transition listed source target
    have stillSource := Nat.lt_of_lt_of_le source first.size_le
    have stillTarget := Nat.lt_of_lt_of_le target first.size_le
    rcases second.added transition listed stillSource stillTarget with kept | silent | named
    · rcases first.added transition kept source target with old | silent | named
      · exact Or.inl old
      · exact Or.inr (Or.inl silent)
      · exact Or.inr (Or.inr (List.mem_append_left more named))
    · exact Or.inr (Or.inl silent)
    · exact Or.inr (Or.inr (List.mem_append_right edits named))

/-! ### The basic operations -/

theorem addState (machine : Automaton) : Grows [] machine machine.addState.2 where
  size_le := by
    rw [size_addState]
    exact Nat.le_succ _
  kept := fun _ listed => mem_transitions_addState.mpr listed
  added := fun _ listed _ _ => Or.inl (mem_transitions_addState.mp listed)

theorem addTransition (machine : Automaton) (source : State) (symbol : Symbol) (target : State) :
    Grows [.addTransition source symbol target] machine
      (machine.addTransition source symbol target).2 where
  size_le := by rw [size_addTransition]
  kept := fun _ listed => mem_transitions_addTransition.mpr (Or.inl listed)
  added := by
    intro transition listed _ _
    rcases mem_transitions_addTransition.mp listed with old | ⟨_, _, rfl⟩
    · exact Or.inl old
    · exact Or.inr (Or.inr List.mem_cons_self)

/-- Links are epsilon transitions, so none of them has to be asked for. -/
theorem linkAll (machine : Automaton) (sources : List State) (target : State) :
    Grows [] machine (machine.linkAll sources target) where
  size_le := by rw [size_linkAll]
  kept := fun _ listed => mem_transitions_linkAll.mpr (Or.inl listed)
  added := by
    intro transition listed _ _
    rcases mem_transitions_linkAll.mp listed with old | ⟨_, _, _, _, rfl⟩
    · exact Or.inl old
    · exact Or.inr (Or.inl rfl)

/-- The transitions of an automaton that is taken in begin at states that are new. -/
theorem absorb (machine other : Automaton) : Grows [] machine (machine.absorb other) where
  size_le := by
    rw [size_absorb]
    exact Nat.le_add_right _ _
  kept := fun _ listed => mem_transitions_absorb.mpr (Or.inl listed)
  added := by
    intro transition listed source _
    rcases mem_transitions_absorb.mp listed with old | ⟨moved, _, rfl⟩
    · exact Or.inl old
    · exact absurd source (Nat.not_lt_of_le (Nat.le_add_left _ _))

/-! ### Repetition, concatenation and union -/

theorem star (machine : Automaton) : Grows [] machine machine.star := by
  have linked := (addState machine).trans
    (linkAll machine.addState.2 (machine.size :: machine.finals.toList) machine.start)
  exact linked.trans (of_rows_eq (rows_addFinal _ _))

theorem concatenate (machine other : Automaton) : Grows [] machine (machine.concatenate other) :=
  have joined : Grows [] (machine.absorb other)
      { machine.absorb other with finals := other.finals.shift machine.size } := of_rows_eq rfl
  (absorb machine other).trans (joined.trans (linkAll _ _ _))

theorem union (machine other : Automaton) : Grows [] machine (machine.union other) := by
  have grown := (absorb machine other).trans (addState (machine.absorb other))
  have forked := (linkAll (machine.absorb other).addState.2 [(machine.absorb other).addState.1]
    machine.start).trans (linkAll _ [(machine.absorb other).addState.1] (other.start + machine.size))
  refine (grown.trans forked).trans (of_rows_eq ?_)
  unfold Automaton.union
  rfl

/-! ### Edits -/

/-- **An edit keeps what there is**, whatever it is about. -/
theorem apply (edit : Edit) (machine : Automaton) : Grows [edit] machine (edit.apply machine).2 := by
  cases edit with
  | addState => exact (addState machine).of_nil
  | addTransition source symbol target => exact addTransition machine source symbol target
  | setStart state => exact of_rows_eq (rows_setStart machine state)
  | addFinal state => exact of_rows_eq (rows_addFinal machine state)
  | clearFinals => exact of_rows_eq rfl
  | star => exact (star machine).of_nil
  | concatenate operand =>
    cases operand with
    | none => exact of_rows_eq rfl
    | some other => exact (concatenate machine other).of_nil
  | union operand =>
    cases operand with
    | none => exact of_rows_eq rfl
    | some other => exact (union machine other).of_nil

/-- **Any number of edits keep what there is.** -/
theorem applyAll (edits : List Edit) (machine : Automaton) :
    Grows edits machine (Edit.applyAll edits machine).2 := by
  induction edits generalizing machine with
  | nil => exact of_rows_eq rfl
  | cons edit edits ih =>
    rw [Edit.applyAll_cons]
    exact (apply edit machine).trans (ih (edit.apply machine).2)

end Grows

/-! ### Answers -/

/-- What is done under a condition only changes nothing where it is not done. -/
theorem snd_of_refused {accepted : Prop} [Decidable accepted] {changed : Automaton}
    (refused : (if accepted then (true, changed) else (false, machine)).1 = false) :
    (if accepted then (true, changed) else (false, machine)).2 = machine := by
  by_cases granted : accepted
  · rw [if_pos granted] at refused
    cases refused
  · rw [if_neg granted]

/-- **An edit that is refused changes nothing.** -/
theorem apply_of_refused {edit : Edit} (refused : (edit.apply machine).1 = .truth false) :
    (edit.apply machine).2 = machine := by
  cases edit with
  | addTransition source symbol target => exact snd_of_refused (Reply.truth.inj refused)
  | setStart state => exact snd_of_refused (Reply.truth.inj refused)
  | addFinal state => exact snd_of_refused (Reply.truth.inj refused)
  | _ => cases refused

/-- A number that is handed out is that of the first state behind the old ones. -/
theorem eq_size_of_number {edit : Edit} {state : State}
    (answered : (edit.apply machine).1.number? = some state) :
    state = machine.size ∧ state < (edit.apply machine).2.size := by
  cases edit with
  | addState =>
    obtain rfl : machine.size = state := Option.some.inj answered
    refine ⟨rfl, ?_⟩
    show machine.size < machine.addState.2.size
    rw [size_addState]
    exact Nat.lt_succ_self _
  | _ => cases answered

/-- **The numbers that are handed out ascend**, and all of them belong to states that are new. -/
theorem pairwise_handedOut (edits : List Edit) (machine : Automaton) :
    (Edit.handedOut edits machine).Pairwise (· < ·) ∧
      ∀ state ∈ Edit.handedOut edits machine,
        machine.size ≤ state ∧ state < (Edit.applyAll edits machine).2.size := by
  induction edits generalizing machine with
  | nil => exact ⟨.nil, fun _ listed => by cases listed⟩
  | cons edit edits ih =>
    obtain ⟨ascending, inside⟩ := ih (edit.apply machine).2
    have first := (Grows.apply edit machine).size_le
    have last := (Grows.applyAll edits (edit.apply machine).2).size_le
    rw [Edit.handedOut_cons, Edit.applyAll_cons]
    cases answered : (edit.apply machine).1.number? with
    | none =>
      refine ⟨ascending, fun state listed => ?_⟩
      obtain ⟨new, below⟩ := inside state listed
      exact ⟨Nat.le_trans first new, below⟩
    | some fresh =>
      obtain ⟨rfl, present⟩ := eq_size_of_number answered
      refine ⟨List.pairwise_cons.mpr ⟨fun state listed => ?_, ascending⟩, fun state listed => ?_⟩
      · exact Nat.lt_of_lt_of_le present (inside state listed).1
      · rcases List.mem_cons.mp listed with rfl | later
        · exact ⟨Nat.le_refl _, Nat.lt_of_lt_of_le present last⟩
        · obtain ⟨new, below⟩ := inside state later
          exact ⟨Nat.le_trans first new, below⟩

/-! ### Every automaton -/

/-- **A state keeps its number.** An edit takes no state and no transition away; between two old states
it adds epsilon transitions only, unless it is the edit that names the new one; and if it is refused, it
changes nothing. A new state gets a number that no state had. So after any number of edits the old
states are there with their transitions, and none of their numbers has been handed out again: the
numbers that are handed out ascend, and each belongs to a new state that is there from then on. -/
theorem states_keep_numbers (machine : Automaton) :
    (∀ edit : Edit, Grows [edit] machine (edit.apply machine).2 ∧
        ((edit.apply machine).1 = .truth false → (edit.apply machine).2 = machine)) ∧
      (∃ state, (Edit.addState.apply machine).1 = .number state ∧ machine.contains state = false ∧
        (Edit.addState.apply machine).2.contains state = true) ∧
      ∀ edits, Grows edits machine (Edit.applyAll edits machine).2 ∧
        (Edit.handedOut edits machine).Pairwise (· < ·) ∧
        ∀ state ∈ Edit.handedOut edits machine, machine.contains state = false ∧
          (Edit.applyAll edits machine).2.contains state = true := by
  refine ⟨fun edit => ⟨.apply edit machine, apply_of_refused⟩, ⟨machine.size, rfl, ?_, ?_⟩,
    fun edits => ⟨.applyAll edits machine, (pairwise_handedOut edits machine).1,
      fun state listed => ?_⟩⟩
  · exact decide_eq_false (Nat.lt_irrefl _)
  · have answered : (Edit.addState.apply machine).1.number? = some machine.size := rfl
    exact decide_eq_true (eq_size_of_number answered).2
  · obtain ⟨new, below⟩ := (pairwise_handedOut edits machine).2 state listed
    exact ⟨decide_eq_false (Nat.not_lt_of_le new), decide_eq_true below⟩

/-- A ring that gets a state, is joined with another ring, refuses a transition and gets one more
state. The two new states are 2 and 6, the transition from 0 to 1 is still there, and the edits have
put no other transition between these two states that reads a letter. -/
theorem states_keep_numbers_ring :
    let edits : List Edit :=
      [.addState, .union (some (ofParts .ring)), .addTransition 0 .epsilon 9, .addState]
    let last := (Edit.applyAll edits (ofParts .ring)).2
    Edit.handedOut edits (ofParts .ring) = [2, 6] ∧ last.contains 6 = true ∧
      ⟨0, .read .letter, 1⟩ ∈ last.transitions ∧ ⟨1, .read .letter, 0⟩ ∉ last.transitions ∧
      ((Edit.addTransition 0 .epsilon 9).apply (ofParts .ring)).2 = ofParts .ring := by
  intro edits last
  have handedOut : Edit.handedOut edits (ofParts .ring) = [2, 6] := by decide +kernel
  have each := (states_keep_numbers (ofParts .ring)).1
  obtain ⟨grows, _, inside⟩ := (states_keep_numbers (ofParts .ring)).2.2 edits
  refine ⟨handedOut, (inside 6 ?_).2, grows.kept _ (by decide), fun listed => ?_,
    (each (.addTransition 0 .epsilon 9)).2 rfl⟩
  · rw [handedOut]
    decide
  · rcases grows.added _ listed (by decide) (by decide) with old | silent | named
    · exact absurd old (by decide)
    · cases silent
    · simp [edits] at named

/-! ### Automata in a row -/

/-- **Grouping makes no difference when automata are concatenated.** The two groupings give the same
automaton, with the same states under the same numbers, so the two cannot be told apart by their texts
either. -/
theorem concatenate_in_groups (built : machine.Built) (otherBuilt : other.Built)
    (thirdBuilt : third.Built) :
    (machine.concatenate other).concatenate third =
        machine.concatenate (other.concatenate third) ∧
      ((machine.concatenate other).concatenate third).dump =
        (machine.concatenate (other.concatenate third)).dump := by
  have same := concatenate_assoc built.wellFormed otherBuilt.wellFormed thirdBuilt.wellFormed
  exact ⟨same, congrArg dump same⟩

/-- Three rings, of which the second is repeated: the seven states are numbered alike. -/
theorem concatenate_in_groups_ring :
    ((ofParts .ring).concatenate (ofParts .ring).star).concatenate (ofParts .ring) =
      (ofParts .ring).concatenate ((ofParts .ring).star.concatenate (ofParts .ring)) :=
  (concatenate_in_groups (.ofParts .ring) (Built.ofParts .ring).star (.ofParts .ring)).1

end Automaton

end PatternNfa
