/-
**Building up an automaton.**

New states, transitions and final states leave every accepting path where it is, so an input that is
accepted once is accepted from then on. They give new inputs only through accepting paths that were not
there before. A new state is on no such path, and a new transition is on one only if some path leads
from the start to its source and another one from its target to a final state. Such paths need not use
the new transition themselves: the first one may stop at its first use, and the second one may begin
after its last use.

* `Extends.mem_language`: an extended automaton reads all the words that it read before;
* `Extends.applyAll`: edits that only add something, one after another;
* `Path.of_addTransition`: a path of the grown automaton is an old one, or two old ones that the new
  transition joins;
* `accepts_after_additions`: which inputs are accepted after additions.
-/

import PatternNfa.Proofs.Automaton.Numbering
import PatternNfa.Proofs.Automaton.Trim

namespace PatternNfa

/-- The edit adds a state, a transition or a final state. -/
def Edit.Adds : Edit → Prop
  | .addState => True
  | .addTransition _ _ _ => True
  | .addFinal _ => True
  | _ => False

theorem Edit.Adds.operand?_eq_none {edit : Edit} (adds : edit.Adds) : edit.operand? = none := by
  cases edit with
  | concatenate => exact adds.elim
  | union => exact adds.elim
  | _ => rfl

namespace Automaton

variable {before middle after machine : Automaton} {source target first last : State}
  {symbol : Symbol} {symbols : List Symbol} {edits : List Edit}

/-! ### Extended automata -/

/-- **The second automaton is the first one with something added.** It starts in the same state, and
nothing is taken away from its transitions and its final states. -/
structure Extends (before after : Automaton) : Prop where
  start_eq : after.start = before.start
  kept : ∀ transition ∈ before.transitions, transition ∈ after.transitions
  keptFinal : ∀ state ∈ before.finals, state ∈ after.finals

namespace Extends

theorem refl (machine : Automaton) : Extends machine machine :=
  ⟨rfl, fun _ => id, fun _ => id⟩

theorem trans (first : Extends before middle) (second : Extends middle after) :
    Extends before after where
  start_eq := second.start_eq.trans first.start_eq
  kept := fun transition listed => second.kept transition (first.kept transition listed)
  keptFinal := fun state final => second.keptFinal state (first.keptFinal state final)

/-- **An extended automaton reads all the words that it read before**, on the same paths. -/
theorem mem_language (larger : Extends before after) {word : List CharClass}
    (read : word ∈ before.language) : word ∈ after.language := by
  obtain ⟨final, isFinal, reads⟩ := read
  have sameStart : after.Reads before.start word final := reads.mono larger.kept
  rw [← larger.start_eq] at sameStart
  exact ⟨final, larger.keptFinal final isFinal, sameStart⟩

/-- What is accepted before is accepted after. -/
theorem accepts (larger : Extends before after) (sound : before.WellFormed)
    (afterSound : after.WellFormed) {input : String} (accepted : before.accepts input = true) :
    after.accepts input = true := by
  obtain ⟨word, classes, read⟩ := (accepts_iff_mem_texts sound).mp accepted
  exact (accepts_iff_mem_texts afterSound).mpr ⟨word, classes, larger.mem_language read⟩

/-! ### Additions -/

theorem addState (machine : Automaton) : Extends machine machine.addState.2 :=
  ⟨rfl, (Grows.addState machine).kept, fun _ => id⟩

/-- A new state brings nothing that was not there before. -/
theorem of_addState (machine : Automaton) : Extends machine.addState.2 machine :=
  ⟨rfl, fun _ => mem_transitions_addState.mp, fun _ => id⟩

theorem addTransition (machine : Automaton) (source : State) (symbol : Symbol) (target : State) :
    Extends machine (machine.addTransition source symbol target).2 where
  start_eq := start_addTransition source symbol target
  kept := (Grows.addTransition machine source symbol target).kept
  keptFinal := by
    rw [finals_addTransition]
    exact fun _ => id

theorem addFinal (machine : Automaton) (state : State) :
    Extends machine (machine.addFinal state).2 where
  start_eq := start_addFinal state
  kept := by
    rw [transitions_addFinal]
    exact fun _ => id
  keptFinal := fun _ final => mem_finals_addFinal.mpr (Or.inl final)

/-- **One addition**, of whatever kind, and also if it is refused. -/
theorem apply {edit : Edit} (adds : edit.Adds) (machine : Automaton) :
    Extends machine (edit.apply machine).2 := by
  cases edit with
  | addState => exact addState machine
  | addTransition source symbol target => exact addTransition machine source symbol target
  | addFinal state => exact addFinal machine state
  | _ => exact adds.elim

/-- **Any number of additions.** -/
theorem applyAll (adds : ∀ edit ∈ edits, edit.Adds) (machine : Automaton) :
    Extends machine (Edit.applyAll edits machine).2 := by
  induction edits generalizing machine with
  | nil => exact refl machine
  | cons edit edits ih =>
    rw [Edit.applyAll_cons]
    have first := apply (adds edit List.mem_cons_self) machine
    exact first.trans (ih (fun later listed => adds later (List.mem_cons_of_mem edit listed)) _)

end Extends

theorem WellFormed.applyAll (sound : machine.WellFormed) (adds : ∀ edit ∈ edits, edit.Adds) :
    (Edit.applyAll edits machine).2.WellFormed := by
  induction edits generalizing machine with
  | nil => exact sound
  | cons edit edits ih =>
    rw [Edit.applyAll_cons]
    refine ih (sound.apply edit fun other joined => ?_) fun later listed =>
      adds later (List.mem_cons_of_mem edit listed)
    rw [(adds edit List.mem_cons_self).operand?_eq_none] at joined
    cases joined

/-! ### One more transition -/

/-- **A path of the grown automaton** is an old one, or an old one leads from where it begins to the
source of the new transition, and an old one from the target to where it ends. -/
theorem Path.of_addTransition
    (path : (machine.addTransition source symbol target).2.Path first symbols last) :
    machine.Path first symbols last ∨ (machine.Leads first source ∧ machine.Leads target last) := by
  induction path with
  | nil state => exact Or.inl (.nil state)
  | cons listed _ ih =>
    rcases mem_transitions_addTransition.mp listed with old | ⟨_, _, new⟩
    · rcases ih with rest | ⟨leads, onward⟩
      · exact Or.inl (.cons old rest)
      · exact Or.inr ⟨.head old leads, onward⟩
    · -- The rest begins at the target; if it is no old path, its own end is reached from there.
      obtain ⟨rfl, rfl, rfl⟩ := Transition.mk.inj new
      refine Or.inr ⟨.refl _, ?_⟩
      rcases ih with rest | ⟨_, onward⟩
      · exact ⟨_, rest⟩
      · exact onward

/-- Which states lead to the source of a transition does not depend on the transition. -/
theorem leads_source_addTransition_iff :
    (machine.addTransition source symbol target).2.Leads first source ↔
      machine.Leads first source := by
  constructor
  · intro leads
    obtain ⟨symbols, path⟩ := leads
    rcases path.of_addTransition with old | ⟨reached, _⟩
    · exact ⟨symbols, old⟩
    · exact reached
  · exact fun leads => leads.mono (Extends.addTransition machine source symbol target).kept

/-- Whether the target of a transition can end does not depend on the transition. -/
theorem canEnd_target_addTransition_iff :
    (machine.addTransition source symbol target).2.CanEnd target ↔ machine.CanEnd target := by
  constructor
  · intro ends
    obtain ⟨final, isFinal, symbols, path⟩ := ends
    rw [finals_addTransition] at isFinal
    rcases path.of_addTransition with old | ⟨_, onward⟩
    · exact ⟨final, isFinal, symbols, old⟩
    · exact ⟨final, isFinal, onward⟩
  · intro ends
    obtain ⟨final, isFinal, leads⟩ := ends
    have larger := Extends.addTransition machine source symbol target
    exact ⟨final, larger.keptFinal final isFinal, leads.mono larger.kept⟩

/-- **A transition to which nothing leads, or after which nothing ends,** adds no words. -/
theorem mem_language_of_addTransition
    (useless : ¬(machine.Leads machine.start source ∧ machine.CanEnd target))
    {word : List CharClass}
    (read : word ∈ (machine.addTransition source symbol target).2.language) :
    word ∈ machine.language := by
  obtain ⟨final, isFinal, symbols, path, spells⟩ := read
  rw [start_addTransition] at path
  rw [finals_addTransition] at isFinal
  rcases path.of_addTransition with old | ⟨leads, onward⟩
  · exact ⟨final, isFinal, symbols, old, spells⟩
  · exact absurd ⟨leads, final, isFinal, onward⟩ useless

/-! ### Every automaton -/

/-- **What is accepted stays accepted while an automaton is built up.** A new state makes no difference
to any input. Any number of new states, transitions and final states, named as they may be, leave
accepted what is accepted. A new transition makes no difference to any input if no path leads from the
start to its source, or no path from its target to a final state, in the grown automaton; these paths
are there if and only if they were there before. -/
theorem accepts_after_additions (built : machine.Built) (input : String) :
    machine.addState.2.accepts input = machine.accepts input ∧
      (∀ edits : List Edit, (∀ edit ∈ edits, edit.Adds) → machine.accepts input = true →
        (Edit.applyAll edits machine).2.accepts input = true) ∧
      ∀ source symbol target,
        let grown := (machine.addTransition source symbol target).2
        (grown.Leads grown.start source ↔ machine.Leads machine.start source) ∧
          (grown.CanEnd target ↔ machine.CanEnd target) ∧
          (¬grown.Leads grown.start source ∨ ¬grown.CanEnd target →
            grown.accepts input = machine.accepts input) := by
  have sound := built.wellFormed
  refine ⟨Bool.eq_iff_iff.mpr ⟨?_, ?_⟩, fun edits adds => ?_, fun source symbol target => ?_⟩
  · exact (Extends.of_addState machine).accepts sound.addState sound
  · exact (Extends.addState machine).accepts sound sound.addState
  · exact (Extends.applyAll adds machine).accepts sound (sound.applyAll adds)
  · intro grown
    have grownSound : grown.WellFormed := sound.addTransition source symbol target
    have leads : grown.Leads grown.start source ↔ machine.Leads machine.start source := by
      rw [start_addTransition]
      exact leads_source_addTransition_iff
    have ends : grown.CanEnd target ↔ machine.CanEnd target := canEnd_target_addTransition_iff
    refine ⟨leads, ends, fun useless => Bool.eq_iff_iff.mpr ⟨fun accepted => ?_, ?_⟩⟩
    · rw [leads, ends, ← not_and_or] at useless
      obtain ⟨word, classes, read⟩ := (accepts_iff_mem_texts grownSound).mp accepted
      exact (accepts_iff_mem_texts sound).mpr
        ⟨word, classes, mem_language_of_addTransition useless read⟩
    · exact (Extends.addTransition machine source symbol target).accepts sound grownSound

/-- A ring that gets a state 2 and transitions to it: it still accepts `b1b`, and also after a final
state was added that is not there. No path leads from state 2 to a final state, so a digit that leads
there from the final state makes no difference to the input `b1`. -/
theorem accepts_after_additions_ring :
    let additions : List Edit :=
      [.addState, .addTransition 1 (.read .digit) 2, .addTransition 2 .epsilon 2, .addFinal 9]
    (Edit.applyAll additions (ofParts .ring)).2.accepts "b1b" = true ∧
      ((ofParts .ring).addState.2.addTransition 1 (.read .digit) 2).2.accepts "b1" = false := by
  intro additions
  have built : (ofParts .ring).addState.2.Built :=
    .edited .addState (.ofParts .ring) fun _ joined => by cases joined
  constructor
  · refine (accepts_after_additions (.ofParts .ring) "b1b").2.1 additions ?_ rfl
    simp [additions, Edit.Adds]
  · have useless : ¬(ofParts .ring).addState.2.CanEnd 2 := by
      intro ends
      obtain ⟨final, isFinal, symbols, path⟩ := ends
      cases path with
      | nil => revert isFinal; decide +kernel
      | cons listed _ =>
        have none : ∀ transition ∈ (ofParts .ring).addState.2.transitions,
            transition.source ≠ 2 := by decide +kernel
        exact none _ listed rfl
    obtain ⟨_, ends, same⟩ := (accepts_after_additions built "b1").2.2 1 (.read .digit) 2
    rw [same (Or.inr (mt ends.mp useless))]
    rfl

end Automaton

end PatternNfa
