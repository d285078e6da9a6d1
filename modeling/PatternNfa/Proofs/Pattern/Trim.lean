/-
**Compiled automata are trim.**

The automaton of a literal is trim, and every step by which automata are put together keeps this. So
every state of a compiled automaton can be reached and can be left for a final state, every compiled
text accepts some input, and reading is given up exactly when no way to go on is left.

* `Assembled.trim`: an automaton that is put together along a text is trim;
* `compiled_trim`: what this means for compiled texts and for reading.
-/

import PatternNfa.Proofs.Automaton.Trim
import PatternNfa.Proofs.Pattern.Assembly

namespace PatternNfa

open Automaton (reading)

variable {text : List Char} {source : String} {machine : Automaton}

/-- The one transition of a literal leads from its start to its final state. -/
theorem Automaton.trim_reading (cls : CharClass) : (reading cls).Trim where
  toWellFormed := (realizes_reading cls).wellFormed
  leads := by
    have across : (reading cls).Leads 0 1 := .head (mem_transitions_reading.mpr rfl) (.refl 1)
    intro state inside
    rcases Nat.lt_succ_iff_lt_or_eq.mp (show state < 2 from inside) with isStart | rfl
    · rw [Nat.lt_one_iff.mp isStart]
      exact .refl 0
    · exact across
  canEnd := by
    have across : (reading cls).Leads 0 1 := .head (mem_transitions_reading.mpr rfl) (.refl 1)
    intro state inside
    refine ⟨1, mem_finals_reading.mpr rfl, ?_⟩
    rcases Nat.lt_succ_iff_lt_or_eq.mp (show state < 2 from inside) with isStart | rfl
    · rw [Nat.lt_one_iff.mp isStart]
      exact across
    · exact .refl 1
  target_ne_start := by
    intro transition listed
    rw [mem_transitions_reading.mp listed]
    exact Nat.one_ne_zero

/-- **An automaton that is put together along a text is trim.** -/
theorem Assembled.trim (assembled : Assembled text machine) : machine.Trim := by
  induction assembled with
  | literal cls => exact Automaton.trim_reading cls
  | starred cls => exact (Automaton.trim_reading cls).star
  | group _ _ _ trim => exact trim.star
  | sequence _ _ _ _ trim otherTrim => exact trim.concatenate otherTrim
  | alternatives _ _ trim otherTrim => exact trim.union otherTrim
  | emptyBefore _ trim => exact trim
  | emptyAfter _ trim => exact trim

/-- **A compiled automaton is trim.** Paths lead from the start to every state and from every state to
a final one, and no transition leads into the start. So some input is accepted. Reading goes on from
the states that are active after the beginning of an input, and there are any exactly if that beginning
can be completed to an input that is accepted. -/
theorem compiled_trim (compiled : compile source = .ok (some machine)) :
    ((∀ state < machine.size, ∃ symbols, machine.Path machine.start symbols state) ∧
        (∀ state < machine.size,
          ∃ final ∈ machine.finals, ∃ symbols, machine.Path state symbols final) ∧
        ∀ transition ∈ machine.transitions, transition.target ≠ machine.start) ∧
      (∃ input, machine.accepts input = true) ∧
      ∀ input : String,
        (∀ rest : String, machine.accepts (input ++ rest) =
            machine.acceptsFrom (machine.activeAfter input.toList) rest.toList) ∧
          (machine.activeAfter input.toList ≠ ∅ ↔
            ∃ rest, machine.accepts (input ++ rest) = true) := by
  have trim := (assembled_of_compile compiled).trim
  refine ⟨⟨trim.leads, trim.canEnd, trim.target_ne_start⟩, trim.exists_accepts, fun input => ?_⟩
  exact ⟨Automaton.accepts_append trim.toWellFormed input, trim.activeAfter_ne_empty_iff⟩

/-- For the pattern `ad*` an input may begin with `b1`, but not with `b1b`. -/
theorem compiled_trim_letter_digits :
    ∃ machine, compile "ad*" = .ok (some machine) ∧ machine.activeAfter "b1".toList ≠ ∅ ∧
      ∀ rest, machine.accepts ("b1b" ++ rest) ≠ true := by
  have compiled : compile "ad*" =
      .ok (some ((reading .letter).concatenate (reading .digit).star)) :=
    compile_eq_ok_iff.mpr
      ⟨⟨[.literal ⟨.letter, false⟩, .literal ⟨.digit, true⟩], []⟩, by decide, rfl⟩
  obtain ⟨_, _, completes⟩ := compiled_trim compiled
  refine ⟨_, compiled, ?_, fun rest accepted => ?_⟩
  · exact (completes "b1").2.mpr ⟨"", by decide +kernel⟩
  · exact (completes "b1b").2.mpr ⟨rest, accepted⟩ (by decide +kernel)

end PatternNfa
