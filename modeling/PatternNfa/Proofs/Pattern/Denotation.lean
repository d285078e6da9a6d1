/-
**What a pattern means.**

The meaning of a pattern is a language over the classes of characters, defined on the pattern alone:
a literal means one class, a star any number of repetitions, a sequence the words of its pieces one
after another, and a pattern the words of its alternatives, apart from the empty ones. The automaton
of a pattern has this language, because the automaton of every part has the language of the part.

* `Pattern.realizes`: the automaton of a pattern has the language of the pattern;
* `compile_eq_ok_iff`: what is compiled is the automaton of the pattern that is written;
* `accepts_compiled_iff`: what the automaton of a text accepts.
-/

import PatternNfa.Pattern.Machine
import PatternNfa.Proofs.Automaton.Kleene
import PatternNfa.Proofs.Automaton.Simulation
import PatternNfa.Proofs.Pattern.Grammar

namespace PatternNfa

open scoped Computability

/-! ### The languages of the parts of a pattern -/

/-- One character of the class, or any number of them. -/
def Literal.language (literal : Literal) : Language CharClass :=
  if literal.starred then {[literal.cls]}∗ else {[literal.cls]}

/-- The language of a literal, or any number of repetitions of a sequence of them. -/
def Piece.language : Piece → Language CharClass
  | .literal single => single.language
  | .group first rest => ((first :: rest).map Literal.language).prod∗

/-- The words of the pieces, one after another. -/
def Segment.language (segment : Segment) : Language CharClass :=
  (segment.map Piece.language).prod

/-- **The words of a pattern**: those of its alternatives that are not empty. -/
def Pattern.language (pattern : Pattern) : Language CharClass :=
  ((pattern.segments.filter (· ≠ [])).map Segment.language).sum

namespace Automaton

variable {machine other : Automaton} {language otherLanguage : Language CharClass}

/-- **A well-formed automaton with the given language.** -/
structure Realizes (machine : Automaton) (language : Language CharClass) : Prop where
  wellFormed : machine.WellFormed
  language_eq : machine.language = language

/-! ### Operations -/

theorem Realizes.star (realizes : machine.Realizes language) : machine.star.Realizes language∗ where
  wellFormed := realizes.wellFormed.star
  language_eq := by rw [language_star realizes.wellFormed, realizes.language_eq]

theorem Realizes.concatenate (realizes : machine.Realizes language)
    (otherRealizes : other.Realizes otherLanguage) :
    (machine.concatenate other).Realizes (language * otherLanguage) where
  wellFormed := realizes.wellFormed.concatenate otherRealizes.wellFormed
  language_eq := by
    rw [language_concatenate realizes.wellFormed otherRealizes.wellFormed, realizes.language_eq,
      otherRealizes.language_eq]

theorem Realizes.union (realizes : machine.Realizes language)
    (otherRealizes : other.Realizes otherLanguage) :
    (machine.union other).Realizes (language + otherLanguage) where
  wellFormed := realizes.wellFormed.union otherRealizes.wellFormed
  language_eq := by
    rw [language_union realizes.wellFormed otherRealizes.wellFormed, realizes.language_eq,
      otherRealizes.language_eq]

/-! ### One character -/

theorem reading_eq (cls : CharClass) :
    reading cls = { ((isolated 2).addTransition 0 (.read cls) 1).2 with finals := {1} } := by
  cases cls <;> rfl

theorem transitions_reading (cls : CharClass) :
    (reading cls).transitions = [⟨0, .read cls, 1⟩] := by
  cases cls <;> rfl

theorem mem_transitions_reading {cls : CharClass} {transition : Transition} :
    transition ∈ (reading cls).transitions ↔ transition = ⟨0, .read cls, 1⟩ := by
  rw [transitions_reading, List.mem_singleton]

theorem mem_finals_reading {cls : CharClass} {state : State} :
    state ∈ (reading cls).finals ↔ state = 1 :=
  StateSet.mem_singleton

/-- The only word is that of the one transition. -/
theorem realizes_reading (cls : CharClass) : (reading cls).Realizes {[cls]} where
  wellFormed := by
    rw [reading_eq]
    have two : ((isolated 2).addTransition 0 (.read cls) 1).2.size = 2 := by
      rw [size_addTransition, size_isolated]
      rfl
    refine ((WellFormed.isolated 2).addTransition 0 (.read cls) 1).withEnds ?_ ?_
    · rw [two, start_addTransition]
      exact Nat.zero_lt_two
    · intro state isOne
      rw [StateSet.mem_singleton] at isOne
      rw [two, isOne]
      exact Nat.one_lt_two
  language_eq := by
    ext word
    constructor
    · rintro ⟨final, isFinal, symbols, path, rfl⟩
      show Symbol.spelled symbols = [cls]
      cases mem_finals_reading.mp isFinal
      rcases path with _ | ⟨listed, rest⟩
      cases mem_transitions_reading.mp listed
      rcases rest with _ | ⟨onward, _⟩
      · rfl
      · cases mem_transitions_reading.mp onward
    · rintro rfl
      show [cls] ∈ (reading cls).languageFrom 0
      have listed : ⟨0, .read cls, 1⟩ ∈ (reading cls).transitions :=
        mem_transitions_reading.mpr rfl
      exact ⟨1, mem_finals_reading.mpr rfl, Reads.single listed⟩

/-! ### Joining from left to right -/

/-- Joining from left to right gives the same language as combining from right to left, as long as
it makes no difference how the languages are bracketed. -/
theorem Realizes.foldl {join : Automaton → Automaton → Automaton}
    {combine : Language CharClass → Language CharClass → Language CharClass}
    {neutral : Language CharClass}
    (joins : ∀ {machine other language otherLanguage}, Realizes machine language →
      Realizes other otherLanguage → (join machine other).Realizes (combine language otherLanguage))
    (bracketing : ∀ first second third,
      combine (combine first second) third = combine first (combine second third))
    (combine_neutral : ∀ language, combine language neutral = language)
    {machines : List Automaton} {languages : List (Language CharClass)}
    (each : List.Forall₂ Realizes machines languages) (realizes : machine.Realizes language) :
    (machines.foldl join machine).Realizes (combine language (languages.foldr combine neutral)) := by
  induction each generalizing machine language with
  | nil =>
    rw [List.foldr_nil, combine_neutral]
    exact realizes
  | cons head _ ih =>
    rw [List.foldl_cons, List.foldr_cons, ← bracketing]
    exact ih (joins realizes head)

theorem Realizes.foldl_concatenate {machines : List Automaton}
    {languages : List (Language CharClass)} (each : List.Forall₂ Realizes machines languages)
    (realizes : machine.Realizes language) :
    (machines.foldl Automaton.concatenate machine).Realizes (language * languages.prod) :=
  realizes.foldl .concatenate mul_assoc mul_one each

theorem Realizes.foldl_union {machines : List Automaton}
    {languages : List (Language CharClass)} (each : List.Forall₂ Realizes machines languages)
    (realizes : machine.Realizes language) :
    (machines.foldl Automaton.union machine).Realizes (language + languages.sum) :=
  realizes.foldl .union add_assoc add_zero each

theorem realizes_joinAll_concatenate {machines : List Automaton}
    {languages : List (Language CharClass)} (each : List.Forall₂ Realizes machines languages)
    (joined : joinAll Automaton.concatenate machines = some machine) :
    machine.Realizes languages.prod := by
  cases each with
  | nil => cases joined
  | cons head tail =>
    cases joined
    rw [List.prod_cons]
    exact head.foldl_concatenate tail

theorem realizes_joinAll_union {machines : List Automaton}
    {languages : List (Language CharClass)} (each : List.Forall₂ Realizes machines languages)
    (joined : joinAll Automaton.union machines = some machine) :
    machine.Realizes languages.sum := by
  cases each with
  | nil => cases joined
  | cons head tail =>
    cases joined
    rw [List.sum_cons]
    exact head.foldl_union tail

end Automaton

/-! ### The automata of the parts of a pattern -/

open Automaton (Realizes)

variable {machine : Automaton}

theorem forall₂_realizes_map {α : Type} {part : α → Automaton} {meaning : α → Language CharClass}
    (each : ∀ item, (part item).Realizes (meaning item)) (items : List α) :
    List.Forall₂ Realizes (items.map part) (items.map meaning) := by
  rw [List.forall₂_map_left_iff, List.forall₂_map_right_iff, List.forall₂_same]
  exact fun item _ => each item

theorem Literal.realizes (literal : Literal) : literal.machine.Realizes literal.language := by
  unfold Literal.machine Literal.language
  split
  · exact (Automaton.realizes_reading literal.cls).star
  · exact Automaton.realizes_reading literal.cls

theorem Piece.realizes (piece : Piece) : piece.machine.Realizes piece.language := by
  cases piece with
  | literal single => exact single.realizes
  | group first rest =>
    have sequence := first.realizes.foldl_concatenate (forall₂_realizes_map Literal.realizes rest)
    rw [List.foldl_map] at sequence
    exact sequence.star

theorem Segment.realizes {segment : Segment} (built : segment.machine? = some machine) :
    machine.Realizes segment.language :=
  Automaton.realizes_joinAll_concatenate (forall₂_realizes_map Piece.realizes segment) built

/-- Only an empty alternative has no automaton. -/
theorem Segment.machine?_eq_none_iff {segment : Segment} :
    segment.machine? = none ↔ segment = [] := by
  cases segment <;> simp [Segment.machine?, Automaton.joinAll]

theorem Segment.exists_machine {segment : Segment} (nonempty : segment ≠ []) :
    ∃ machine, segment.machine? = some machine :=
  Option.ne_none_iff_exists'.mp fun unbuilt => nonempty (machine?_eq_none_iff.mp unbuilt)

theorem forall₂_realizes_segments (segments : List Segment) :
    List.Forall₂ Realizes (segments.filterMap Segment.machine?)
      ((segments.filter (· ≠ [])).map Segment.language) := by
  induction segments with
  | nil => exact .nil
  | cons segment segments ih =>
    by_cases isEmpty : segment = []
    · subst isEmpty
      exact ih
    · obtain ⟨machine, built⟩ := Segment.exists_machine isEmpty
      rw [List.filterMap_cons_some built, List.filter_cons, if_pos (decide_eq_true isEmpty),
        List.map_cons]
      exact .cons (Segment.realizes built) ih

/-- **The automaton of a pattern has the language of the pattern.** -/
theorem Pattern.realizes {pattern : Pattern} (built : pattern.machine? = some machine) :
    machine.Realizes pattern.language :=
  Automaton.realizes_joinAll_union (forall₂_realizes_segments pattern.segments) built

/-! ### Compiled texts -/

/-- **What is compiled is the automaton of the pattern that is written.** -/
theorem compile_eq_ok_iff {text : String} {built : Option Automaton} :
    compile text = .ok built ↔
      ∃ pattern : Pattern, pattern.text = text.toList ∧ pattern.machine? = built := by
  unfold compile
  simp only [map_eq_ok_iff, Pattern.parse_eq_ok_iff]

theorem wellFormed_of_compile {text : String} (compiled : compile text = .ok (some machine)) :
    machine.WellFormed := by
  obtain ⟨pattern, _, built⟩ := compile_eq_ok_iff.mp compiled
  exact (Pattern.realizes built).wellFormed

/-- **A compiled text accepts the words of its pattern.** There is exactly one pattern that is
written so, and an input is accepted if each of its characters has a class and the word of the
classes is in the language of that pattern. -/
theorem accepts_compiled_iff {text : String} (compiled : compile text = .ok (some machine)) :
    ∃ pattern : Pattern, (∀ other : Pattern, other.text = text.toList ↔ other = pattern) ∧
      ∀ input : String, machine.accepts input = true ↔
        ∃ word ∈ pattern.language, CharClass.word? input.toList = some word := by
  obtain ⟨pattern, written, built⟩ := compile_eq_ok_iff.mp compiled
  have realizes := Pattern.realizes built
  refine ⟨pattern, fun other => ⟨fun same => ?_, fun same => ?_⟩, fun input => ?_⟩
  · exact Pattern.text_injective (same.trans written.symm)
  · rw [same, written]
  · rw [Automaton.accepts_iff_mem_texts realizes.wellFormed, realizes.language_eq]
    exact exists_congr fun word => and_comm

/-- A starred group and two alternatives: `a(d*)*Ud`. -/
theorem accepts_compiled_letter_digits :
    ∃ machine, compile "a(d*)*Ud" = .ok (some machine) ∧
      ∃ pattern : Pattern, (∀ other : Pattern, other.text = "a(d*)*Ud".toList ↔ other = pattern) ∧
        ∀ input : String, machine.accepts input = true ↔
          ∃ word ∈ pattern.language, CharClass.word? input.toList = some word := by
  have compiled : compile "a(d*)*Ud" = .ok (some (((Automaton.reading .letter).concatenate
      (Automaton.reading .digit).star.star).union (Automaton.reading .digit))) :=
    compile_eq_ok_iff.mpr ⟨⟨[.literal ⟨.letter, false⟩, .group ⟨.digit, true⟩ []],
      [[.literal ⟨.digit, false⟩]]⟩, by decide, rfl⟩
  exact ⟨_, compiled, accepts_compiled_iff compiled⟩

end PatternNfa
