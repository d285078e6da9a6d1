/-
**The active states are those that paths lead to.**

Reading all paths at once keeps the set of the states that some path from the start leads to. The
set is closed under epsilon transitions from the beginning and stays so, character by character; a
character without a class leaves no state active, and none becomes active again after that. So the
early answers of `acceptsFrom` and the closure at its end make no difference.

* `mem_activeAfter`: the states that are active after a text;
* `accepts_eq_meets`: the answer is whether one of them is final;
* `accepts_append`: the answer on a whole input depends on what is active after its beginning;
* `accepts_iff_mem_texts`: a text is accepted if its word of classes is in the language.
-/

import PatternNfa.Automaton.Acceptance
import PatternNfa.Proofs.Automaton.Closure
import PatternNfa.Proofs.CharClass.Texts

namespace PatternNfa.Automaton

open Relation (ReflTransGen)

variable {machine : Automaton} {active states : StateSet} {source target : State}

/-- No epsilon transition leads out of the set. -/
def Closed (machine : Automaton) (states : StateSet) : Prop :=
  ∀ source ∈ states, ∀ target, machine.Silent source target → target ∈ states

theorem Closed.mem_of_silent (closed : machine.Closed states) (inside : source ∈ states)
    (silent : ReflTransGen machine.Silent source target) : target ∈ states := by
  induction silent with
  | refl => exact inside
  | tail _ listed ih => exact closed _ ih _ listed

theorem closed_closure (sound : machine.WellFormed) (states : StateSet) :
    machine.Closed (machine.closure states) := by
  intro source inside target listed
  obtain ⟨origin, begun, silent⟩ := (mem_closure sound).mp inside
  exact (mem_closure sound).mpr ⟨origin, begun, silent.tail listed⟩

/-- The closure adds nothing to a closed set. -/
theorem Closed.closure_eq (sound : machine.WellFormed) (closed : machine.Closed states) :
    machine.closure states = states := by
  refine StateSet.eq_of_mem_iff fun state => ?_
  rw [mem_closure sound]
  constructor
  · rintro ⟨source, inside, silent⟩
    exact closed.mem_of_silent inside silent
  · exact fun inside => ⟨state, inside, .refl⟩

/-! ### One character -/

/-- A state is active after a character if a transition that reads it leads there, and epsilon
transitions from there on. -/
theorem mem_advance (sound : machine.WellFormed) {cls : CharClass} :
    target ∈ machine.advance active cls ↔
      ∃ before ∈ active, ∃ after, ⟨before, .read cls, after⟩ ∈ machine.transitions ∧
        ReflTransGen machine.Silent after target := by
  rw [advance, mem_closure sound]
  simp only [mem_step, mem_transitions]
  constructor
  · rintro ⟨after, ⟨before, inside, listed⟩, silent⟩
    exact ⟨before, inside, after, listed, silent⟩
  · rintro ⟨before, inside, after, listed, silent⟩
    exact ⟨after, ⟨before, inside, listed⟩, silent⟩

/-- The active states after one more character: there are none if it has no class. -/
def readChar (machine : Automaton) (active : StateSet) (c : Char) : StateSet :=
  (CharClass.ofChar? c).elim ∅ (machine.advance active)

theorem readChar_of_eq_none {c : Char} (classless : CharClass.ofChar? c = none) :
    machine.readChar active c = ∅ := by
  rw [readChar, classless, Option.elim_none]

theorem readChar_of_eq_some {c : Char} {cls : CharClass} (hasClass : CharClass.ofChar? c = some cls) :
    machine.readChar active c = machine.advance active cls := by
  rw [readChar, hasClass, Option.elim_some]

theorem closed_empty (machine : Automaton) : machine.Closed ∅ :=
  fun _ inside => absurd inside Std.ExtTreeSet.not_mem_empty

theorem closed_readChar (sound : machine.WellFormed) (active : StateSet) (c : Char) :
    machine.Closed (machine.readChar active c) := by
  cases classified : CharClass.ofChar? c with
  | none =>
    rw [readChar_of_eq_none classified]
    exact machine.closed_empty
  | some cls =>
    rw [readChar_of_eq_some classified]
    exact closed_closure sound _

/-- From a closed set, one more character is the first of what is read. -/
theorem reads_after_readChar (sound : machine.WellFormed) (closed : machine.Closed active)
    {c : Char} {rest : List Char} :
    (∃ word, CharClass.word? rest = some word ∧
        ∃ source ∈ machine.readChar active c, machine.Reads source word target) ↔
      ∃ word, CharClass.word? (c :: rest) = some word ∧
        ∃ source ∈ active, machine.Reads source word target := by
  rw [CharClass.word?_cons]
  cases classified : CharClass.ofChar? c with
  | none => simp [readChar_of_eq_none classified]
  | some cls =>
    simp only [readChar_of_eq_some classified, Option.bind_some, Option.map_eq_some_iff]
    constructor
    · rintro ⟨word, classes, source, inside, reads⟩
      obtain ⟨before, wasActive, after, listed, silent⟩ := (mem_advance sound).mp inside
      exact ⟨cls :: word, ⟨word, classes, rfl⟩, before, wasActive,
        reads_cons_iff.mpr ⟨before, after, .refl, listed, (Reads.of_silent silent).append reads⟩⟩
    · rintro ⟨_, ⟨word, classes, rfl⟩, source, wasActive, reads⟩
      obtain ⟨before, after, silent, listed, rest⟩ := reads_cons_iff.mp reads
      have inside := (mem_advance sound).mpr
        ⟨before, closed.mem_of_silent wasActive silent, after, listed, .refl⟩
      exact ⟨word, classes, after, inside, rest⟩

/-! ### A whole text -/

/-- **From a closed set**, a text leads to the states to which its word is read. -/
theorem mem_foldl_readChar (sound : machine.WellFormed) (closed : machine.Closed active)
    {text : List Char} :
    target ∈ text.foldl machine.readChar active ↔
      ∃ word, CharClass.word? text = some word ∧
        ∃ source ∈ active, machine.Reads source word target := by
  induction text generalizing active with
  | nil =>
    simp only [List.foldl_nil, CharClass.word?_nil, Option.some.injEq, exists_eq_left',
      reads_nil_iff]
    constructor
    · exact fun inside => ⟨target, inside, .refl⟩
    · rintro ⟨source, inside, silent⟩
      exact closed.mem_of_silent inside silent
  | cons c rest ih =>
    rw [List.foldl_cons, ih (closed_readChar sound active c), reads_after_readChar sound closed]

/-- Once no state is active, none becomes active any more. -/
theorem foldl_readChar_empty (sound : machine.WellFormed) (text : List Char) :
    text.foldl machine.readChar ∅ = ∅ := by
  refine Std.ExtTreeSet.eq_empty_iff_forall_not_mem.mpr fun state inside => ?_
  obtain ⟨_, _, source, wasActive, _⟩ :=
    (mem_foldl_readChar sound machine.closed_empty).mp inside
  exact Std.ExtTreeSet.not_mem_empty wasActive

/-- **The early answers and the last closure make no difference**: the rest of a text is accepted
if a final state is active at its end. -/
theorem acceptsFrom_eq_meets (sound : machine.WellFormed) (closed : machine.Closed active)
    (text : List Char) :
    machine.acceptsFrom active text =
      (text.foldl machine.readChar active).meets machine.finals := by
  have noneActive : (∅ : StateSet).meets machine.finals = false := rfl
  induction text generalizing active with
  | nil => rw [acceptsFrom, closed.closure_eq sound, List.foldl_nil]
  | cons c rest ih =>
    rw [acceptsFrom, List.foldl_cons]
    cases classified : CharClass.ofChar? c with
    | none => rw [readChar_of_eq_none classified, foldl_readChar_empty sound, noneActive]
    | some cls =>
      rw [readChar_of_eq_some classified]
      simp only
      split
      · rename_i isEmpty
        rw [Std.ExtTreeSet.isEmpty_iff.mp isEmpty, foldl_readChar_empty sound, noneActive]
      · exact ih (closed_closure sound _)

/-- The states that are active after a text, all of which is read. -/
def activeAfter (machine : Automaton) (text : List Char) : StateSet :=
  text.foldl machine.readChar (machine.closure {machine.start})

/-- **The active states are those to which the word of the text is read from the start.** -/
theorem mem_activeAfter (sound : machine.WellFormed) {text : List Char} :
    target ∈ machine.activeAfter text ↔
      ∃ word, CharClass.word? text = some word ∧ machine.Reads machine.start word target := by
  rw [activeAfter, mem_foldl_readChar sound (closed_closure sound _)]
  refine exists_congr fun word => and_congr_right fun _ => ?_
  constructor
  · rintro ⟨source, inside, reads⟩
    obtain ⟨origin, isStart, silent⟩ := (mem_closure sound).mp inside
    rw [StateSet.mem_singleton] at isStart
    subst isStart
    exact (Reads.of_silent silent).append reads
  · intro reads
    refine ⟨machine.start, (mem_closure sound).mpr ⟨machine.start, ?_, .refl⟩, reads⟩
    rw [StateSet.mem_singleton]

theorem accepts_eq_meets (sound : machine.WellFormed) (input : String) :
    machine.accepts input = (machine.activeAfter input.toList).meets machine.finals :=
  acceptsFrom_eq_meets sound (closed_closure sound _) input.toList

theorem closed_activeAfter (sound : machine.WellFormed) (text : List Char) :
    machine.Closed (machine.activeAfter text) := by
  intro source inside target listed
  obtain ⟨word, classes, reads⟩ := (mem_activeAfter sound).mp inside
  refine (mem_activeAfter sound).mpr ⟨word, classes, ?_⟩
  have onward := reads.append (Reads.of_silent (.single listed))
  rwa [List.append_nil] at onward

theorem acceptsFrom_empty (sound : machine.WellFormed) (text : List Char) :
    machine.acceptsFrom ∅ text = false := by
  rw [acceptsFrom_eq_meets sound machine.closed_empty, foldl_readChar_empty sound]
  rfl

/-- **Reading goes on from the active states**: the answer on a whole input is that on its rest, from
the states that are active after its beginning. -/
theorem accepts_append (sound : machine.WellFormed) (input rest : String) :
    machine.accepts (input ++ rest) =
      machine.acceptsFrom (machine.activeAfter input.toList) rest.toList := by
  rw [accepts_eq_meets sound, acceptsFrom_eq_meets sound (closed_activeAfter sound _),
    String.toList_append, activeAfter, activeAfter, List.foldl_append]

/-- **A text is accepted if its word of classes is in the language.** -/
theorem accepts_iff_mem_texts (sound : machine.WellFormed) {input : String} :
    machine.accepts input = true ↔ input.toList ∈ CharClass.texts machine.language := by
  rw [accepts_eq_meets sound, StateSet.meets_eq_true_iff]
  constructor
  · rintro ⟨final, inside, isFinal⟩
    obtain ⟨word, classes, reads⟩ := (mem_activeAfter sound).mp inside
    exact ⟨word, classes, final, isFinal, reads⟩
  · rintro ⟨word, classes, final, isFinal, reads⟩
    exact ⟨final, (mem_activeAfter sound).mpr ⟨word, classes, reads⟩, isFinal⟩

theorem accepts_ofList_iff (sound : machine.WellFormed) {text : List Char} :
    machine.accepts (String.ofList text) = true ↔ text ∈ CharClass.texts machine.language := by
  rw [accepts_iff_mem_texts sound, String.toList_ofList]

end PatternNfa.Automaton
