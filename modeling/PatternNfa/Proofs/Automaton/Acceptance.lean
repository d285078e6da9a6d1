/-
**What built automata accept.**

However an automaton has been built, it accepts an input if a path from its start to a final state
spells the word of the input. Repetition, concatenation and union do to the accepted inputs what
their names say, whatever the start, the final states and the transitions are: the start may be final
or have transitions into it, final states may have transitions out of them, and there may be none.

* `accepts_iff_exists_path`: acceptance and paths;
* `accepts_concatenate_iff`, `accepts_star_iff`, `accepts_union_iff`: acceptance after an operation.
-/

import PatternNfa.Proofs.Automaton.Built

namespace PatternNfa

/-- Two states: a letter leads from the start to the final one, a digit leads back, and an epsilon
transition leads from the final one to itself. -/
def Parts.ring : Parts where
  size := 2
  start := 0
  transitions := [⟨0, .read .letter, 1⟩, ⟨1, .epsilon, 1⟩, ⟨1, .read .digit, 0⟩]
  finals := [1]

namespace Automaton

open scoped Computability

variable {machine other : Automaton}

/-- **An input is accepted if a path spells its word.** All its characters have classes, and some
path from the start to a final state spells the word of the classes. It makes no difference that
reading stops early, nor that the closure is taken once more at the end: the answer is whether one
of the states that are active after the whole input is final. -/
theorem accepts_iff_exists_path (built : machine.Built) (input : String) :
    (machine.accepts input = true ↔
        ∃ word, CharClass.word? input.toList = some word ∧
          ∃ final ∈ machine.finals, ∃ symbols,
            machine.Path machine.start symbols final ∧ Symbol.spelled symbols = word) ∧
      machine.accepts input = (machine.activeAfter input.toList).meets machine.finals :=
  ⟨accepts_iff_mem_texts built.wellFormed, accepts_eq_meets built.wellFormed input⟩

/-- The word of `b1b` goes once around the ring. -/
theorem exists_path_ring :
    ∃ final ∈ (ofParts .ring).finals, ∃ symbols,
      (ofParts .ring).Path (ofParts .ring).start symbols final ∧
        Symbol.spelled symbols = [.letter, .digit, .letter] := by
  have accepted : (ofParts .ring).accepts "b1b" = true := rfl
  have classes : CharClass.word? "b1b".toList = some [.letter, .digit, .letter] := rfl
  obtain ⟨word, hasWord, final, isFinal, symbols, path, spells⟩ :=
    (accepts_iff_exists_path (.ofParts .ring) "b1b").1.mp accepted
  rw [classes] at hasWord
  cases hasWord
  exact ⟨final, isFinal, symbols, path, spells⟩

/-! ### Operations -/

/-- **A concatenation accepts what the first accepts, followed by what the second accepts**, and
nothing changes when there is no second one. -/
theorem accepts_concatenate_iff (built : machine.Built) (otherBuilt : other.Built) :
    (∀ input : String, (machine.concatenateOption (some other)).accepts input = true ↔
        ∃ first second : String, first ++ second = input ∧
          machine.accepts first = true ∧ other.accepts second = true) ∧
      machine.concatenateOption none = machine := by
  refine ⟨fun input => ?_, rfl⟩
  have sound := built.wellFormed
  have otherSound := otherBuilt.wellFormed
  show (machine.concatenate other).accepts input = true ↔ _
  rw [accepts_iff_mem_texts (sound.concatenate otherSound), language_concatenate sound otherSound,
    CharClass.texts_mul, Language.mem_mul]
  constructor
  · rintro ⟨first, firstRead, second, secondRead, joined⟩
    refine ⟨.ofList first, .ofList second, ?_, (accepts_ofList_iff sound).mpr firstRead,
      (accepts_ofList_iff otherSound).mpr secondRead⟩
    rw [← String.ofList_append, joined, String.ofList_toList]
  · rintro ⟨first, second, rfl, firstAccepted, secondAccepted⟩
    exact ⟨first.toList, (accepts_iff_mem_texts sound).mp firstAccepted, second.toList,
      (accepts_iff_mem_texts otherSound).mp secondAccepted, String.toList_append.symm⟩

theorem accepts_concatenate_ring :
    ((ofParts .ring).concatenateOption (some (ofParts .ring))).accepts "bb1b" = true :=
  ((accepts_concatenate_iff (.ofParts .ring) (.ofParts .ring)).1 "bb1b").mpr
    ⟨"b", "b1b", rfl, rfl, rfl⟩

/-- **A repetition accepts any number of accepted inputs, one after another.** -/
theorem accepts_star_iff (built : machine.Built) (input : String) :
    machine.star.accepts input = true ↔
      ∃ parts : List String, String.join parts = input ∧
        ∀ part ∈ parts, machine.accepts part = true := by
  have sound := built.wellFormed
  rw [accepts_iff_mem_texts sound.star, language_star sound, CharClass.texts_kstar,
    Language.mem_kstar]
  constructor
  · rintro ⟨texts, joined, each⟩
    refine ⟨texts.map .ofList, ?_, ?_⟩
    · refine String.toList_inj.mp ?_
      simp only [String.toList_join, List.flatMap_map, String.toList_ofList]
      rw [List.flatMap_id', joined]
    · intro part listed
      obtain ⟨text, member, rfl⟩ := List.mem_map.mp listed
      exact (accepts_ofList_iff sound).mpr (each text member)
  · rintro ⟨parts, rfl, each⟩
    refine ⟨parts.map String.toList, String.toList_join, fun text listed => ?_⟩
    obtain ⟨part, member, rfl⟩ := List.mem_map.mp listed
    exact (accepts_iff_mem_texts sound).mp (each part member)

theorem accepts_star_ring : (ofParts .ring).star.accepts "b1bb" = true := by
  refine (accepts_star_iff (.ofParts .ring) "b1bb").mpr ⟨["b1b", "b"], rfl, fun part listed => ?_⟩
  rcases List.mem_pair.mp listed with rfl | rfl
  · rfl
  · rfl

/-- **A union accepts what either of the two accepts**, and nothing changes when there is no second
one. -/
theorem accepts_union_iff (built : machine.Built) (otherBuilt : other.Built) :
    (∀ input : String, (machine.unionOption (some other)).accepts input = true ↔
        machine.accepts input = true ∨ other.accepts input = true) ∧
      machine.unionOption none = machine := by
  refine ⟨fun input => ?_, rfl⟩
  have sound := built.wellFormed
  have otherSound := otherBuilt.wellFormed
  show (machine.union other).accepts input = true ↔ _
  rw [accepts_iff_mem_texts (sound.union otherSound), accepts_iff_mem_texts sound,
    accepts_iff_mem_texts otherSound, language_union sound otherSound, CharClass.texts_add,
    Language.mem_add]

/-- The ring beside its own repetition: the empty input is accepted by the second one only, and the
input `b1` by neither. -/
theorem accepts_union_ring :
    ((ofParts .ring).unionOption (some (ofParts .ring).star)).accepts "" = true ∧
      ((ofParts .ring).unionOption (some (ofParts .ring).star)).accepts "b1" = false := by
  have starBuilt : (ofParts .ring).star.Built := by
    refine .edited .star (.ofParts .ring) fun other joined => ?_
    cases joined
  have either := (accepts_union_iff (.ofParts .ring) starBuilt).1
  refine ⟨(either "").mpr (Or.inr rfl), ?_⟩
  rw [← Bool.not_eq_true, either "b1"]
  decide

end Automaton

end PatternNfa
