/-
**The languages of repetition, concatenation and union.**

Each operation does to the language of well-formed automata what its name says. An accepting path
of a concatenation crosses once from the first automaton to the second, by a link from a final state.
An accepting path of a repetition falls into rounds at the links back to the old start. An accepting
path of a union goes from the new start to one of the old ones and stays there.

* `language_concatenate`, `language_star`, `language_union`: the product, the Kleene star and the
  sum of languages.
-/

import PatternNfa.Proofs.Automaton.Embedding
import PatternNfa.Proofs.CharClass.Texts

namespace PatternNfa.Automaton

open scoped Computability

variable {machine other : Automaton} {source target : State}

/-- A transition before the first of two words goes on in the first. -/
theorem append_mem_mul {symbol : Symbol} {word : List CharClass} {language : Language CharClass}
    (listed : ⟨source, symbol, target⟩ ∈ machine.transitions)
    (read : word ∈ machine.languageFrom target * language) :
    Symbol.spelled [symbol] ++ word ∈ machine.languageFrom source * language := by
  obtain ⟨first, firstRead, second, secondRead, rfl⟩ := Language.mem_mul.mp read
  rw [← List.append_assoc]
  exact Language.append_mem_mul (append_mem_languageFrom listed firstRead) secondRead

/-! ### Concatenation -/

/-- **An accepting path of a concatenation crosses once**: it spells a word of the first automaton
and then one of the second. -/
theorem mem_mul_of_path_concatenate (sound : machine.WellFormed) (otherSound : other.WellFormed)
    {symbols : List Symbol} {final : State}
    (path : (machine.concatenate other).Path source symbols final)
    (isFinal : final ∈ (machine.concatenate other).finals) (inside : source < machine.size) :
    Symbol.spelled symbols ∈ machine.languageFrom source * other.language := by
  induction path with
  | nil =>
    rw [finals_concatenate] at isFinal
    obtain ⟨old, _, rfl⟩ := StateSet.mem_shift.mp isFinal
    exact absurd inside not_add_size_lt
  | @cons source _ _ symbol symbols listed rest ih =>
    rw [Symbol.spelled_cons]
    rcases (mem_transitions_concatenate sound otherSound).mp listed with
      old | ⟨moved, _, same⟩ | ⟨exit, exitFinal, same⟩
    · exact append_mem_mul old (ih isFinal (sound.target_lt _ old))
    · obtain ⟨rfl, _, _⟩ := Transition.mk.inj same
      exact absurd inside not_add_size_lt
    · obtain ⟨rfl, rfl, rfl⟩ := Transition.mk.inj same
      refine Language.append_mem_mul (nil_mem_languageFrom exitFinal) ?_
      rw [language, ← (embeds_concatenate sound otherSound).languageFrom_add otherSound
        otherSound.start_lt]
      exact ⟨_, isFinal, symbols, rest, rfl⟩

theorem languageFrom_concatenate (sound : machine.WellFormed) (otherSound : other.WellFormed)
    (inside : source < machine.size) :
    (machine.concatenate other).languageFrom source =
      machine.languageFrom source * other.language := by
  ext word
  constructor
  · rintro ⟨final, isFinal, symbols, path, rfl⟩
    exact mem_mul_of_path_concatenate sound otherSound path isFinal inside
  · intro read
    obtain ⟨first, ⟨exit, exitFinal, reads⟩, second, secondRead, rfl⟩ := Language.mem_mul.mp read
    have kept (transition : Transition) (old : transition ∈ machine.transitions) :
        transition ∈ (machine.concatenate other).transitions :=
      (mem_transitions_concatenate sound otherSound).mpr (Or.inl old)
    have link : ⟨exit, .epsilon, other.start + machine.size⟩ ∈
        (machine.concatenate other).transitions :=
      (mem_transitions_concatenate sound otherSound).mpr (Or.inr (Or.inr ⟨exit, exitFinal, rfl⟩))
    refine (reads.mono kept).append_mem_languageFrom (append_mem_languageFrom link ?_)
    rw [(embeds_concatenate sound otherSound).languageFrom_add otherSound otherSound.start_lt]
    exact secondRead

/-- **A concatenation reads the product of the languages.** -/
theorem language_concatenate (sound : machine.WellFormed) (otherSound : other.WellFormed) :
    (machine.concatenate other).language = machine.language * other.language := by
  rw [language, start_concatenate, languageFrom_concatenate sound otherSound sound.start_lt,
    ← language]

/-! ### Repetition -/

/-- **An accepting path of a repetition falls into rounds**: it ends the round in which it begins,
and then makes any number of rounds from the old start. -/
theorem mem_mul_kstar_of_path_star (sound : machine.WellFormed) {symbols : List Symbol}
    {final : State} (path : machine.star.Path source symbols final)
    (isFinal : final ∈ machine.star.finals) (inside : source < machine.size) :
    Symbol.spelled symbols ∈ machine.languageFrom source * machine.language∗ := by
  have oldFinal {state : State} (isFinal : state ∈ machine.star.finals)
      (inside : state < machine.size) : state ∈ machine.finals :=
    (mem_finals_star.mp isFinal).resolve_right (Nat.ne_of_lt inside)
  induction path with
  | nil =>
    exact Language.append_mem_mul (nil_mem_languageFrom (oldFinal isFinal inside))
      (Language.nil_mem_kstar _)
  | cons listed _ ih =>
    rw [Symbol.spelled_cons]
    rcases (mem_transitions_star sound).mp listed with old | ⟨exit, exitFinal, same⟩
    · exact append_mem_mul old (ih isFinal (sound.target_lt _ old))
    · obtain ⟨rfl, rfl, rfl⟩ := Transition.mk.inj same
      have rounds := ih isFinal sound.start_lt
      exact Language.append_mem_mul (nil_mem_languageFrom (oldFinal exitFinal inside))
        (mem_kstar_of_mem_mul rounds)

/-- Words of the language, one after another, are read from the new state and from every old final
state, through the old start. -/
theorem flatten_mem_languageFrom_star (sound : machine.WellFormed) {words : List (List CharClass)}
    (each : ∀ word ∈ words, word ∈ machine.language) {exit : State}
    (exitFinal : exit ∈ machine.star.finals) :
    words.flatten ∈ machine.star.languageFrom exit := by
  have kept (transition : Transition) (old : transition ∈ machine.transitions) :
      transition ∈ machine.star.transitions := (mem_transitions_star sound).mpr (Or.inl old)
  induction words generalizing exit with
  | nil => exact nil_mem_languageFrom exitFinal
  | cons word words ih =>
    obtain ⟨final, isFinal, reads⟩ := each word List.mem_cons_self
    have link : ⟨exit, .epsilon, machine.start⟩ ∈ machine.star.transitions :=
      (mem_transitions_star sound).mpr (Or.inr ⟨exit, exitFinal, rfl⟩)
    have later := ih (fun word listed => each word (List.mem_cons_of_mem _ listed))
      (mem_finals_star.mpr (Or.inl isFinal))
    exact append_mem_languageFrom link ((reads.mono kept).append_mem_languageFrom later)

/-- **A repetition reads the Kleene star of the language.** -/
theorem language_star (sound : machine.WellFormed) :
    machine.star.language = machine.language∗ := by
  ext word
  rw [language, start_star]
  constructor
  · rintro ⟨final, isFinal, symbols, path, rfl⟩
    cases path with
    | nil => exact Language.nil_mem_kstar _
    | cons listed rest =>
      rcases (mem_transitions_star sound).mp listed with old | ⟨exit, _, same⟩
      · exact absurd (source_lt_size old) (Nat.lt_irrefl _)
      · obtain ⟨_, rfl, rfl⟩ := Transition.mk.inj same
        have rounds := mem_mul_kstar_of_path_star sound rest isFinal sound.start_lt
        exact mem_kstar_of_mem_mul rounds
  · intro repeated
    obtain ⟨words, rfl, each⟩ := Language.mem_kstar.mp repeated
    exact flatten_mem_languageFrom_star sound each (mem_finals_star.mpr (Or.inr rfl))

/-! ### Union -/

/-- From the new start of a union nothing is read but what is read from the old starts. -/
theorem languageFrom_start_union (sound : machine.WellFormed) (otherSound : other.WellFormed) :
    (machine.union other).languageFrom (machine.size + other.size) =
      (machine.union other).languageFrom machine.start +
        (machine.union other).languageFrom (other.start + machine.size) := by
  ext word
  rw [Language.mem_add]
  constructor
  · rintro ⟨final, isFinal, symbols, path, rfl⟩
    cases path with
    | nil =>
      rcases mem_finals_union.mp isFinal with old | moved
      · exact absurd (sound.final_lt _ old) (Nat.not_lt_of_le (Nat.le_add_right _ _))
      · exact absurd (lt_of_mem_shift_finals otherSound moved) (Nat.lt_irrefl _)
    | @cons _ _ _ symbol symbols listed rest =>
      rcases (mem_transitions_union sound otherSound).mp listed with
        old | ⟨moved, old, same⟩ | same | same
      · exact absurd (source_lt_size old) (Nat.not_lt_of_le (Nat.le_add_right _ _))
      · have sources : machine.size + other.size = moved.source + machine.size :=
          (Transition.mk.inj same).1
        exact absurd (source_lt_size old) (Nat.not_lt_of_le (by omega))
      · obtain ⟨_, rfl, rfl⟩ := Transition.mk.inj same
        exact Or.inl ⟨final, isFinal, symbols, rest, rfl⟩
      · obtain ⟨_, rfl, rfl⟩ := Transition.mk.inj same
        exact Or.inr ⟨final, isFinal, symbols, rest, rfl⟩
  · have first : ⟨machine.size + other.size, .epsilon, machine.start⟩ ∈
        (machine.union other).transitions :=
      (mem_transitions_union sound otherSound).mpr (Or.inr (Or.inr (Or.inl rfl)))
    have second : ⟨machine.size + other.size, .epsilon, other.start + machine.size⟩ ∈
        (machine.union other).transitions :=
      (mem_transitions_union sound otherSound).mpr (Or.inr (Or.inr (Or.inr rfl)))
    rintro (read | read)
    · exact append_mem_languageFrom first read
    · exact append_mem_languageFrom second read

/-- **A union reads the sum of the languages.** -/
theorem language_union (sound : machine.WellFormed) (otherSound : other.WellFormed) :
    (machine.union other).language = machine.language + other.language := by
  have left := (embeds_union_left sound otherSound).languageFrom_add sound sound.start_lt
  have right := (embeds_union_right sound otherSound).languageFrom_add otherSound
    otherSound.start_lt
  rw [Nat.add_zero] at left
  rw [language, start_union, languageFrom_start_union sound otherSound, left, right]
  rfl

end PatternNfa.Automaton
