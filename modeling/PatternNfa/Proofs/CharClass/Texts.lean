/-
**Texts with a word in a language.**

A text belongs to a language over the classes if it has a word of classes and the word is in the
language. The words of the parts of a text make up the word of the text, and a word that is cut into
parts cuts the text in the same places. So products, sums and Kleene stars of languages over the
classes are the same of texts.

* `word?_append_eq_some_iff`: the word of a text, cut in two;
* `texts_mul`, `texts_add`, `texts_kstar`: products, sums and Kleene stars.
-/

import Mathlib.Computability.Language
import PatternNfa.CharClass.Basic

namespace PatternNfa

open scoped Computability

/-- One more word of the language before any number of them. -/
theorem mem_kstar_of_mem_mul {α : Type} {language : Language α} {word : List α}
    (rounds : word ∈ language * language∗) : word ∈ language∗ :=
  Set.mem_of_mem_of_subset rounds (mul_kstar_le_kstar (a := language))

namespace CharClass

variable {text : List Char} {first second word : List CharClass}

/-- **A word that is cut in two cuts the text in two.** -/
theorem word?_eq_some_append_iff :
    word? text = some (first ++ second) ↔
      ∃ before after, before ++ after = text ∧ word? before = some first ∧
        word? after = some second := by
  simp only [word?_eq_some_iff, List.map_append, List.map_eq_append_iff]
  constructor
  · rintro ⟨before, after, rfl, firstWord, secondWord⟩
    exact ⟨before, after, rfl, firstWord, secondWord⟩
  · rintro ⟨before, after, rfl, firstWord, secondWord⟩
    exact ⟨before, after, rfl, firstWord, secondWord⟩

/-- Every word of classes is that of some text. -/
theorem exists_word?_eq_some (word : List CharClass) : ∃ text, word? text = some word := by
  have each (cls : CharClass) : ∃ c, ofChar? c = some cls := by
    cases cls with
    | letter => exact ⟨'a', rfl⟩
    | digit => exact ⟨'0', rfl⟩
  induction word with
  | nil => exact ⟨[], word?_nil⟩
  | cons cls word ih =>
    obtain ⟨c, hasClass⟩ := each cls
    obtain ⟨text, hasWord⟩ := ih
    exact ⟨c :: text, by rw [word?_cons, hasClass, Option.bind_some, hasWord, Option.map_some]⟩

/-- **The texts whose word is in the language.** -/
def texts (language : Language CharClass) : Language Char :=
  {text | ∃ word, word? text = some word ∧ word ∈ language}

variable (language other : Language CharClass)

theorem texts_mul : texts (language * other) = texts language * texts other := by
  ext text
  rw [Language.mem_mul]
  constructor
  · rintro ⟨_, hasWord, first, inFirst, second, inSecond, rfl⟩
    obtain ⟨before, after, rfl, firstWord, secondWord⟩ := word?_eq_some_append_iff.mp hasWord
    exact ⟨before, ⟨first, firstWord, inFirst⟩, after, ⟨second, secondWord, inSecond⟩, rfl⟩
  · rintro ⟨before, ⟨first, firstWord, inFirst⟩, after, ⟨second, secondWord, inSecond⟩, rfl⟩
    exact ⟨first ++ second, word?_eq_some_append_iff.mpr ⟨before, after, rfl, firstWord, secondWord⟩,
      Language.append_mem_mul inFirst inSecond⟩

theorem texts_add : texts (language + other) = texts language + texts other := by
  ext text
  rw [Language.mem_add]
  constructor
  · rintro ⟨word, hasWord, inFirst | inSecond⟩
    · exact Or.inl ⟨word, hasWord, inFirst⟩
    · exact Or.inr ⟨word, hasWord, inSecond⟩
  · rintro (⟨word, hasWord, inFirst⟩ | ⟨word, hasWord, inSecond⟩)
    · exact ⟨word, hasWord, Or.inl inFirst⟩
    · exact ⟨word, hasWord, Or.inr inSecond⟩

/-- A word that is made up of words of the language cuts its text into texts of the language. -/
theorem mem_kstar_texts {words : List (List CharClass)} (each : ∀ word ∈ words, word ∈ language)
    (hasWord : word? text = some words.flatten) : text ∈ (texts language)∗ := by
  induction words generalizing text with
  | nil =>
    have isEmpty : text = [] := List.map_eq_nil_iff.mp (word?_eq_some_iff.mp hasWord)
    rw [isEmpty]
    exact Language.nil_mem_kstar _
  | cons word words ih =>
    obtain ⟨before, after, rfl, wordBefore, wordsAfter⟩ := word?_eq_some_append_iff.mp hasWord
    have first : before ∈ texts language := ⟨word, wordBefore, each word List.mem_cons_self⟩
    have rest := ih (fun later listed => each later (List.mem_cons_of_mem word listed)) wordsAfter
    exact mem_kstar_of_mem_mul (Language.append_mem_mul first rest)

/-- Texts of the language, one after another, have a word of repetitions. -/
theorem flatten_mem_texts_kstar {parts : List (List Char)}
    (each : ∀ part ∈ parts, part ∈ texts language) : parts.flatten ∈ texts language∗ := by
  induction parts with
  | nil => exact ⟨[], word?_nil, Language.nil_mem_kstar _⟩
  | cons part parts ih =>
    have rest := ih fun later listed => each later (List.mem_cons_of_mem part listed)
    have rounds : part ++ parts.flatten ∈ texts (language * language∗) := by
      rw [texts_mul]
      exact Language.append_mem_mul (each part List.mem_cons_self) rest
    obtain ⟨word, hasWord, repeated⟩ := rounds
    exact ⟨word, hasWord, mem_kstar_of_mem_mul repeated⟩

theorem texts_kstar : texts language∗ = (texts language)∗ := by
  ext text
  constructor
  · rintro ⟨_, hasWord, words, rfl, each⟩
    exact mem_kstar_texts language each hasWord
  · rintro ⟨parts, rfl, each⟩
    exact flatten_mem_texts_kstar language each

end CharClass

end PatternNfa
