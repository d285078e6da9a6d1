/-
**Forms that tell where they end.**

An item may be written in several forms. The forms of the items are self-delimiting if the beginning
of a text tells which item is written there and where its form ends, whatever comes after it. Then
items that are written one after another can be told apart, and no text is a form of two items.

* `SelfDelimiting.mul`, `SelfDelimiting.word_mul`: forms put together;
* `SelfDelimiting.eq_of_mem_prod`: any number of items up to the end of the text;
* `decimalForms`, `eq_of_decimalForms`: a number is read as far as there are digits.
-/

import Mathlib.Computability.Language
import Mathlib.Data.List.TakeWhile

namespace PatternNfa.Text

variable {α β : Type} {forms : α → Language Char}

/-- **Self-delimiting forms.** A text begins with the form of at most one item, and with at most one
form of it. -/
def SelfDelimiting (forms : α → Language Char) : Prop :=
  ∀ ⦃first second : α⦄ ⦃text other rest otherRest : List Char⦄, text ∈ forms first →
    other ∈ forms second → text ++ rest = other ++ otherRest → first = second ∧ rest = otherRest

namespace SelfDelimiting

/-- Words are self-delimiting if none of them begins with another. -/
theorem of_isPrefix {word : α → List Char}
    (prefixFree : ∀ first second, word first <+: word second → first = second) :
    SelfDelimiting fun item => ({word item} : Language Char) := by
  rintro first second _ _ rest otherRest rfl rfl same
  have equal : first = second := by
    have beginning : word second <+: word first ++ rest := same ▸ List.prefix_append _ _
    rcases List.prefix_or_prefix_of_prefix (List.prefix_append _ _) beginning with shorter | longer
    · exact prefixFree first second shorter
    · exact (prefixFree second first longer).symm
  cases equal
  exact ⟨rfl, List.append_cancel_left same⟩

/-- What determines an item can be written in its place. -/
theorem of_injective (delimited : SelfDelimiting forms) {view : β → α}
    (injective : Function.Injective view) : SelfDelimiting fun item => forms (view item) := by
  intro first second text other rest otherRest written otherWritten same
  obtain ⟨equal, ends⟩ := delimited written otherWritten same
  exact ⟨injective equal, ends⟩

/-- Two items, one after the other. -/
theorem mul (delimited : SelfDelimiting forms) {otherForms : β → Language Char}
    (otherDelimited : SelfDelimiting otherForms) :
    SelfDelimiting fun pair : α × β => forms pair.1 * otherForms pair.2 := by
  rintro ⟨first, next⟩ ⟨second, otherNext⟩ _ _ rest otherRest ⟨text, written, more, moreWritten, rfl⟩
    ⟨other, otherWritten, otherMore, otherMoreWritten, rfl⟩ same
  simp only [List.append_assoc] at same
  obtain ⟨rfl, following⟩ := delimited written otherWritten same
  obtain ⟨rfl, ends⟩ := otherDelimited moreWritten otherMoreWritten following
  exact ⟨rfl, ends⟩

/-- An item after a fixed word. -/
theorem word_mul (delimited : SelfDelimiting forms) (word : List Char) :
    SelfDelimiting fun item => {word} * forms item := by
  rintro first second _ _ rest otherRest ⟨_, rfl, text, written, rfl⟩
    ⟨_, rfl, other, otherWritten, rfl⟩ same
  simp only [List.append_assoc] at same
  exact delimited written otherWritten (List.append_cancel_left same)

/-- **Items that fill a text can be told apart**, if something is written for each of them. -/
theorem eq_of_mem_prod (delimited : SelfDelimiting forms) (nonempty : ∀ item, [] ∉ forms item)
    {items others : List α} {text : List Char} (written : text ∈ (items.map forms).prod)
    (otherWritten : text ∈ (others.map forms).prod) : items = others := by
  have nothing {item : α} {others : List α} : [] ∉ ((item :: others).map forms).prod := by
    rintro ⟨first, firstWritten, rest, _, same⟩
    obtain ⟨rfl, _⟩ := List.append_eq_nil_iff.mp same
    exact nonempty item firstWritten
  induction items generalizing others text with
  | nil =>
    cases written
    cases others with
    | nil => rfl
    | cons other others => exact absurd otherWritten nothing
  | cons item items ih =>
    cases others with
    | nil =>
      cases otherWritten
      exact absurd written nothing
    | cons other others =>
      obtain ⟨first, firstWritten, rest, restWritten, rfl⟩ := written
      obtain ⟨otherFirst, otherFirstWritten, otherRest, otherRestWritten, same⟩ := otherWritten
      obtain ⟨rfl, rfl⟩ := delimited firstWritten otherFirstWritten same.symm
      rw [ih restWritten otherRestWritten]

end SelfDelimiting

/-- What is written for the items, one after another. -/
theorem flatMap_mem_prod {write : α → List Char} (written : ∀ item, write item ∈ forms item)
    (items : List α) : items.flatMap write ∈ (items.map forms).prod := by
  induction items with
  | nil => exact Language.nil_mem_one
  | cons item items ih => exact Language.append_mem_mul (written item) ih

/-! ### Numbers -/

/-- The decimal digits of a number, with any number of zeros before them. -/
def decimalForms (n : Nat) : Language Char :=
  {digits | digits ≠ [] ∧ (∀ c ∈ digits, c.isDigit = true) ∧ Nat.ofDigitChars 10 digits 0 = n}

/-- The text begins with a character that is not a digit. -/
def StopsDigits (text : List Char) : Prop :=
  ∃ first rest, text = first :: rest ∧ first.isDigit = false

theorem StopsDigits.append {text : List Char} (stops : StopsDigits text) (rest : List Char) :
    StopsDigits (text ++ rest) := by
  obtain ⟨first, tail, rfl, notDigit⟩ := stops
  exact ⟨first, tail ++ rest, rfl, notDigit⟩

/-- **A number is read as far as there are digits**, if something else follows. -/
theorem eq_of_decimalForms {first second : Nat} {text other rest otherRest : List Char}
    (written : text ∈ decimalForms first) (otherWritten : other ∈ decimalForms second)
    (stops : StopsDigits rest) (otherStops : StopsDigits otherRest)
    (same : text ++ rest = other ++ otherRest) : first = second ∧ rest = otherRest := by
  have stretch {digits rest : List Char} (areDigits : ∀ c ∈ digits, c.isDigit = true)
      (stops : StopsDigits rest) : (digits ++ rest).takeWhile Char.isDigit = digits := by
    obtain ⟨next, tail, rfl, notDigit⟩ := stops
    rw [List.takeWhile_append_of_pos areDigits, List.takeWhile_cons_of_neg (by simp [notDigit]),
      List.append_nil]
  obtain ⟨_, areDigits, rfl⟩ := written
  obtain ⟨_, areOtherDigits, rfl⟩ := otherWritten
  have equal : text = other := by
    rw [← stretch areDigits stops, same, stretch areOtherDigits otherStops]
  cases equal
  exact ⟨rfl, List.append_cancel_left same⟩

theorem toString_mem_decimalForms (n : Nat) : (toString n).toList ∈ decimalForms n := by
  have digits : (toString n).toList = Nat.toDigits 10 n := Nat.toList_repr
  rw [digits]
  refine ⟨Nat.toDigits_ne_nil, fun c inside => ?_, Nat.ofDigitChars_ten_toDigits⟩
  exact Nat.isDigit_of_mem_toDigits (by decide) (by decide) inside

end PatternNfa.Text
