/-
**How counts are written.**

A count is written as digits, maybe with a plus sign before them, whose value fits in 64 bits. A text
that is no count either has digits at its beginning that are too large already, or another character
before it comes to that; the first of the two decides what is wrong with it.

* `parse_eq_ok_iff_denotes`: which texts are counts, and of what;
* `parse_eq_error_iff`: what is wrong with the others.
-/

import Mathlib.Algebra.Ring.Nat
import PatternNfa.Text.Count

namespace PatternNfa.Count

variable {text digits : List Char} {value n : Nat} {fault : Fault}

/-- **A text that denotes a count**: one digit or more, with a plus sign before them or without one. -/
def Denotes (text : List Char) (n : Nat) : Prop :=
  ∃ digits, (text = digits ∨ text = '+' :: digits) ∧ digits ≠ [] ∧
    (∀ c ∈ digits, c.isDigit = true) ∧ Nat.ofDigitChars 10 digits 0 = n ∧ n < 2 ^ 64

/-- **A text that begins with too large a number**, whatever comes after it. -/
def Exceeds (text : List Char) : Prop :=
  ∃ digits rest, (text = digits ++ rest ∨ text = '+' :: (digits ++ rest)) ∧
    (∀ c ∈ digits, c.isDigit = true) ∧ 2 ^ 64 ≤ Nat.ofDigitChars 10 digits 0

theorem le_limit_iff : n ≤ limit ↔ n < 2 ^ 64 := by
  have size : UInt64.size = 2 ^ 64 := rfl
  unfold limit
  omega

/-- Digits are too large as soon as those read so far are. -/
theorem ofDigits_eq_tooLarge_iff (fits : value ≤ limit) :
    ofDigits value text = .error .tooLarge ↔
      ∃ digits rest, text = digits ++ rest ∧ (∀ c ∈ digits, c.isDigit = true) ∧
        limit < Nat.ofDigitChars 10 digits value := by
  induction text generalizing value with
  | nil =>
    refine ⟨fun spoiled => (by cases spoiled), ?_⟩
    rintro ⟨digits, rest, same, _, large⟩
    obtain ⟨rfl, _⟩ := List.append_eq_nil_iff.mp same.symm
    exact absurd large (Nat.not_lt_of_le fits)
  | cons digit text ih =>
    -- The number read before the first digit fits, so the digits that are too large begin with it.
    have first : (∃ digits rest, digit :: text = digits ++ rest ∧ (∀ c ∈ digits, c.isDigit = true) ∧
          limit < Nat.ofDigitChars 10 digits value) ↔
        digit.isDigit = true ∧ ∃ digits rest, text = digits ++ rest ∧
          (∀ c ∈ digits, c.isDigit = true) ∧
            limit < Nat.ofDigitChars 10 digits (10 * value + (digit.toNat - '0'.toNat)) := by
      constructor
      · rintro ⟨digits, rest, same, each, large⟩
        cases digits with
        | nil => exact absurd large (Nat.not_lt_of_le fits)
        | cons first digits =>
          obtain ⟨rfl, tail⟩ := List.cons.inj same
          obtain ⟨isDigit, others⟩ := List.forall_mem_cons.mp each
          exact ⟨isDigit, digits, rest, tail, others, Nat.ofDigitChars_cons ▸ large⟩
      · rintro ⟨isDigit, digits, rest, rfl, each, large⟩
        exact ⟨digit :: digits, rest, rfl, List.forall_mem_cons.mpr ⟨isDigit, each⟩,
          Nat.ofDigitChars_cons ▸ large⟩
    rw [first, ofDigits]
    by_cases isDigit : digit.isDigit = true
    · by_cases within : 10 * value + (digit.toNat - '0'.toNat) ≤ limit
      · simp only [isDigit, within, if_true, true_and, ih within]
      · simp only [isDigit, within, if_true, if_false, true_and, true_iff]
        exact ⟨[], text, rfl, List.forall_mem_nil _, Nat.lt_of_not_le within⟩
    · simp [isDigit]

/-! ### The sign -/

/-- The text without a plus sign before it. -/
def unsigned : List Char → List Char
  | '+' :: digits => digits
  | digits => digits

theorem parse_eq (text : List Char) :
    parse text =
      if (unsigned text).isEmpty then .error .invalidDigit else ofDigits 0 (unsigned text) := rfl

theorem eq_unsigned (text : List Char) : text = unsigned text ∨ text = '+' :: unsigned text := by
  unfold unsigned
  split
  · exact Or.inr rfl
  · exact Or.inl rfl

/-- There is one sign at most, and it is no digit. -/
theorem unsigned_eq (written : text = digits ∨ text = '+' :: digits) (nonempty : digits ≠ [])
    (each : ∀ c ∈ digits.head?, c.isDigit = true) : unsigned text = digits := by
  rcases written with rfl | rfl
  · unfold unsigned
    split
    · exact absurd (each '+' rfl) (by decide)
    · rfl
  · rfl

/-! ### Counts -/

/-- **A text is read as a count if it denotes one.** -/
theorem parse_eq_ok_iff_denotes : parse text = .ok n ↔ Denotes text n := by
  have numeral : parse text = .ok n ↔ unsigned text ≠ [] ∧
      (∀ c ∈ unsigned text, c.isDigit = true) ∧ Nat.ofDigitChars 10 (unsigned text) 0 = n ∧
        n < 2 ^ 64 := by
    rw [parse_eq, ← le_limit_iff, ← ofDigits_eq_ok_iff (Nat.zero_le _)]
    cases unsigned text <;> simp
  rw [numeral]
  constructor
  · intro isNumeral
    exact ⟨unsigned text, eq_unsigned text, isNumeral⟩
  · rintro ⟨digits, written, nonempty, each, value⟩
    rw [unsigned_eq written nonempty fun c first => each c (List.mem_of_mem_head? first)]
    exact ⟨nonempty, each, value⟩

/-- **A text is too large if it begins with too large a number.** -/
theorem parse_eq_tooLarge_iff_exceeds : parse text = .error .tooLarge ↔ Exceeds text := by
  have numeral : parse text = .error .tooLarge ↔ ∃ digits rest, unsigned text = digits ++ rest ∧
      (∀ c ∈ digits, c.isDigit = true) ∧ limit < Nat.ofDigitChars 10 digits 0 := by
    rw [parse_eq, ← ofDigits_eq_tooLarge_iff (Nat.zero_le _)]
    cases unsigned text <;> simp [ofDigits]
  have large {digits : List Char} :
      limit < Nat.ofDigitChars 10 digits 0 ↔ 2 ^ 64 ≤ Nat.ofDigitChars 10 digits 0 := by
    rw [← Nat.not_le, le_limit_iff, Nat.not_lt]
  rw [numeral]
  constructor
  · rintro ⟨digits, rest, same, each, exceeds⟩
    refine ⟨digits, rest, ?_, each, large.mp exceeds⟩
    rw [← same]
    exact eq_unsigned text
  · rintro ⟨digits, rest, written, each, exceeds⟩
    cases digits with
    | nil => exact absurd exceeds (by decide)
    | cons digit digits =>
      refine ⟨digit :: digits, rest, unsigned_eq written (List.cons_ne_nil _ _) ?_, each,
        large.mpr exceeds⟩
      intro c first
      cases first
      exact each digit List.mem_cons_self

/-- **What is wrong with a text that denotes no count**: it is too large, or has a character that is no
digit. -/
theorem parse_eq_error_iff :
    parse text = .error fault ↔ (∀ n, ¬Denotes text n) ∧ (fault = .tooLarge ↔ Exceeds text) := by
  rw [← parse_eq_tooLarge_iff_exceeds]
  simp only [← parse_eq_ok_iff_denotes]
  cases parse text with
  | ok n => simp
  | error found => cases found <;> cases fault <;> simp

end PatternNfa.Count
