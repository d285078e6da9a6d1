/-
**Counts.**

A count is written as ASCII digits, with a plus sign allowed before them, and fits in 64 bits. It
is read from left to right and the first character that spoils it decides what is wrong with it.

* `ofDigits_eq_ok_iff`: digits are read exactly when they are digits and their value is within the
  limit;
* `parse_repr`: a number within the limit is read back from its decimal text.
-/

namespace PatternNfa

namespace Count

/-- The largest count. -/
def limit : Nat := UInt64.size - 1

/-- What is wrong with a text that is no count. -/
inductive Fault where
  /-- A character that is not a digit, or no digit at all. -/
  | invalidDigit
  /-- The digits read so far exceed the limit. -/
  | tooLarge
  deriving DecidableEq

/-- The wording of a fault. -/
def Fault.message : Fault → String
  | .invalidDigit => "invalid digit found in string"
  | .tooLarge => "number too large to fit in target type"

/-- Appends digits to the number read so far. -/
def ofDigits (value : Nat) : List Char → Except Fault Nat
  | [] => .ok value
  | digit :: rest =>
    if digit.isDigit then
      let extended := 10 * value + (digit.toNat - '0'.toNat)
      if extended ≤ limit then ofDigits extended rest else .error .tooLarge
    else
      .error .invalidDigit

/-- Digits only add to the number read before them. -/
theorem le_ofDigitChars (text : List Char) (value : Nat) :
    value ≤ Nat.ofDigitChars 10 text value := by
  induction text generalizing value with
  | nil => exact Nat.le_refl _
  | cons digit rest ih =>
    rw [Nat.ofDigitChars_cons]
    exact Nat.le_trans (by omega) (ih _)

/-- **Digits are read exactly when they are digits and their value is within the limit.** -/
theorem ofDigits_eq_ok_iff {value : Nat} (fits : value ≤ limit) {text : List Char} {n : Nat} :
    ofDigits value text = .ok n ↔
      (∀ c ∈ text, c.isDigit = true) ∧ Nat.ofDigitChars 10 text value = n ∧ n ≤ limit := by
  induction text generalizing value with
  | nil =>
    simp only [ofDigits, Except.ok.injEq, Nat.ofDigitChars_nil, List.not_mem_nil, false_implies,
      implies_true, true_and]
    exact ⟨fun same => ⟨same, same ▸ fits⟩, fun both => both.1⟩
  | cons digit rest ih =>
    rw [ofDigits, Nat.ofDigitChars_cons]
    by_cases isDigit : digit.isDigit = true
    · by_cases within : 10 * value + (digit.toNat - '0'.toNat) ≤ limit
      · simp only [isDigit, within, if_true, ih within, List.mem_cons, forall_eq_or_imp, true_and]
      · have larger := le_ofDigitChars rest (10 * value + (digit.toNat - '0'.toNat))
        simp only [isDigit, within, if_true, if_false, reduceCtorEq, false_iff]
        rintro ⟨_, same, below⟩
        omega
    · simp [isDigit]

/-- Reads a count. -/
def parse (text : List Char) : Except Fault Nat :=
  let digits := match text with
    | '+' :: digits => digits
    | digits => digits
  if digits.isEmpty then .error .invalidDigit else ofDigits 0 digits

/-- **A number within the limit is read back from its decimal text.** -/
theorem parse_repr {n : Nat} (fits : n ≤ limit) : parse n.repr.toList = .ok n := by
  rw [Nat.toList_repr]
  have digits : ∀ c ∈ Nat.toDigits 10 n, c.isDigit = true := fun c inside =>
    Nat.isDigit_of_mem_toDigits (by omega) (by omega) inside
  have read : ofDigits 0 (Nat.toDigits 10 n) = .ok n := by
    rw [ofDigits_eq_ok_iff (Nat.zero_le _)]
    exact ⟨digits, Nat.ofDigitChars_ten_toDigits, fits⟩
  unfold parse
  split
  · rename_i rest signed
    have sign := digits '+' (by rw [signed]; exact List.mem_cons_self)
    cases sign
  · simp [read]

end Count

end PatternNfa
