/-
**Character classes.**

Patterns and automata do not tell single characters apart. They read two classes: letters, which a
pattern writes `a`, and digits, which it writes `d`. A character of an input belongs to at most one
class: an alphabetic character is a letter even when it is numeric as well, as the Roman numerals
are, any other numeric character is a digit, and all the rest have no class.

* `ofChar?_eq_letter_iff`, `ofChar?_eq_digit_iff`: the characters of each class;
* `ofPatternChar?_eq_some_iff`: a pattern character stands for the class that is written so;
* `word?_eq_some_iff`: a text has a word of classes exactly when each character has its class.
-/

import PatternNfa.Unicode.Alphabetic
import PatternNfa.Unicode.Numeric

namespace PatternNfa

open PatternNfa.Unicode

/-- A class of characters. -/
inductive CharClass where
  | letter
  | digit
  deriving DecidableEq

namespace CharClass

/-- The class of an input character. -/
def ofChar? (c : Char) : Option CharClass :=
  if isAlphabetic c then
    some .letter
  else if isNumeric c then
    some .digit
  else
    none

/-- **A letter** is a character that the table of the alphabetic ones lists. -/
theorem ofChar?_eq_letter_iff {c : Char} :
    ofChar? c = some .letter ↔ alphabeticRanges.Lists c.toNat := by
  rw [← isAlphabetic_iff]
  unfold ofChar?
  cases isAlphabetic c <;> cases isNumeric c <;> decide

/-- **A digit** is a character that the table of the numeric ones lists, and not the other table. -/
theorem ofChar?_eq_digit_iff {c : Char} :
    ofChar? c = some .digit ↔
      ¬alphabeticRanges.Lists c.toNat ∧ numericRanges.Lists c.toNat := by
  rw [← isAlphabetic_iff, ← isNumeric_iff]
  unfold ofChar?
  cases isAlphabetic c <;> cases isNumeric c <;> decide

/-- The classes of the characters of a text, provided that every one of them has a class. -/
def word? (text : List Char) : Option (List CharClass) :=
  text.mapM ofChar?

theorem word?_nil : word? [] = some [] := rfl

theorem word?_cons (c : Char) (text : List Char) :
    word? (c :: text) = (ofChar? c).bind fun cls => (word? text).map (cls :: ·) := by
  unfold word?
  rw [List.mapM_cons]
  cases ofChar? c with
  | none => rfl
  | some cls => cases text.mapM ofChar? <;> rfl

/-- A text has a word of classes exactly when each character has its class. -/
theorem word?_eq_some_iff {text : List Char} {word : List CharClass} :
    word? text = some word ↔ text.map ofChar? = word.map some := by
  induction text generalizing word with
  | nil => cases word <;> simp [word?_nil]
  | cons c text ih =>
    rw [word?_cons]
    cases word with
    | nil => cases ofChar? c <;> simp
    | cons cls word =>
      rw [List.map_cons, List.map_cons]
      cases ofChar? c with
      | none => simp
      | some found => simpa [ih] using and_comm

/-- How a pattern writes the class. -/
def patternChar : CharClass → Char
  | .letter => 'a'
  | .digit => 'd'

/-- The class that a character of a pattern stands for. -/
def ofPatternChar? (c : Char) : Option CharClass :=
  if c = 'a' then some .letter else if c = 'd' then some .digit else none

/-- A pattern character stands for the class that is written so. -/
theorem ofPatternChar?_eq_some_iff {c : Char} {cls : CharClass} :
    ofPatternChar? c = some cls ↔ c = cls.patternChar := by
  unfold ofPatternChar?
  cases cls <;> simp only [patternChar] <;> split <;> simp_all

end CharClass

end PatternNfa
