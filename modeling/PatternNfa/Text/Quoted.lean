/-
**Quoted text.**

A text in double quotes on one line, in which every character can be told: quotes, backslashes and
the common controls are escaped by a backslash and a letter, and every other character that does
not show by itself is written as its code point in hexadecimal.

* `showsByItself_iff`: the characters that show by themselves, by the tables.
-/

import PatternNfa.Unicode.DefaultIgnorable
import PatternNfa.Unicode.GraphemeExtend
import PatternNfa.Unicode.Printable

namespace PatternNfa.Text

open PatternNfa.Unicode

/-- The code point of `c` in lower-case hexadecimal, written `\u{hex}`. -/
def codePointEscape (c : Char) : List Char :=
  '\\' :: 'u' :: '{' :: Nat.toDigits 16 c.toNat ++ ['}']

/-- Does `c` show by itself? A character does not if it is unprintable, or joined to the one before
it, or printed as nothing. -/
def showsByItself (c : Char) : Bool :=
  isPrintable c && !joinsPrevious c && !isDefaultIgnorable c

/-- **A character shows by itself** if none of the tables speaks against it. -/
theorem showsByItself_iff {c : Char} :
    showsByItself c = true ↔
      ¬unprintableRanges.Lists c.toNat ∧
        (graphemeExtendRanges.Lists c.toNat → isHalfwidthSoundMark c = true) ∧
        ¬defaultIgnorableRanges.Lists c.toNat := by
  simp only [← CodeRanges.contains_iff, showsByItself, isPrintable, joinsPrevious, isGraphemeExtend,
    isDefaultIgnorable]
  cases unprintableRanges.contains c.toNat <;> cases graphemeExtendRanges.contains c.toNat <;>
    cases isHalfwidthSoundMark c <;> cases defaultIgnorableRanges.contains c.toNat <;> decide

/-- How `c` is written between quotes. -/
def escape (c : Char) : List Char :=
  match c with
  | '\x00' => ['\\', '0']
  | '\t' => ['\\', 't']
  | '\n' => ['\\', 'n']
  | '\r' => ['\\', 'r']
  | '"' => ['\\', '"']
  | '\\' => ['\\', '\\']
  | c => if showsByItself c then [c] else codePointEscape c

/-- The text in double quotes, with its characters escaped. -/
def quoted (text : String) : String :=
  String.ofList ('"' :: text.toList.flatMap escape ++ ['"'])

end PatternNfa.Text
