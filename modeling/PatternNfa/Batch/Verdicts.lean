/-
**Verdicts.**

A verdict tells whether a candidate is accepted, and is written `YES` or `NO`. A text of verdicts
has one on each line. White space around a verdict does not matter, and a blank line holds none but
is counted.
-/

import PatternNfa.Text.Split

namespace PatternNfa.Verdicts

/-- How a verdict is written. -/
def word (accepted : Bool) : String :=
  if accepted then "YES" else "NO"

/-- The verdict that is written so. -/
def ofWord? (text : String) : Option Bool :=
  if text = "YES" then some true else if text = "NO" then some false else none

/-- The verdict that is written so is read back. -/
theorem ofWord?_eq_some_iff {text : String} {accepted : Bool} :
    ofWord? text = some accepted ↔ text = word accepted := by
  unfold ofWord? word
  by_cases yes : text = "YES"
  · cases accepted <;> simp [yes]
  · by_cases no : text = "NO" <;> cases accepted <;> simp [yes, no]

/-- A line that is not blank and holds no verdict. Lines are counted from one. -/
structure Fault where
  line : Nat
  text : String
  deriving DecidableEq

/-- A fault in words. -/
def Fault.message (fault : Fault) : String :=
  "Line " ++ toString fault.line ++ " : expected \"YES\" or \"NO\", got \"" ++ fault.text ++ "\"."

/-- Reads the verdicts on some lines, of which the first has the given number. -/
def ofLines (number : Nat) : List (List Char) → Except Fault (List Bool)
  | [] => .ok []
  | line :: lines =>
    let text := String.ofList (Text.trim line)
    if text.isEmpty then
      ofLines (number + 1) lines
    else
      match ofWord? text with
      | none => .error ⟨number, text⟩
      | some accepted => (ofLines (number + 1) lines).map (accepted :: ·)

/-- Reads the verdicts of a text. -/
def parse (text : String) : Except Fault (List Bool) :=
  ofLines 1 (Text.lines text.toList)

end PatternNfa.Verdicts
