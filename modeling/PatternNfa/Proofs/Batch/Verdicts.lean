/-
**Verdicts are read back as they are written.**

Verdicts are written one to a line, each with a newline after it. Read again, every line but the last
holds a verdict, and the last one is blank.

* `parse_render`: the verdicts that are written are the verdicts that are read.
-/

import PatternNfa.Batch.Verdicts
import PatternNfa.Proofs.Text.Fields

namespace PatternNfa.Verdicts

/-- The text of verdicts, one to a line. -/
def render (verdicts : List Bool) : String :=
  String.join (verdicts.map fun accepted => word accepted ++ "\n")

theorem trim_word (accepted : Bool) :
    Text.trim (word accepted).toList = (word accepted).toList := by
  cases accepted <;> decide

theorem newline_not_mem_word (accepted : Bool) : '\n' ∉ (word accepted).toList := by
  cases accepted <;> decide

/-- A line with a verdict adds it to those of the other lines. -/
theorem ofLines_word_cons (number : Nat) (accepted : Bool) (lines : List (List Char)) :
    ofLines number ((word accepted).toList :: lines) =
      (ofLines (number + 1) lines).map (accepted :: ·) := by
  have nonempty : (word accepted).isEmpty = false := by cases accepted <;> decide
  simp only [ofLines, trim_word, String.ofList_toList, nonempty, ofWord?_eq_some_iff.mpr rfl]
  rfl

theorem lines_render_cons (accepted : Bool) (verdicts : List Bool) :
    Text.lines (render (accepted :: verdicts)).toList =
      (word accepted).toList :: Text.lines (render verdicts).toList := by
  have text : (render (accepted :: verdicts)).toList =
      (word accepted).toList ++ '\n' :: (render verdicts).toList := by
    simp [render, String.toList_join]
  rw [text, Text.lines, Text.fields_append_cons, Text.fields_of_not_mem (newline_not_mem_word _)]
  rfl

theorem ofLines_render (number : Nat) (verdicts : List Bool) :
    ofLines number (Text.lines (render verdicts).toList) = .ok verdicts := by
  induction verdicts generalizing number with
  | nil => rfl
  | cons accepted verdicts ih =>
    rw [lines_render_cons, ofLines_word_cons, ih]
    rfl

/-- **The verdicts that are written are read back.** -/
theorem parse_render (verdicts : List Bool) : parse (render verdicts) = .ok verdicts :=
  ofLines_render 1 verdicts

end PatternNfa.Verdicts
