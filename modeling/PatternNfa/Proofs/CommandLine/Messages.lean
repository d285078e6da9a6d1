/-
**What is said about failures.**

The words for every way in which a command fails, in one place: for the sources that cannot be read, for
the patterns without an automaton, and for what a test finds. Nothing else is said about a failure.

* `SourceFault.Worded`, `CompileError.Worded`, `Failure.Worded`: the words for each failure;
* `Failure.worded_iff`: every failure is told by its words.
-/

import PatternNfa.CommandLine.Commands
import PatternNfa.Proofs.Batch.Basic

namespace PatternNfa

variable {text : String}

/-- **The words for what is wrong with a pattern.** -/
inductive CompileError.Worded : CompileError → String → Prop
  | unexpectedChar {position : Nat} {c : Char} : Worded ⟨position, .unexpectedChar c⟩
      ("at char " ++ toString position ++ ": " ++
        ("Unexpected character '" ++ String.singleton c ++ "'."))
  | unclosedGroup {position : Nat} : Worded ⟨position, .unclosedGroup⟩
      ("at char " ++ toString position ++ ": " ++ "This group is never closed.")
  | nestedGroup {position : Nat} : Worded ⟨position, .nestedGroup⟩
      ("at char " ++ toString position ++ ": " ++ "Groups can't be nested.")
  | missingStar {position : Nat} : Worded ⟨position, .missingStar⟩
      ("at char " ++ toString position ++ ": " ++ "Expected a '*' after this group.")
  | emptyGroup {position : Nat} : Worded ⟨position, .emptyGroup⟩
      ("at char " ++ toString position ++ ": " ++ "Groups can't be empty.")

theorem CompileError.worded_iff {error : CompileError} :
    error.Worded text ↔ error.message = text := by
  constructor
  · intro worded
    cases worded <;> rfl
  · rintro rfl
    rcases error with ⟨position, _ | _ | _ | _ | _⟩
    · exact .unexpectedChar
    · exact .unclosedGroup
    · exact .nestedGroup
    · exact .missingStar
    · exact .emptyGroup

namespace CommandLine

/-- **The words for why there is no text.** A reason of the system is told with its number. -/
inductive SourceFault.Worded : SourceFault → String → Prop
  | opening {name description : String} {code : Nat} : Worded (.opening name ⟨description, code⟩)
      ("Couldn't open " ++ name ++ " : " ++ (description ++ " (os error " ++ toString code ++ ")"))
  | reading {description : String} {code : Nat} : Worded (.reading ⟨description, code⟩)
      (description ++ " (os error " ++ toString code ++ ")")
  | notText : Worded .notText "stream did not contain valid UTF-8"

theorem SourceFault.worded_iff {fault : SourceFault} :
    fault.Worded text ↔ fault.message = text := by
  constructor
  · intro worded
    cases worded <;> rfl
  · rintro rfl
    cases fault with
    | opening name error => exact .opening
    | reading error => exact .reading
    | notText => exact .notText

/-- **The words for why a command fails.** -/
inductive Failure.Worded : Failure → String → Prop
  | source {fault : SourceFault} {text : String} : fault.Worded text → Worded (.source fault) text
  | batch {fault : Batch.Fault} {text : String} : fault.Worded text → Worded (.batch fault) text
  | verdicts {line : Nat} {word : String} : Worded (.verdicts ⟨line, word⟩)
      ("Line " ++ toString line ++ " : expected \"YES\" or \"NO\", got \"" ++ word ++ "\".")
  | mismatchedCounts : Worded .mismatchedCounts "Mismatched number of sub-tests."
  | emptyPattern {pattern : String} : Worded (.pattern pattern .empty) "The pattern is empty."
  | invalidPattern {pattern : String} {error : CompileError} {text : String} : error.Worded text →
      Worded (.pattern pattern (.invalid error))
        ("Invalid pattern \"" ++ pattern ++ "\", " ++ text)
  | failedTests {failed : Int32} {total : Nat} : Worded (.failedTests failed total)
      (toString failed.toInt ++ " of " ++ toString total ++ " sub-tests failed.")

/-- **Every failure is told by its words.** -/
theorem Failure.worded_iff {failure : Failure} : failure.Worded text ↔ failure.message = text := by
  constructor
  · intro worded
    cases worded with
    | source worded => exact SourceFault.worded_iff.mp worded
    | batch worded => exact Batch.Fault.worded_iff.mp worded
    | invalidPattern worded =>
      obtain rfl := CompileError.worded_iff.mp worded
      rfl
    | verdicts => rfl
    | mismatchedCounts => rfl
    | emptyPattern => rfl
    | failedTests => rfl
  · rintro rfl
    cases failure with
    | source fault => exact .source (SourceFault.worded_iff.mpr rfl)
    | batch fault => exact .batch (Batch.Fault.worded_iff.mpr rfl)
    | verdicts fault => exact .verdicts
    | mismatchedCounts => exact .mismatchedCounts
    | pattern written fault =>
      cases fault with
      | empty => exact .emptyPattern
      | invalid error => exact .invalidPattern (CompileError.worded_iff.mpr rfl)
    | failedTests failed total => exact .failedTests

/-- A command that fails writes its words in quotes. -/
theorem Outcome.failed_of_worded {failure : Failure} (worded : failure.Worded text)
    (output : String) :
    Outcome.failed output failure = ⟨1, output, "Error: " ++ Text.quoted text ++ "\n"⟩ := by
  rw [Outcome.failed, Failure.worded_iff.mp worded]

end CommandLine

end PatternNfa
