/-
**Batches.**

A batch asks which of some candidates a pattern accepts. Its text is a sequence of words with white
space between them: the pattern, the number of candidates, and the candidates. Words after the last
candidate are ignored.
-/

import PatternNfa.Text.Count
import PatternNfa.Text.Split

namespace PatternNfa

/-- A pattern and the candidates for it. -/
structure Batch where
  pattern : String
  candidates : List String
  deriving DecidableEq

namespace Batch

/-- What is wrong with the text of a batch. -/
inductive Fault where
  | missingPattern
  | missingCount
  | badCount (word : String) (fault : Count.Fault)
  | missingCandidates (expected found : Nat)
  deriving DecidableEq

/-- A fault in words. -/
def Fault.message : Fault → String
  | .missingPattern => "Expected a pattern."
  | .missingCount => "Expected the number of candidates."
  | .badCount word fault => "Bad number of candidates \"" ++ word ++ "\" : " ++ fault.message
  | .missingCandidates expected found =>
    "Expected " ++ toString expected ++ " candidates, found " ++ toString found ++ "."

/-- Reads a batch from its words. -/
def ofWords : List String → Except Fault Batch
  | [] => .error .missingPattern
  | [_] => .error .missingCount
  | pattern :: word :: words =>
    match Count.parse word.toList with
    | .error fault => .error (.badCount word fault)
    | .ok count =>
      let candidates := words.take count
      if candidates.length = count then
        .ok ⟨pattern, candidates⟩
      else
        .error (.missingCandidates count candidates.length)

/-- Reads a batch. -/
def parse (text : String) : Except Fault Batch :=
  ofWords ((Text.words text.toList).map String.ofList)

end Batch

end PatternNfa
