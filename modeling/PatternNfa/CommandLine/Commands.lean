/-
**Commands.**

What a command writes, and the code it exits with. `run` writes the verdict on every candidate, after
the dump if it is asked for. `test` compares the verdicts with those in a second file, and reports on
every candidate. Nothing is written until all input has been found to be in order.

The count of the tests that fail is an integer of 32 bits. Programs are built in two ways: in one the
program stops when a number exceeds its type, in the other the number wraps around.
-/

import PatternNfa.Automaton.Acceptance
import PatternNfa.Automaton.Dump
import PatternNfa.Batch.Basic
import PatternNfa.Batch.Verdicts
import PatternNfa.CommandLine.Sources
import PatternNfa.Pattern.Required
import PatternNfa.Text.Quoted

namespace PatternNfa.CommandLine

/-- What the program is asked to do. -/
inductive Command where
  /-- Runs a batch, from the named source or else from the standard input. -/
  | run (source : Option String) (dump : Bool)
  /-- Runs a test. -/
  | test (name : String)
  deriving DecidableEq

/-- What a build of the program does when a number exceeds its type. -/
inductive Overflow where
  /-- It stops, and writes a notice of its own. -/
  | stops (notice : String)
  /-- It goes on with the least number. -/
  | wraps
  deriving DecidableEq

/-- Why a command fails. -/
inductive Failure where
  | source (fault : SourceFault)
  | batch (fault : Batch.Fault)
  | verdicts (fault : Verdicts.Fault)
  /-- There are more or fewer verdicts than candidates. -/
  | mismatchedCounts
  | pattern (written : String) (fault : PatternFault)
  /-- So many tests failed of so many. -/
  | failedTests (failed : Int32) (total : Nat)
  deriving DecidableEq

/-- What the command line says about a pattern without an automaton. -/
def patternMessage (pattern : String) : PatternFault → String
  | .empty => "The pattern is empty."
  | .invalid error => "Invalid pattern \"" ++ pattern ++ "\", " ++ error.message

/-- A failure in words. -/
def Failure.message : Failure → String
  | .source fault => fault.message
  | .batch fault => fault.message
  | .verdicts fault => fault.message
  | .mismatchedCounts => "Mismatched number of sub-tests."
  | .pattern written fault => patternMessage written fault
  | .failedTests failed total =>
    toString failed ++ " of " ++ toString total ++ " sub-tests failed."

/-- What a command leaves behind. -/
structure Outcome where
  code : UInt32
  output : String
  errors : String
  deriving DecidableEq

namespace Outcome

/-- The command succeeds and writes a text. -/
def success (output : String) : Outcome := ⟨0, output, ""⟩

/-- The command fails after it has written a text. -/
def failed (output : String) (failure : Failure) : Outcome :=
  ⟨1, output, "Error: " ++ Text.quoted failure.message ++ "\n"⟩

end Outcome

/-- The automaton of the pattern of a batch. -/
def machineOf (batch : Batch) : Except Failure Automaton :=
  (compileRequired batch.pattern).mapError (.pattern batch.pattern)

/-! ### Running a batch -/

/-- The text of a batch: the standard input stands in for a source that is not named or is a
dash. -/
def batchText (sources : Sources) : Option String → Except SourceFault String
  | none => sources.inputText
  | some name => if name = "-" then sources.inputText else sources.fileText name

/-- The lines that `run` writes for the candidates. -/
def verdictLines (machine : Automaton) (candidates : List String) : String :=
  String.join (candidates.map fun candidate => Verdicts.word (machine.accepts candidate) ++ "\n")

/-- What `run` writes for the text of a batch. -/
def runText (text : String) (dump : Bool) : Except Failure String := do
  let batch ← (Batch.parse text).mapError .batch
  let machine ← machineOf batch
  return (if dump then machine.dump else "") ++ verdictLines machine batch.candidates

/-- Runs a batch. -/
def run (sources : Sources) (source : Option String) (dump : Bool) : Outcome :=
  match (batchText sources source).mapError .source >>= (runText · dump) with
  | .ok output => .success output
  | .error failure => .failed "" failure

/-! ### Running a test -/

/-- A candidate with the verdict it should get and the one it gets. -/
structure Trial where
  candidate : String
  expected : Bool
  obtained : Bool
  deriving DecidableEq

/-- Does the candidate get the verdict it should get? -/
def Trial.passes (trial : Trial) : Bool :=
  trial.obtained == trial.expected

/-- The report on a trial, by its number. -/
def Trial.report (number : Nat) (trial : Trial) : String :=
  if trial.passes then
    "    #" ++ toString number ++ " passed.\n"
  else
    "    #" ++ toString number ++ " failed.\n" ++
    "    on \"" ++ trial.candidate ++ "\", expected " ++ Verdicts.word trial.expected ++
    ", got " ++ Verdicts.word trial.obtained ++ "\n"

/-- The trials of a batch against the text of the verdicts. -/
def trialsOfTexts (input output : String) : Except Failure (List Trial) := do
  let batch ← (Batch.parse input).mapError .batch
  let expected ← (Verdicts.parse output).mapError .verdicts
  if batch.candidates.length ≠ expected.length then
    throw .mismatchedCounts
  let machine ← machineOf batch
  return batch.candidates.zipWith
    (fun candidate expected => ⟨candidate, expected, machine.accepts candidate⟩) expected

/-- The trials of a test: the batch is in the file `name.in`, the verdicts are in `name.out`. -/
def trials (sources : Sources) (name : String) : Except Failure (List Trial) := do
  let input ← (sources.fileText (name ++ ".in")).mapError .source
  let output ← (sources.fileText (name ++ ".out")).mapError .source
  trialsOfTexts input output

/-- What has come of some trials: what was written, and how many failed. -/
structure Tally where
  output : String
  failed : Int32
  deriving DecidableEq

namespace Tally

/-- Counts one more failure. A program that stops has written what it has so far. -/
def countFailure (overflow : Overflow) (tally : Tally) : Except Outcome Tally :=
  match overflow with
  | .wraps => .ok { tally with failed := tally.failed + 1 }
  | .stops notice =>
    if tally.failed = Int32.maxValue then .error ⟨101, tally.output, notice⟩
    else .ok { tally with failed := tally.failed + 1 }

/-- Reports on a trial, by its number. A failure is counted before it is reported. -/
def add (overflow : Overflow) (tally : Tally) (number : Nat) (trial : Trial) :
    Except Outcome Tally := do
  let counted ← if trial.passes then pure tally else tally.countFailure overflow
  return { counted with output := counted.output ++ trial.report number }

/-- Reports on trials, unless the program stops. -/
def ofTrials (overflow : Overflow) (trials : List Trial) : Except Outcome Tally :=
  trials.zipIdx.foldlM (fun tally (trial, index) => tally.add overflow (index + 1) trial) ⟨"", 0⟩

/-- What comes of so many trials: it is a failure if the count of those that failed is not zero. -/
def outcome (total : Nat) (tally : Tally) : Outcome :=
  if tally.failed = 0 then .success tally.output
  else .failed tally.output (.failedTests tally.failed total)

end Tally

/-- Reports on trials. -/
def Outcome.ofTrials (overflow : Overflow) (trials : List Trial) : Outcome :=
  match Tally.ofTrials overflow trials with
  | .ok tally => tally.outcome trials.length
  | .error stopped => stopped

/-- Runs a test. -/
def test (overflow : Overflow) (sources : Sources) (name : String) : Outcome :=
  match trials sources name with
  | .ok trials => .ofTrials overflow trials
  | .error failure => .failed "" failure

/-! ### Commands -/

/-- The files that a command reads. -/
def Command.files : Command → List String
  | .run none _ => []
  | .run (some name) _ => if name = "-" then [] else [name]
  | .test name => [name ++ ".in", name ++ ".out"]

/-- Carries out a command. -/
def Command.execute (overflow : Overflow) (sources : Sources) : Command → Outcome
  | .run source dump => CommandLine.run sources source dump
  | .test name => CommandLine.test overflow sources name

end PatternNfa.CommandLine
