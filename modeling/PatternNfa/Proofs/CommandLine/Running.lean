/-
**Runs write everything, or nothing.**

What a run writes depends only on the bytes that it is given and on whether the dump is asked for. It
makes no difference whether the bytes come from the standard input, which may be named by a dash, or
from a file. If they are the text of a batch whose pattern has an automaton, the dump and a line for
each candidate are written. In every other case a step fails, and nothing is written but the error.

* `Arrives`, `run_of_arrives`: the ways in which bytes reach a run, and that they do not matter;
* `RunFailure`, `encodesBatch_or_runFailure`: the step that fails, or the batch with its automaton;
* `quoted_ne_of_head?`, `errors_eq_empty_iff`: when the error is that the pattern is empty;
* `run_all_or_nothing`: everything that a run writes.
-/

import PatternNfa.Proofs.CommandLine.Agreement
import PatternNfa.Proofs.CommandLine.Inputs
import PatternNfa.Proofs.CommandLine.Messages
import PatternNfa.Proofs.Pattern.Forms

namespace PatternNfa.CommandLine

variable {sources : Sources} {bytes : ByteArray} {source : Option String} {dump : Bool}
  {text : String} {batch : Batch} {machine : Automaton} {failure : Failure}

/-! ### Where the bytes come from -/

/-- **The ways in which bytes reach a run**: by the standard input, without a source or with a dash for
one, or by a file of another name. -/
inductive Arrives (sources : Sources) (bytes : ByteArray) : Option String → Prop
  | omitted : sources.input = .ok bytes → Arrives sources bytes none
  | dash : sources.input = .ok bytes → Arrives sources bytes (some "-")
  | named {name : String} : name ≠ "-" → sources.file name = .ok bytes →
      Arrives sources bytes (some name)

theorem batchText_of_arrives (arrives : Arrives sources bytes source) :
    batchText sources source = decode bytes := by
  cases arrives with
  | omitted given => rw [batchText, Sources.inputText, given]
  | dash given => rw [batchText, if_pos rfl, Sources.inputText, given]
  | named notDash given => rw [batchText, if_neg notDash, Sources.fileText, given]

/-- What a run does with bytes. -/
def runBytes (bytes : ByteArray) (dump : Bool) : Except Failure String :=
  (decode bytes).mapError .source >>= (runText · dump)

/-- **Only the bytes matter**, and whether the dump is asked for. -/
theorem run_of_arrives (arrives : Arrives sources bytes source) :
    run sources source dump =
      match runBytes bytes dump with
      | .ok output => .success output
      | .error failure => .failed "" failure := by
  rw [run, batchText_of_arrives arrives]
  rfl

/-! ### What is written -/

/-- The bytes are the text of a batch. -/
def EncodesBatch (bytes : ByteArray) (batch : Batch) : Prop :=
  ∃ text : String, bytes = text.toUTF8 ∧ Batch.parse text = .ok batch

/-- **The step of a run that fails.** -/
inductive RunFailure (bytes : ByteArray) : Failure → Prop
  | notText : (∀ text : String, bytes ≠ text.toUTF8) → RunFailure bytes (.source .notText)
  | batch {text : String} {fault : Batch.Fault} : bytes = text.toUTF8 →
      Batch.parse text = .error fault → RunFailure bytes (.batch fault)
  | pattern {batch : Batch} {fault : PatternFault} : EncodesBatch bytes batch →
      NoMachine batch.pattern fault → RunFailure bytes (.pattern batch.pattern fault)

theorem runBytes_toUTF8 (text : String) (dump : Bool) :
    runBytes text.toUTF8 dump = runText text dump := by
  rw [runBytes, decode_eq_ok_iff.mpr rfl, mapError_ok, ok_bind]

/-- A run writes the dump, if it is asked for, and a line for each candidate. -/
theorem runBytes_of_compiled (encodes : EncodesBatch bytes batch)
    (compiled : compile batch.pattern = .ok (some machine)) :
    runBytes bytes dump =
      .ok ((if dump then machine.dump else "") ++ verdictLines machine batch.candidates) := by
  obtain ⟨text, rfl, read⟩ := encodes
  rw [runBytes_toUTF8]
  exact runText_eq_ok_iff.mpr ⟨batch, machine, read, machineOf_eq_ok_iff.mpr compiled, rfl⟩

theorem runBytes_of_runFailure (fails : RunFailure bytes failure) :
    runBytes bytes dump = .error failure := by
  cases fails with
  | notText foreign =>
    rw [runBytes, decode_eq_error_iff.mpr ⟨foreign, rfl⟩]
    rfl
  | batch encoded failed =>
    rw [encoded, runBytes_toUTF8, runText, failed]
    rfl
  | pattern encodes none =>
    obtain ⟨text, rfl, read⟩ := encodes
    rw [runBytes_toUTF8, runText, read, mapError_ok, ok_bind,
      machineOf_eq_error_iff.mpr ⟨_, none, rfl⟩]
    rfl

/-- **Either there is an automaton for the batch or some step fails.** -/
theorem encodesBatch_or_runFailure (bytes : ByteArray) :
    (∃ batch machine, EncodesBatch bytes batch ∧ compile batch.pattern = .ok (some machine)) ∨
      ∃ failure, RunFailure bytes failure := by
  cases read : decode bytes with
  | error fault => exact Or.inr ⟨_, .notText (decode_eq_error_iff.mp read).1⟩
  | ok text =>
    have encoded := decode_eq_ok_iff.mp read
    cases parsed : Batch.parse text with
    | error fault => exact Or.inr ⟨_, .batch encoded parsed⟩
    | ok batch =>
      have encodes : EncodesBatch bytes batch := ⟨text, encoded, parsed⟩
      cases built : machineOf batch with
      | ok machine => exact Or.inl ⟨batch, machine, encodes, machineOf_eq_ok_iff.mp built⟩
      | error failure =>
        obtain ⟨fault, none, rfl⟩ := machineOf_eq_error_iff.mp built
        exact Or.inr ⟨_, .pattern encodes none⟩

/-! ### Telling errors apart -/

theorem head?_append {first : String} {c : Char} (second : String)
    (begins : first.toList.head? = some c) : (first ++ second).toList.head? = some c := by
  rw [String.toList_append, List.head?_append, begins]
  rfl

/-- A text whose first letter shows by itself has it after the quotes. -/
theorem head?_flatMap_escape {letters : List Char} {c : Char} (begins : letters.head? = some c)
    (plain : Text.escape c = [c]) : (letters.flatMap Text.escape).head? = some c := by
  obtain ⟨rest, rfl⟩ := List.head?_eq_some_iff.mp begins
  rw [List.flatMap_cons, plain]
  rfl

/-- Texts with different first letters are quoted differently. -/
theorem quoted_ne_of_head? {first second : String} {c d : Char}
    (begins : first.toList.head? = some c) (otherBegins : second.toList.head? = some d)
    (plain : Text.escape c = [c]) (otherPlain : Text.escape d = [d]) (differ : c ≠ d) :
    Text.quoted first ≠ Text.quoted second := by
  intro same
  have letters : first.toList.flatMap Text.escape = second.toList.flatMap Text.escape := by
    simpa [Text.quoted] using congrArg String.toList same
  have heads := head?_flatMap_escape begins plain
  rw [letters, head?_flatMap_escape otherBegins otherPlain] at heads
  exact differ (Option.some.inj heads).symm

/-- What is said about a failure does not begin with a `T`, unless the pattern is empty. -/
theorem head?_message (fails : RunFailure bytes failure)
    (notEmpty : ∀ pattern, failure ≠ .pattern pattern .empty) :
    ∃ c, failure.message.toList.head? = some c ∧ Text.escape c = [c] ∧ c ≠ 'T' := by
  cases fails with
  | notText _ => exact ⟨'s', rfl, by decide +kernel, by decide⟩
  | @batch _ fault _ _ =>
    cases fault with
    | missingPattern => exact ⟨'E', rfl, by decide +kernel, by decide⟩
    | missingCount => exact ⟨'E', rfl, by decide +kernel, by decide⟩
    | badCount word fault =>
      exact ⟨'B', head?_append _ (head?_append _ (head?_append _ rfl)), by decide +kernel, by decide⟩
    | missingCandidates expected found =>
      exact ⟨'E', head?_append _ (head?_append _ (head?_append _ (head?_append _ rfl))),
        by decide +kernel, by decide⟩
  | @pattern batch fault _ _ =>
    cases fault with
    | empty => exact absurd rfl (notEmpty batch.pattern)
    | invalid error =>
      exact ⟨'I', head?_append _ (head?_append _ (head?_append _ rfl)), by decide +kernel, by decide⟩

/-- **The error is that the pattern is empty** if no other step fails. -/
theorem quoted_message_eq_empty_iff (fails : RunFailure bytes failure) :
    Text.quoted failure.message = Text.quoted "The pattern is empty." ↔
      ∃ pattern, failure = .pattern pattern .empty := by
  constructor
  · intro same
    by_contra notEmpty
    obtain ⟨c, begins, plain, differs⟩ :=
      head?_message fails fun pattern empty => notEmpty ⟨pattern, empty⟩
    have otherPlain : Text.escape 'T' = ['T'] := by decide +kernel
    exact quoted_ne_of_head? begins rfl plain otherPlain differs same
  · rintro ⟨pattern, rfl⟩
    rfl

/-- The pattern is empty if there is nothing but `U` in it. -/
theorem exists_runFailure_empty_iff :
    (∃ pattern, RunFailure bytes (.pattern pattern .empty)) ↔
      ∃ batch, EncodesBatch bytes batch ∧ ∀ c ∈ batch.pattern.toList, c = 'U' := by
  constructor
  · rintro ⟨_, fails⟩
    cases fails with
    | pattern encodes none =>
      cases none with
      | empty compiled => exact ⟨_, encodes, compile_eq_ok_none_iff.mp compiled⟩
  · rintro ⟨batch, encodes, onlyUnions⟩
    exact ⟨_, .pattern encodes (.empty (compile_eq_ok_none_iff.mpr onlyUnions))⟩

/-! ### Everything that a run writes -/

theorem run_of_runFailure (arrives : Arrives sources bytes source)
    (fails : RunFailure bytes failure) :
    run sources source dump = ⟨1, "", "Error: " ++ Text.quoted failure.message ++ "\n"⟩ := by
  rw [run_of_arrives arrives, runBytes_of_runFailure fails]
  rfl

/-- **What the error says** is that the pattern is empty exactly if it is. -/
theorem errors_eq_empty_iff (arrives : Arrives sources bytes source) :
    (run sources source dump).errors = "Error: \"The pattern is empty.\"\n" ↔
      ∃ batch, EncodesBatch bytes batch ∧ ∀ c ∈ batch.pattern.toList, c = 'U' := by
  have shown : "Error: \"The pattern is empty.\"\n" =
      "Error: " ++ Text.quoted "The pattern is empty." ++ "\n" := by decide +kernel
  rw [← exists_runFailure_empty_iff, shown]
  constructor
  · intro same
    rcases encodesBatch_or_runFailure bytes with ⟨batch, machine, encodes, compiled⟩ | ⟨failure, fails⟩
    · rw [run_of_arrives arrives, runBytes_of_compiled encodes compiled] at same
      have nothing : "" ≠ "Error: " ++ Text.quoted "The pattern is empty." ++ "\n" := by
        decide +kernel
      exact absurd same nothing
    · rw [run_of_runFailure arrives fails, String.append_left_inj, String.append_right_inj,
        quoted_message_eq_empty_iff fails] at same
      obtain ⟨pattern, rfl⟩ := same
      exact ⟨pattern, fails⟩
  · rintro ⟨pattern, fails⟩
    rw [run_of_runFailure arrives fails]
    rfl

/-- **A run writes everything or nothing, wherever its input comes from.** Any other run with the same
bytes does the same. If the bytes are the text of a batch whose pattern has an automaton, the run
succeeds and writes its dump, if that is asked for, and then a verdict for each candidate, one to a
line. In every other case it fails for the step that does, and writes only the words for that. The error
is that the pattern is empty exactly if there is a batch and nothing but `U` in its pattern. -/
theorem run_all_or_nothing (arrives : Arrives sources bytes source) (dump : Bool) :
    (∀ otherSources otherSource, Arrives otherSources bytes otherSource →
        run otherSources otherSource dump = run sources source dump) ∧
      (∀ batch machine, EncodesBatch bytes batch → compile batch.pattern = .ok (some machine) →
        run sources source dump =
          ⟨0, (if dump then machine.dump else "") ++ String.join (batch.candidates.map fun candidate =>
            if machine.accepts candidate then "YES\n" else "NO\n"), ""⟩) ∧
      ((¬∃ batch machine, EncodesBatch bytes batch ∧ compile batch.pattern = .ok (some machine)) →
        ∃ failure text, RunFailure bytes failure ∧ failure.Worded text ∧
          run sources source dump = ⟨1, "", "Error: " ++ Text.quoted text ++ "\n"⟩) ∧
      ((run sources source dump).errors = "Error: \"The pattern is empty.\"\n" ↔
        ∃ batch, EncodesBatch bytes batch ∧ ∀ c ∈ batch.pattern.toList, c = 'U') := by
  refine ⟨fun otherSources otherSource otherArrives => ?_, fun batch machine encodes compiled => ?_,
    fun none => ?_, errors_eq_empty_iff arrives⟩
  · rw [run_of_arrives arrives, run_of_arrives otherArrives]
  · have lines (candidate : String) : Verdicts.word (machine.accepts candidate) ++ "\n" =
        if machine.accepts candidate then "YES\n" else "NO\n" := by
      cases machine.accepts candidate <;> rfl
    rw [run_of_arrives arrives, runBytes_of_compiled encodes compiled, verdictLines]
    simp only [lines]
    rfl
  · rcases encodesBatch_or_runFailure bytes with ⟨batch, machine, found⟩ | ⟨failure, fails⟩
    · exact absurd ⟨batch, machine, found⟩ none
    · exact ⟨failure, _, fails, Failure.worded_iff.mpr rfl, run_of_runFailure arrives fails⟩

/-- The batch for the pattern `ad` has the same verdicts from the standard input, with and without a
dash, and from a file. For the pattern `UU` the error is that it is empty. -/
theorem run_all_or_nothing_letter_digit :
    run (.letterDigit "") (some "-") false = run (.letterDigit "") none false ∧
      run (.letterDigit "") (some "t.in") false = run (.letterDigit "") none false ∧
      run (.letterDigit "") none false = ⟨0, "YES\nNO\n", ""⟩ ∧
      (run (.ofTest "UU 0" "") none true).errors = "Error: \"The pattern is empty.\"\n" := by
  have encodes : EncodesBatch "ad 2 b1 x".toUTF8 ⟨"ad", ["b1", "x"]⟩ :=
    ⟨"ad 2 b1 x", rfl, by decide +kernel⟩
  have unions : EncodesBatch "UU 0".toUTF8 ⟨"UU", []⟩ := ⟨"UU 0", rfl, by decide +kernel⟩
  have arrives : Arrives (.letterDigit "") "ad 2 b1 x".toUTF8 none := .omitted rfl
  have unionsArrive : Arrives (.ofTest "UU 0" "") "UU 0".toUTF8 none := .omitted rfl
  obtain ⟨alike, succeeds, _, _⟩ := run_all_or_nothing arrives false
  obtain ⟨_, _, _, isEmpty⟩ := run_all_or_nothing unionsArrive true
  refine ⟨alike _ _ (.dash rfl), alike _ _ (.named (by decide) rfl), ?_,
    isEmpty.mpr ⟨_, unions, fun c inside => by simpa using inside⟩⟩
  rw [succeeds _ _ encodes compile_letterDigit]
  decide +kernel

end PatternNfa.CommandLine
