/-
**Tests report on every candidate, or on none.**

A test takes its steps in a fixed order. It reads the file of the batch and the file of the verdicts,
makes out the batch and the verdicts, compares how many there are, and compiles the pattern. The first
step that fails decides on the error, and nothing has been written by then. If no step fails, there is
one report for each candidate, in their order, and the test fails for as many of them as get the wrong
verdict. It cannot count `2 ^ 31` of them, so it stops there, or gives another number.

* `InOrder`, `FirstFailure`: what a test finds, one or the other (`inOrder_or_firstFailure`);
* `trials_of_inOrder`, `trials_of_firstFailure`: what comes of it;
* `report_eq`, `getElem?_trialsOf`: the reports, one by one;
* `StopsAt`, `exists_stopsAt`: where a test stops that cannot count its failures;
* `test_reports`: everything that a test writes.
-/

import PatternNfa.Proofs.CommandLine.Agreement
import PatternNfa.Proofs.CommandLine.Inputs
import PatternNfa.Proofs.CommandLine.Messages

namespace PatternNfa.CommandLine

variable {sources : Sources} {name input output : String} {batch : Batch} {machine : Automaton}
  {candidates : List String} {expected : List Bool} {failure : Failure}

/-! ### What a test finds -/

/-- The first file of a test holds a batch. -/
def HoldsBatch (sources : Sources) (name : String) (batch : Batch) : Prop :=
  ∃ text : String, sources.file (name ++ ".in") = .ok text.toUTF8 ∧ Batch.parse text = .ok batch

/-- The second file of a test holds verdicts. -/
def HoldsVerdicts (sources : Sources) (name : String) (verdicts : List Bool) : Prop :=
  ∃ text : String, sources.file (name ++ ".out") = .ok text.toUTF8 ∧
    Verdicts.parse text = .ok verdicts

/-- **All that a test needs is in order.** -/
structure InOrder (sources : Sources) (name : String) (batch : Batch) (expected : List Bool)
    (machine : Automaton) : Prop where
  batch_held : HoldsBatch sources name batch
  verdicts_held : HoldsVerdicts sources name expected
  counts : batch.candidates.length = expected.length
  compiled : compile batch.pattern = .ok (some machine)

/-- **The first step of a test that fails**: all those before it succeed. -/
inductive FirstFailure (sources : Sources) (name : String) : Failure → Prop
  | input {fault : SourceFault} : Unreadable sources (name ++ ".in") fault →
      FirstFailure sources name (.source fault)
  | output {input : String} {fault : SourceFault} :
      sources.file (name ++ ".in") = .ok input.toUTF8 →
      Unreadable sources (name ++ ".out") fault → FirstFailure sources name (.source fault)
  | batch {input output : String} {fault : Batch.Fault} :
      sources.file (name ++ ".in") = .ok input.toUTF8 →
      sources.file (name ++ ".out") = .ok output.toUTF8 →
      Batch.parse input = .error fault → FirstFailure sources name (.batch fault)
  | verdicts {batch : Batch} {output : String} {fault : Verdicts.Fault} :
      HoldsBatch sources name batch → sources.file (name ++ ".out") = .ok output.toUTF8 →
      Verdicts.parse output = .error fault → FirstFailure sources name (.verdicts fault)
  | counts {batch : Batch} {expected : List Bool} : HoldsBatch sources name batch →
      HoldsVerdicts sources name expected → batch.candidates.length ≠ expected.length →
      FirstFailure sources name .mismatchedCounts
  | pattern {batch : Batch} {expected : List Bool} {fault : PatternFault} :
      HoldsBatch sources name batch → HoldsVerdicts sources name expected →
      batch.candidates.length = expected.length → NoMachine batch.pattern fault →
      FirstFailure sources name (.pattern batch.pattern fault)

/-- **Either everything is in order or some step fails first.** -/
theorem inOrder_or_firstFailure (sources : Sources) (name : String) :
    (∃ batch expected machine, InOrder sources name batch expected machine) ∨
      ∃ failure, FirstFailure sources name failure := by
  cases inputRead : sources.fileText (name ++ ".in") with
  | error fault => exact Or.inr ⟨_, .input (fileText_eq_error_iff.mp inputRead)⟩
  | ok input =>
    have inputGiven := fileText_eq_ok_iff.mp inputRead
    cases outputRead : sources.fileText (name ++ ".out") with
    | error fault => exact Or.inr ⟨_, .output inputGiven (fileText_eq_error_iff.mp outputRead)⟩
    | ok output =>
      have outputGiven := fileText_eq_ok_iff.mp outputRead
      cases read : Batch.parse input with
      | error fault => exact Or.inr ⟨_, .batch inputGiven outputGiven read⟩
      | ok batch =>
        have batchHeld : HoldsBatch sources name batch := ⟨input, inputGiven, read⟩
        cases verdicts : Verdicts.parse output with
        | error fault => exact Or.inr ⟨_, .verdicts batchHeld outputGiven verdicts⟩
        | ok expected =>
          have verdictsHeld : HoldsVerdicts sources name expected := ⟨output, outputGiven, verdicts⟩
          by_cases counts : batch.candidates.length = expected.length
          · cases built : machineOf batch with
            | error failure =>
              obtain ⟨fault, none, rfl⟩ := machineOf_eq_error_iff.mp built
              exact Or.inr ⟨_, .pattern batchHeld verdictsHeld counts none⟩
            | ok machine =>
              have compiled := machineOf_eq_ok_iff.mp built
              exact Or.inl ⟨batch, expected, machine, batchHeld, verdictsHeld, counts, compiled⟩
          · exact Or.inr ⟨_, .counts batchHeld verdictsHeld counts⟩

/-! ### What comes of it -/

theorem trials_of_texts (inputGiven : sources.file (name ++ ".in") = .ok input.toUTF8)
    (outputGiven : sources.file (name ++ ".out") = .ok output.toUTF8) :
    trials sources name = trialsOfTexts input output :=
  trials_eq (fileText_eq_ok_iff.mpr inputGiven) (fileText_eq_ok_iff.mpr outputGiven)

/-- If everything is in order, there is a trial for each candidate. -/
theorem trials_of_inOrder (inOrder : InOrder sources name batch expected machine) :
    trials sources name = .ok (trialsOf machine batch.candidates expected) := by
  obtain ⟨input, inputGiven, read⟩ := inOrder.batch_held
  obtain ⟨output, outputGiven, verdicts⟩ := inOrder.verdicts_held
  rw [trials_of_texts inputGiven outputGiven,
    trialsOfTexts_eq read verdicts (machineOf_eq_ok_iff.mpr inOrder.compiled), if_pos inOrder.counts]

/-- The first step that fails decides. -/
theorem trials_of_firstFailure (first : FirstFailure sources name failure) :
    trials sources name = .error failure := by
  cases first with
  | input unreadable =>
    rw [trials, fileText_eq_error_iff.mpr unreadable]
    rfl
  | output inputGiven unreadable =>
    rw [trials, fileText_eq_ok_iff.mpr inputGiven, fileText_eq_error_iff.mpr unreadable]
    rfl
  | batch inputGiven outputGiven failed =>
    rw [trials_of_texts inputGiven outputGiven, trialsOfTexts, failed]
    rfl
  | verdicts batchHeld outputGiven failed =>
    obtain ⟨input, inputGiven, read⟩ := batchHeld
    rw [trials_of_texts inputGiven outputGiven, trialsOfTexts, read, failed]
    rfl
  | counts batchHeld verdictsHeld differ =>
    obtain ⟨input, inputGiven, read⟩ := batchHeld
    obtain ⟨output, outputGiven, verdicts⟩ := verdictsHeld
    rw [trials_of_texts inputGiven outputGiven, trialsOfTexts_of_parsed read verdicts,
      if_neg differ]
  | pattern batchHeld verdictsHeld same none =>
    obtain ⟨input, inputGiven, read⟩ := batchHeld
    obtain ⟨output, outputGiven, verdicts⟩ := verdictsHeld
    rw [trials_of_texts inputGiven outputGiven, trialsOfTexts_of_parsed read verdicts, if_pos same,
      machineOf_eq_error_iff.mpr ⟨_, none, rfl⟩]
    rfl

/-! ### Reports -/

/-- A report tells whether the candidate gets the verdict that it should get, and if it does not,
also the candidate and both verdicts. -/
theorem report_eq (number : Nat) (candidate : String) (verdict obtained : Bool) :
    Trial.report number ⟨candidate, verdict, obtained⟩ =
      if obtained = verdict then "    #" ++ toString number ++ " passed.\n"
      else "    #" ++ toString number ++ " failed.\n" ++ "    on \"" ++ candidate ++
        "\", expected " ++ (if verdict then "YES" else "NO") ++ ", got " ++
        (if obtained then "YES" else "NO") ++ "\n" := by
  unfold Trial.report Trial.passes Verdicts.word
  by_cases same : obtained = verdict <;> simp [same]

/-- There is a trial for each candidate and verdict. -/
theorem getElem?_trialsOf {index : Nat} {candidate : String} {verdict : Bool}
    (listed : candidates[index]? = some candidate) (due : expected[index]? = some verdict) :
    (trialsOf machine candidates expected)[index]? =
      some ⟨candidate, verdict, machine.accepts candidate⟩ := by
  rw [trialsOf, List.getElem?_zipWith, listed, due]

/-- **Where a test stops**: at a candidate that gets another verdict than it should, after `2 ^ 31 - 1`
others that do. -/
structure StopsAt (machine : Automaton) (candidates : List String) (expected : List Bool)
    (index : Nat) : Prop where
  fails : ∃ pair ∈ (candidates.zip expected)[index]?, machine.accepts pair.1 ≠ pair.2
  full : ((candidates.zip expected).take index).countP (fun pair => machine.accepts pair.1 ≠ pair.2) =
    2 ^ 31 - 1

/-- **A test that cannot count its failures stops** at some candidate. The reports on those before it
are written. -/
theorem exists_stopsAt (machine : Automaton) (candidates : List String) (expected : List Bool)
    (many : 2 ^ 31 ≤ failures (trialsOf machine candidates expected)) (notice : String) :
    ∃ index, StopsAt machine candidates expected index ∧
      Outcome.ofTrials (.stops notice) (trialsOf machine candidates expected) =
        ⟨101, String.join ((reports (trialsOf machine candidates expected)).take index), notice⟩ := by
  obtain ⟨_, trial, trials, cut, full, fails⟩ :=
    exists_append_cons_of_lt_failures (Nat.lt_of_lt_of_le (by decide : 2 ^ 31 - 1 < 2 ^ 31) many)
  have outcome := outcome_ofTrials_of_stop full fails trials notice
  rw [← cut] at outcome
  rw [trialsOf_eq_map] at cut
  obtain ⟨before, rest, zipped, rfl, following⟩ := List.map_eq_append_iff.mp cut
  obtain ⟨pair, after, rfl, rfl, _⟩ := List.map_eq_cons_iff.mp following
  refine ⟨before.length, ⟨⟨pair, ?_, ?_⟩, ?_⟩, ?_⟩
  · simp [zipped]
  · simpa [Trial.passes, trialOf] using fails
  · rw [zipped, List.take_left, ← failures_map_trialOf, full]
  · rw [outcome, trialsOf_eq_map, zipped, List.map_append, ← List.length_map (trialOf machine),
      reports_append]

/-! ### Everything that a test writes -/

/-- **A test reports on every candidate, or it fails before it reports on any.** If the files hold a
batch and as many verdicts, and the pattern has an automaton, then the reports are written one after
another, numbered from one. Each tells whether the automaton gives the verdict that is expected. If
all of them do, the test succeeds, and else it fails with the number of those that do not. From
`2 ^ 31` of them on, it stops before it reports on the first that it cannot count, or the number that
it gives has wrapped around. Otherwise some step fails before there is anything to report. Nothing is
written then, and the error is that of the first step that fails. -/
theorem test_reports (overflow : Overflow) (sources : Sources) (name : String) :
    (∀ batch expected machine, InOrder sources name batch expected machine →
      ∃ reports : List String, reports.length = batch.candidates.length ∧
        (∀ index candidate verdict, batch.candidates[index]? = some candidate →
          expected[index]? = some verdict →
          reports[index]? = some (
            if machine.accepts candidate = verdict then
              "    #" ++ toString (index + 1) ++ " passed.\n"
            else
              "    #" ++ toString (index + 1) ++ " failed.\n" ++ "    on \"" ++ candidate ++
                "\", expected " ++ (if verdict then "YES" else "NO") ++ ", got " ++
                (if machine.accepts candidate then "YES" else "NO") ++ "\n")) ∧
        ∃ failed, failed = (batch.candidates.zip expected).countP
            (fun pair => machine.accepts pair.1 ≠ pair.2) ∧
          (failed < 2 ^ 31 → test overflow sources name =
            if failed = 0 then ⟨0, String.join reports, ""⟩
            else ⟨1, String.join reports, "Error: " ++ Text.quoted (toString failed ++ " of " ++
              toString batch.candidates.length ++ " sub-tests failed.") ++ "\n"⟩) ∧
          (overflow = .wraps → test overflow sources name =
            if 2 ^ 32 ∣ failed then ⟨0, String.join reports, ""⟩
            else ⟨1, String.join reports, "Error: " ++ Text.quoted (
              toString ((failed : Int).bmod (2 ^ 32)) ++ " of " ++
              toString batch.candidates.length ++ " sub-tests failed.") ++ "\n"⟩) ∧
          (∀ notice, overflow = .stops notice → 2 ^ 31 ≤ failed →
            ∃ index, StopsAt machine batch.candidates expected index ∧
              test overflow sources name = ⟨101, String.join (reports.take index), notice⟩)) ∧
      (∀ failure, FirstFailure sources name failure → ∃ text, failure.Worded text ∧
        test overflow sources name = ⟨1, "", "Error: " ++ Text.quoted text ++ "\n"⟩) ∧
      ((∃ batch expected machine, InOrder sources name batch expected machine) ∨
        ∃ failure, FirstFailure sources name failure) := by
  refine ⟨fun batch expected machine inOrder => ?_, fun failure first => ?_,
    inOrder_or_firstFailure sources name⟩
  · have length : (trialsOf machine batch.candidates expected).length = batch.candidates.length :=
      length_trialsOf inOrder.counts
    have tested : test overflow sources name =
        .ofTrials overflow (trialsOf machine batch.candidates expected) := by
      rw [test, trials_of_inOrder inOrder]
    have counted := failures_trialsOf machine batch.candidates expected
    refine ⟨reports (trialsOf machine batch.candidates expected), ?_, ?_, _, rfl, ?_, ?_, ?_⟩
    · rw [length_reports, length]
    · intro index candidate verdict listed due
      rw [getElem?_reports, getElem?_trialsOf listed due, Option.map_some, report_eq]
    · intro few
      rw [← counted] at few ⊢
      rw [tested, outcome_ofTrials_of_few few, length, Outcome.failed_of_worded .failedTests,
        Int32.toInt_ofNat_of_lt few]
      rfl
    · rintro rfl
      rw [← counted, tested, outcome_ofTrials (Or.inl rfl), length,
        Outcome.failed_of_worded .failedTests, Int32.toInt_ofNat']
      rfl
    · rintro notice rfl many
      rw [tested]
      exact exists_stopsAt machine batch.candidates expected (counted ▸ many) notice
  · rw [test, trials_of_firstFailure first]
    exact ⟨_, Failure.worded_iff.mpr rfl, rfl⟩

/-- The pattern `ad` accepts `b1` but not `x`, so the second of two verdicts `YES` is wrong. With no
files to read, the first one is missed. -/
theorem test_reports_letter_digit :
    test (.stops "") (.letterDigit "YES\nYES") "t" =
        ⟨1, "    #1 passed.\n    #2 failed.\n    on \"x\", expected YES, got NO\n",
          "Error: \"1 of 2 sub-tests failed.\"\n"⟩ ∧
      test .wraps (.letterDigit "YES\nYES") "u" =
        ⟨1, "", "Error: \"Couldn't open u.in : No such file or directory (os error 2)\"\n"⟩ := by
  have inOrder : InOrder (.letterDigit "YES\nYES") "t" ⟨"ad", ["b1", "x"]⟩ [true, true]
      ((Automaton.reading .letter).concatenate (Automaton.reading .digit)) :=
    ⟨⟨"ad 2 b1 x", rfl, by decide +kernel⟩, ⟨"YES\nYES", rfl, by decide +kernel⟩, rfl,
      compile_letterDigit⟩
  obtain ⟨whole, _, _⟩ := test_reports (.stops "") (.letterDigit "YES\nYES") "t"
  obtain ⟨_, fails, _⟩ := test_reports .wraps (.letterDigit "YES\nYES") "u"
  constructor
  · obtain ⟨reports, length, each, failed, count, outcome, _, _⟩ := whole _ _ _ inOrder
    have accepted : ((Automaton.reading .letter).concatenate (Automaton.reading .digit)).accepts "b1" =
        true := by decide +kernel
    have refused : ((Automaton.reading .letter).concatenate (Automaton.reading .digit)).accepts "x" =
        false := by decide +kernel
    have first := each 0 "b1" true rfl rfl
    have second := each 1 "x" true rfl rfl
    rw [accepted, if_pos rfl] at first
    rw [refused, if_neg Bool.false_ne_true] at second
    have one : failed = 1 := by
      rw [count]
      simp [accepted, refused]
    rcases reports with _ | ⟨_, _ | ⟨_, _ | _⟩⟩
    · cases length
    · cases length
    · cases first
      cases second
      rw [outcome (by rw [one]; decide), one]
      decide +kernel
    · cases length
  · obtain ⟨text, worded, outcome⟩ := fails _ (.input (.opening rfl))
    cases worded with
    | source worded =>
      cases worded
      rw [outcome]
      decide +kernel

/-! ### Nothing but wrong verdicts -/

theorem inOrder_wrong {count : Nat} (fits : count < 2 ^ 64) :
    InOrder (.wrong count) "t" (repeated count) (List.replicate count false)
      (Automaton.reading .letter) where
  batch_held := ⟨_, rfl, parse_repeated fits⟩
  verdicts_held := ⟨_, rfl, Verdicts.parse_render _⟩
  counts := by rw [repeated, List.length_replicate, List.length_replicate]
  compiled := compile_repeated count

theorem test_wrong {count : Nat} (overflow : Overflow) (fits : count < 2 ^ 64) :
    test overflow (.wrong count) "t" =
      .ofTrials overflow (trialsOf (Automaton.reading .letter) (repeated count).candidates
        (List.replicate count false)) := by
  rw [test, trials_of_inOrder (inOrder_wrong fits)]

theorem errors_test_wrong {count : Nat} (fits : count < 2 ^ 64) (some : ¬2 ^ 32 ∣ count) :
    (test .wraps (.wrong count) "t").errors =
      "Error: " ++ Text.quoted (toString ((count : Int).bmod (2 ^ 32)) ++ " of " ++ toString count ++
        " sub-tests failed.") ++ "\n" := by
  have trials : (trialsOf (Automaton.reading .letter) (repeated count).candidates
      (List.replicate count false)).length = count := by
    rw [length_trialsOf (inOrder_wrong fits).counts, repeated, List.length_replicate]
  rw [test_wrong _ fits, outcome_ofTrials (Or.inl rfl), failures_wrong, if_neg some, trials,
    Outcome.failed_of_worded .failedTests, Int32.toInt_ofNat']
  rfl

/-- **With `2 ^ 31` wrong verdicts** a test gives a negative number of failures where its count wraps
around. Where it does not, the test stops. -/
theorem test_reports_all_wrong :
    InOrder (.wrong (2 ^ 31)) "t" (repeated (2 ^ 31)) (List.replicate (2 ^ 31) false)
        (Automaton.reading .letter) ∧
      ((repeated (2 ^ 31)).candidates.zip (List.replicate (2 ^ 31) false)).countP
        (fun pair => (Automaton.reading .letter).accepts pair.1 ≠ pair.2) = 2 ^ 31 ∧
      (test .wraps (.wrong (2 ^ 31)) "t").errors =
        "Error: \"-2147483648 of 2147483648 sub-tests failed.\"\n" ∧
      ∀ notice, (test (.stops notice) (.wrong (2 ^ 31)) "t").code = 101 := by
  have fits : 2 ^ 31 < 2 ^ 64 := by decide
  have failed := failures_wrong (2 ^ 31)
  refine ⟨inOrder_wrong fits, ?_, ?_, fun notice => ?_⟩
  · rw [← failures_trialsOf, failed]
  · rw [errors_test_wrong fits (by decide)]
    decide +kernel
  · rw [test_wrong _ fits]
    exact code_ofTrials_of_stop failed.ge notice

end PatternNfa.CommandLine
