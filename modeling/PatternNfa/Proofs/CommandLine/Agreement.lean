/-
**Running a batch and testing it agree.**

What `run` writes for a batch is what `test` accepts for it, and no other verdicts are, as long as
fewer than `2 ^ 31` of them differ: the verdicts are read back as they were written, and any others
differ from them in their number or for some candidate. A test cannot count more failures. Then it
stops, or its count wraps around, and `2 ^ 32` failures are none.

* `verdictLines_eq_render`: the lines of a run are the verdicts, one to a line;
* `test_of_verdicts`: a test passes with the verdicts of the automaton;
* `OtherCode`, `code_test_of_other_verdicts`: the code of a test with other verdicts;
* `test_of_run`: what a test does with the output of a run;
* `Sources.wrong`, `code_test_wrong`: tests in which every verdict is wrong.
-/

import PatternNfa.Proofs.Batch.Layout
import PatternNfa.Proofs.Batch.Verdicts
import PatternNfa.Proofs.CommandLine.Commands
import PatternNfa.Proofs.CommandLine.Inputs
import PatternNfa.Proofs.Pattern.Alternatives

namespace PatternNfa.CommandLine

variable {overflow : Overflow} {sources runSources : Sources} {source : Option String}
  {name input output : String} {batch : Batch} {machine : Automaton} {expected printed : List Bool}

theorem verdictLines_eq_render (machine : Automaton) (candidates : List String) :
    verdictLines machine candidates = Verdicts.render (candidates.map machine.accepts) := by
  rw [verdictLines, Verdicts.render, List.map_map]
  rfl

/-- **A test passes with the verdicts of the automaton.** -/
theorem test_of_verdicts (read : Batch.parse input = .ok batch) (built : machineOf batch = .ok machine)
    (inputRead : sources.fileText (name ++ ".in") = .ok input)
    (outputRead : sources.fileText (name ++ ".out") = .ok output)
    (verdicts : Verdicts.parse output = .ok (batch.candidates.map machine.accepts)) :
    test overflow sources name = .success (passReports batch.candidates.length) := by
  have lengths : batch.candidates.length = (batch.candidates.map machine.accepts).length := by
    rw [List.length_map]
  have trials : (trialsOf machine batch.candidates (batch.candidates.map machine.accepts)).length =
      batch.candidates.length := length_trialsOf lengths
  have made := trialsOfTexts_eq read verdicts built
  rw [if_pos lengths] at made
  rw [test_eq_of_trials inputRead outputRead made, ← trials]
  exact outcome_ofTrials_of_forall_passes ((forall_passes_iff lengths).mpr rfl)

/-! ### Other verdicts -/

/-- How many verdicts differ, one by one. -/
def differences (printed expected : List Bool) : Nat :=
  (printed.zip expected).countP fun pair => pair.1 ≠ pair.2

theorem failures_eq_differences (machine : Automaton) (candidates : List String)
    (expected : List Bool) :
    failures (trialsOf machine candidates expected) =
      differences (candidates.map machine.accepts) expected := by
  rw [failures_trialsOf, differences, List.zip_map_left, List.countP_map]
  rfl

/-- **The code of a test** with other verdicts than those that a run prints. It fails if they are too
many or too few, or if fewer than `2 ^ 31` of them differ. Otherwise it stops, or it fails unless the
number of those that differ comes to zero in 32 bits. -/
structure OtherCode (overflow : Overflow) (printed expected : List Bool) (code : UInt32) : Prop where
  of_length_ne : printed.length ≠ expected.length → code = 1
  of_few : differences printed expected < 2 ^ 31 → code = 1
  of_wraps : printed.length = expected.length → overflow = .wraps →
    code = if 2 ^ 32 ∣ differences printed expected then 0 else 1
  of_stops {notice : String} : printed.length = expected.length → overflow = .stops notice →
    2 ^ 31 ≤ differences printed expected → code = 101

theorem code_test_of_other_verdicts (read : Batch.parse input = .ok batch)
    (built : machineOf batch = .ok machine)
    (inputRead : sources.fileText (name ++ ".in") = .ok input)
    (outputRead : sources.fileText (name ++ ".out") = .ok output)
    (verdicts : Verdicts.parse output = .ok expected)
    (differ : expected ≠ batch.candidates.map machine.accepts) :
    OtherCode overflow (batch.candidates.map machine.accepts) expected
      (test overflow sources name).code := by
  have made := trialsOfTexts_eq read verdicts built
  have counted := failures_eq_differences machine batch.candidates expected
  by_cases lengths : batch.candidates.length = expected.length
  · have some : failures (trialsOf machine batch.candidates expected) ≠ 0 := by
      intro none
      refine differ ((forall_passes_iff lengths).mp fun trial listed => ?_)
      simpa using List.countP_eq_zero.mp none trial listed
    have sameLengths : (batch.candidates.map machine.accepts).length = expected.length := by
      rw [List.length_map, lengths]
    rw [if_pos lengths] at made
    rw [test_eq_of_trials inputRead outputRead made]
    refine ⟨fun other => absurd sameLengths other, fun few => ?_, ?_, ?_⟩
    · exact code_ofTrials_of_few (counted ▸ few) some
    · rintro _ rfl
      rw [code_ofTrials_wraps, counted]
    · rintro notice _ rfl many
      exact code_ofTrials_of_stop (counted ▸ many) notice
  · have otherLengths : (batch.candidates.map machine.accepts).length ≠ expected.length := by
      rwa [List.length_map]
    rw [if_neg lengths] at made
    rw [test_eq_of_error inputRead outputRead made]
    exact ⟨fun _ => rfl, fun _ => rfl, fun same => absurd same otherLengths,
      fun same => absurd same otherLengths⟩

/-- **A test agrees with a run.** Suppose that `run` succeeds on the text of a batch. The count in the
batch is its second word. If the batch and what was written are the two files of a test, the test
succeeds, reports that many trials as passed, and writes nothing else. With any text of other verdicts
in the second file the test fails, provided that it can count its failures. -/
theorem test_of_run (given : batchText runSources source = .ok input)
    (succeeds : (run runSources source false).code = 0) :
    ∃ word count printed, (Text.words input.toList)[1]? = some word ∧ Count.parse word = .ok count ∧
      Verdicts.parse (run runSources source false).output = .ok printed ∧
      ∀ overflow sources name, sources.fileText (name ++ ".in") = .ok input →
        (sources.fileText (name ++ ".out") = .ok (run runSources source false).output →
          test overflow sources name = ⟨0, passReports count, ""⟩) ∧
        ∀ other verdicts, sources.fileText (name ++ ".out") = .ok other →
          Verdicts.parse other = .ok verdicts → verdicts ≠ printed →
            OtherCode overflow printed verdicts (test overflow sources name).code := by
  obtain ⟨batch, machine, read, built, written⟩ :=
    runText_eq_ok_iff.mp (run_of_code_eq_zero given succeeds)
  obtain ⟨word, listed, counted⟩ := Batch.count_of_parse read
  have lines : (run runSources source false).output =
      Verdicts.render (batch.candidates.map machine.accepts) := by
    rw [written, verdictLines_eq_render]
    exact String.empty_append
  have printed := Verdicts.parse_render (batch.candidates.map machine.accepts)
  rw [← lines] at printed
  refine ⟨word, batch.candidates.length, _, listed, counted, printed,
    fun overflow sources name inputRead => ⟨fun outputRead => ?_, ?_⟩⟩
  · exact test_of_verdicts read built inputRead outputRead printed
  · intro other verdicts outputRead verdictsRead differ
    exact code_test_of_other_verdicts read built inputRead outputRead verdictsRead differ

/-- The two files of a test `t`. The batch is also the standard input. -/
def Sources.ofTest (batch verdicts : String) : Sources where
  file name :=
    if name = "t.in" then .ok batch.toUTF8
    else if name = "t.out" then .ok verdicts.toUTF8
    else .error (.opening .notFound)
  input := .ok batch.toUTF8

/-- A test for the pattern `ad`, with the given text of verdicts. -/
def Sources.letterDigit (verdicts : String) : Sources :=
  .ofTest "ad 2 b1 x" verdicts

theorem compile_letterDigit :
    compile "ad" = .ok (some ((Automaton.reading .letter).concatenate (Automaton.reading .digit))) :=
  compile_ofList_text [.literal ⟨.letter, false⟩, .literal ⟨.digit, false⟩]

/-- The pattern `ad` accepts `b1` but not `x`. The test passes with these verdicts, and fails with
one verdict too few, or with a wrong one. -/
theorem test_of_run_letter_digit :
    run (.letterDigit "YES\nNO\n") none false = ⟨0, "YES\nNO\n", ""⟩ ∧
      test (.stops "") (.letterDigit "YES\nNO\n") "t" =
        ⟨0, "    #1 passed.\n    #2 passed.\n", ""⟩ ∧
      (test .wraps (.letterDigit "YES") "t").code = 1 ∧
      (test .wraps (.letterDigit "YES\nYES") "t").code = 1 := by
  have given : batchText (.letterDigit "YES\nNO\n") none = .ok "ad 2 b1 x" := rfl
  have written : run (.letterDigit "YES\nNO\n") none false = ⟨0, "YES\nNO\n", ""⟩ := by
    decide +kernel
  obtain ⟨word, count, printed, listed, counted, verdicts, agrees⟩ :=
    test_of_run given (by rw [written])
  have second : (Text.words "ad 2 b1 x".toList)[1]? = some ['2'] := by decide +kernel
  rw [second] at listed
  cases listed
  cases counted
  rw [written] at verdicts agrees
  cases verdicts
  refine ⟨written, (agrees _ (.letterDigit "YES\nNO\n") _ rfl).1 rfl, ?_, ?_⟩
  · have other := (agrees .wraps (.letterDigit "YES") "t" rfl).2 "YES" [true] rfl rfl (by decide)
    exact other.of_length_ne (by decide)
  · have other := (agrees .wraps (.letterDigit "YES\nYES") "t" rfl).2 "YES\nYES" [true, true] rfl rfl
      (by decide)
    exact other.of_few (by decide)

/-! ### Nothing but wrong verdicts -/

/-- A batch that gives the pattern `a` the candidate `b` so many times. -/
def repeated (count : Nat) : Batch :=
  ⟨"a", List.replicate count "b"⟩

/-- A test of this batch in which every verdict is wrong. -/
def Sources.wrong (count : Nat) : Sources :=
  .ofTest (repeated count).write (Verdicts.render (List.replicate count false))

variable {count : Nat}

theorem parse_repeated (fits : count < 2 ^ 64) :
    Batch.parse (repeated count).write = .ok (repeated count) := by
  have isWord {word : String} (nonempty : word.toList ≠ [])
      (dark : word.toList.all (!Unicode.isWhiteSpace ·) = true) : Text.IsWord word.toList :=
    ⟨nonempty, fun c inside => by simpa using List.all_eq_true.mp dark c inside⟩
  have isPattern : Text.IsWord "a".toList := isWord (by decide) (by decide)
  refine Batch.parse_write isPattern (fun candidate listed => ?_) ?_
  · rw [List.eq_of_mem_replicate listed]
    exact isWord (by decide) (by decide)
  · rwa [repeated, List.length_replicate]

theorem compile_repeated (count : Nat) :
    compile (repeated count).pattern = .ok (some (Automaton.reading .letter)) :=
  compile_ofList_text [.literal ⟨.letter, false⟩]

/-- All the candidates are accepted. -/
theorem accepts_repeated (count : Nat) :
    (repeated count).candidates.map (Automaton.reading .letter).accepts =
      List.replicate count true := by
  have accepted : (Automaton.reading .letter).accepts "b" = true := by decide +kernel
  rw [repeated, List.map_replicate, accepted]

theorem differences_wrong (count : Nat) :
    differences (List.replicate count true) (List.replicate count false) = count := by
  rw [differences, List.zip_replicate', List.countP_replicate]
  rfl

theorem failures_wrong (count : Nat) :
    failures (trialsOf (Automaton.reading .letter) (repeated count).candidates
      (List.replicate count false)) = count := by
  rw [failures_eq_differences, accepts_repeated, differences_wrong]

theorem run_wrong (fits : count < 2 ^ 64) :
    run (.wrong count) none false = .success (Verdicts.render (List.replicate count true)) := by
  have given : batchText (.wrong count) none = .ok (repeated count).write :=
    decode_eq_ok_iff.mpr rfl
  have written : runText (repeated count).write false =
      .ok (Verdicts.render (List.replicate count true)) := by
    rw [← accepts_repeated, ← verdictLines_eq_render]
    exact runText_eq_ok_iff.mpr ⟨_, _, parse_repeated fits,
      machineOf_eq_ok_iff.mpr (compile_repeated count), String.empty_append.symm⟩
  exact run_of_ok given written

theorem parse_output_run_wrong (fits : count < 2 ^ 64) :
    Verdicts.parse (run (.wrong count) none false).output = .ok (List.replicate count true) := by
  rw [run_wrong fits]
  exact Verdicts.parse_render _

/-- **The code of a test in which every verdict is wrong.** -/
theorem code_test_wrong (overflow : Overflow) (fits : count < 2 ^ 64) (some : count ≠ 0) :
    OtherCode overflow (List.replicate count true) (List.replicate count false)
      (test overflow (.wrong count) "t").code := by
  have differ : List.replicate count false ≠ List.replicate count true := by
    rw [Ne, List.replicate_inj]
    simp [some]
  rw [← accepts_repeated] at differ ⊢
  exact code_test_of_other_verdicts (parse_repeated fits)
    (machineOf_eq_ok_iff.mpr (compile_repeated count)) (fileText_eq_ok_iff.mpr rfl)
    (fileText_eq_ok_iff.mpr rfl) (Verdicts.parse_render _) differ

/-- **With `2 ^ 32` wrong verdicts** a test succeeds where its count wraps around. Where it does not,
the test stops. -/
theorem test_of_run_all_wrong :
    (Sources.wrong (2 ^ 32)).fileText "t.in" = batchText (.wrong (2 ^ 32)) none ∧
      (run (.wrong (2 ^ 32)) none false).code = 0 ∧
      Verdicts.parse (run (.wrong (2 ^ 32)) none false).output = .ok (List.replicate (2 ^ 32) true) ∧
      (Sources.wrong (2 ^ 32)).fileText "t.out" =
        .ok (Verdicts.render (List.replicate (2 ^ 32) false)) ∧
      Verdicts.parse (Verdicts.render (List.replicate (2 ^ 32) false)) =
        .ok (List.replicate (2 ^ 32) false) ∧
      (test .wraps (.wrong (2 ^ 32)) "t").code = 0 ∧
      ∀ notice, (test (.stops notice) (.wrong (2 ^ 32)) "t").code = 101 := by
  have lengths : (List.replicate (2 ^ 32) true).length = (List.replicate (2 ^ 32) false).length := by
    rw [List.length_replicate, List.length_replicate]
  have fits : 2 ^ 32 < 2 ^ 64 := by decide
  have code (overflow : Overflow) := code_test_wrong overflow fits (by decide)
  refine ⟨rfl, ?_, parse_output_run_wrong fits, fileText_eq_ok_iff.mpr rfl, Verdicts.parse_render _, ?_,
    fun notice => ?_⟩
  · rw [run_wrong fits]
    rfl
  · rw [(code .wraps).of_wraps lengths rfl, differences_wrong, if_pos (Nat.dvd_refl _)]
  · have many : 2 ^ 31 ≤ 2 ^ 32 := Nat.pow_le_pow_right Nat.two_pos (Nat.le_succ 31)
    exact (code (.stops notice)).of_stops lengths rfl (many.trans_eq (differences_wrong _).symm)

end PatternNfa.CommandLine
