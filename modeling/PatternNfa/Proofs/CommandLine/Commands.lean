/-
**What commands do with what they read.**

One statement for each step of a command: when `run` has a text to write and which, and what `test` does
with the texts it has read. Trials all pass exactly if the verdicts are those that the candidates get.

* `runText_eq_ok_iff`: what is written for a batch;
* `trialsOfTexts_of_parsed`: the trials of a batch, or the mismatch in their number;
* `forall_passes_iff`, `failures_trialsOf`: which trials pass, and how many fail.
-/

import PatternNfa.Proofs.CommandLine.Reports

namespace PatternNfa.CommandLine

variable {overflow : Overflow} {sources : Sources} {name input output text : String} {dump : Bool}
  {batch : Batch} {machine : Automaton} {candidates : List String} {expected : List Bool}
  {trials : List Trial} {failure : Failure}

/-! ### Steps that succeed -/

theorem mapError_ok {α β γ : Type} (value : α) (change : β → γ) :
    (Except.ok value : Except β α).mapError change = .ok value := rfl

theorem ok_bind {α β γ : Type} (value : α) (next : α → Except β γ) :
    (Except.ok value : Except β α) >>= next = next value := rfl

/-! ### Running -/

/-- **Something is written for a text** if it is a batch and its pattern has an automaton. -/
theorem runText_eq_ok_iff :
    runText text dump = .ok output ↔
      ∃ batch machine, Batch.parse text = .ok batch ∧ machineOf batch = .ok machine ∧
        output = (if dump then machine.dump else "") ++ verdictLines machine batch.candidates := by
  unfold runText
  constructor
  · intro written
    cases read : Batch.parse text with
    | error fault =>
      rw [read] at written
      cases written
    | ok batch =>
      rw [read, mapError_ok, ok_bind] at written
      cases built : machineOf batch with
      | error failure =>
        rw [built] at written
        cases written
      | ok machine =>
        rw [built] at written
        cases written
        exact ⟨batch, machine, rfl, built, rfl⟩
  · rintro ⟨batch, machine, read, built, rfl⟩
    rw [read, mapError_ok, ok_bind, built]
    rfl

theorem run_of_ok {source : Option String} (given : batchText sources source = .ok text)
    (written : runText text dump = .ok output) : run sources source dump = .success output := by
  rw [run, given, mapError_ok, ok_bind, written]

theorem run_of_error {source : Option String} (given : batchText sources source = .ok text)
    (fails : runText text dump = .error failure) : run sources source dump = .failed "" failure := by
  rw [run, given, mapError_ok, ok_bind, fails]

/-- A run that succeeds has written something for its text. -/
theorem run_of_code_eq_zero {source : Option String} (given : batchText sources source = .ok text)
    (succeeds : (run sources source dump).code = 0) :
    runText text dump = .ok (run sources source dump).output := by
  cases written : runText text dump with
  | ok output =>
    rw [run_of_ok given written]
    rfl
  | error failure =>
    rw [run_of_error given written] at succeeds
    cases succeeds

/-! ### Trials -/

/-- Each candidate with the verdict that it should get and the one that it gets. -/
def trialsOf (machine : Automaton) (candidates : List String) (expected : List Bool) : List Trial :=
  candidates.zipWith (fun candidate expected => ⟨candidate, expected, machine.accepts candidate⟩)
    expected

theorem length_trialsOf (same : candidates.length = expected.length) :
    (trialsOf machine candidates expected).length = candidates.length := by
  rw [trialsOf, List.length_zipWith, ← same, Nat.min_self]

/-- The trial of a candidate with its verdict. -/
def trialOf (machine : Automaton) (pair : String × Bool) : Trial :=
  ⟨pair.1, pair.2, machine.accepts pair.1⟩

theorem trialsOf_eq_map (machine : Automaton) (candidates : List String) (expected : List Bool) :
    trialsOf machine candidates expected = (candidates.zip expected).map (trialOf machine) := by
  rw [trialsOf, ← List.map_uncurry_zip_eq_zipWith]
  rfl

/-- **As many trials fail** as candidates get another verdict than they should. -/
theorem failures_map_trialOf (machine : Automaton) (pairs : List (String × Bool)) :
    failures (pairs.map (trialOf machine)) =
      pairs.countP fun pair => machine.accepts pair.1 ≠ pair.2 := by
  rw [failures, List.countP_map]
  refine List.countP_congr fun pair _ => ?_
  simp [Trial.passes, trialOf]

theorem failures_trialsOf (machine : Automaton) (candidates : List String) (expected : List Bool) :
    failures (trialsOf machine candidates expected) =
      (candidates.zip expected).countP fun pair => machine.accepts pair.1 ≠ pair.2 := by
  rw [trialsOf_eq_map, failures_map_trialOf]

/-- **The trials of a batch** are made if there are as many verdicts as candidates. This is seen before
the automaton is needed. -/
theorem trialsOfTexts_of_parsed (read : Batch.parse input = .ok batch)
    (verdicts : Verdicts.parse output = .ok expected) :
    trialsOfTexts input output =
      if batch.candidates.length = expected.length then
        (machineOf batch).map (trialsOf · batch.candidates expected)
      else .error .mismatchedCounts := by
  unfold trialsOfTexts
  simp only [read, verdicts, mapError_ok, ok_bind]
  by_cases same : batch.candidates.length = expected.length
  · simp only [same, ne_eq, not_true_eq_false, if_false, if_true]
    cases machineOf batch <;> rfl
  · simp only [same, ne_eq, not_false_eq_true, if_false, if_true]
    rfl

theorem trialsOfTexts_eq (read : Batch.parse input = .ok batch)
    (verdicts : Verdicts.parse output = .ok expected) (built : machineOf batch = .ok machine) :
    trialsOfTexts input output =
      if batch.candidates.length = expected.length then
        .ok (trialsOf machine batch.candidates expected)
      else .error .mismatchedCounts := by
  rw [trialsOfTexts_of_parsed read verdicts, built]
  rfl

/-- All trials pass if the verdicts are those that the candidates get. -/
theorem forall_passes_iff (same : candidates.length = expected.length) :
    (∀ trial ∈ trialsOf machine candidates expected, trial.passes = true) ↔
      expected = candidates.map machine.accepts := by
  induction candidates generalizing expected with
  | nil =>
    obtain rfl := List.length_eq_zero_iff.mp same.symm
    simp [trialsOf]
  | cons candidate candidates ih =>
    cases expected with
    | nil => cases same
    | cons verdict expected =>
      have rest := ih (Nat.succ.inj same)
      rw [trialsOf] at rest ⊢
      rw [List.zipWith_cons_cons, List.forall_mem_cons, rest, List.map_cons, List.cons.injEq,
        Trial.passes, beq_iff_eq, eq_comm]

/-- The trials of a test are those of its two texts. -/
theorem trials_eq (inputRead : sources.fileText (name ++ ".in") = .ok input)
    (outputRead : sources.fileText (name ++ ".out") = .ok output) :
    CommandLine.trials sources name = trialsOfTexts input output := by
  rw [CommandLine.trials, inputRead, outputRead, mapError_ok, mapError_ok, ok_bind, ok_bind]

theorem test_eq_of_trials (inputRead : sources.fileText (name ++ ".in") = .ok input)
    (outputRead : sources.fileText (name ++ ".out") = .ok output)
    (made : trialsOfTexts input output = .ok trials) :
    test overflow sources name = .ofTrials overflow trials := by
  rw [test, trials_eq inputRead outputRead, made]

theorem test_eq_of_error (inputRead : sources.fileText (name ++ ".in") = .ok input)
    (outputRead : sources.fileText (name ++ ".out") = .ok output)
    (fails : trialsOfTexts input output = .error failure) :
    test overflow sources name = .failed "" failure := by
  rw [test, trials_eq inputRead outputRead, fails]

end PatternNfa.CommandLine
