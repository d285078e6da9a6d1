/-
**Reports on trials.**

A test keeps the reports that it has written and a count of the trials that failed. The count has 32
bits. As long as fewer than `2 ^ 31` trials have failed it is exact. After that a program either stops,
before it reports on the trial that it cannot count, or goes on with a count that has wrapped around.

* `getElem?_reports`: there is one report for each trial, numbered from one;
* `add_exact`, `ofTrials_exact`: what one more trial and what all of them come to;
* `outcome_ofTrials`: the outcome if all trials are counted;
* `outcome_ofTrials_of_stop`: the outcome if the program stops before that;
* `code_ofTrials_of_few`, `code_ofTrials_wraps`, `code_ofTrials_of_stop`: the codes if some trials fail;
* `outcome_ofTrials_of_forall_passes`: the outcome if all trials pass.
-/

import Mathlib.Algebra.Ring.Nat
import Mathlib.Data.List.Induction
import PatternNfa.CommandLine.Commands

namespace PatternNfa.CommandLine

variable {overflow : Overflow} {notice : String} {trials before after : List Trial} {trial : Trial}
  {n : Nat}

/-! ### Numbers of 32 bits -/

theorem int32_ofNat_eq_iff {m n : Nat} :
    Int32.ofNat m = Int32.ofNat n ↔ m % 2 ^ 32 = n % 2 ^ 32 := by
  rw [← Int32.toBitVec_inj, ← BitVec.toNat_inj]
  rfl

theorem int32_ofNat_eq_zero_iff : Int32.ofNat n = 0 ↔ 2 ^ 32 ∣ n := by
  rw [Nat.dvd_iff_mod_eq_zero]
  exact int32_ofNat_eq_iff (n := 0)

theorem int32_ofNat_eq_maxValue_iff (fits : n < 2 ^ 31) :
    Int32.ofNat n = Int32.maxValue ↔ n = 2 ^ 31 - 1 := by
  rw [← Int32.toInt_inj, Int32.toInt_ofNat_of_lt fits, Int32.toInt_maxValue]
  omega

/-! ### Reports and failures -/

/-- The reports on trials, in their order. -/
def reports (trials : List Trial) : List String :=
  trials.zipIdx.map fun (trial, index) => trial.report (index + 1)

/-- How many trials fail. -/
def failures (trials : List Trial) : Nat :=
  trials.countP fun trial => !trial.passes

theorem length_reports (trials : List Trial) : (reports trials).length = trials.length := by
  rw [reports, List.length_map, List.length_zipIdx]

/-- **Reports are numbered from one.** -/
theorem getElem?_reports (trials : List Trial) (index : Nat) :
    (reports trials)[index]? = trials[index]?.map (·.report (index + 1)) := by
  rw [reports, List.getElem?_map, List.getElem?_zipIdx, Option.map_map, Nat.zero_add]
  rfl

theorem join_reports_concat (trials : List Trial) (trial : Trial) :
    String.join (reports (trials ++ [trial])) =
      String.join (reports trials) ++ trial.report (trials.length + 1) := by
  simp [reports, List.zipIdx_append]

theorem reports_append (before after : List Trial) :
    (reports (before ++ after)).take before.length = reports before := by
  rw [reports, reports, List.zipIdx_append, List.map_append, List.take_append_of_le_length (by simp),
    List.take_of_length_le (by simp)]

theorem failures_concat (trials : List Trial) (trial : Trial) :
    failures (trials ++ [trial]) = failures trials + if trial.passes then 0 else 1 := by
  cases passes : trial.passes <;> simp [failures, passes]

/-! ### The tally -/

/-- The program goes on after so many failures: it can count them, or it need not count them exactly. -/
def Overflow.Counts (overflow : Overflow) (failed : Nat) : Prop :=
  overflow = .wraps ∨ failed < 2 ^ 31

theorem Overflow.Counts.of_le (counts : overflow.Counts n) {fewer : Nat} (few : fewer ≤ n) :
    overflow.Counts fewer :=
  counts.imp_right (Nat.lt_of_le_of_lt few)

namespace Tally

/-- The reports on all trials, and the last 32 bits of the number of failures. -/
def exact (trials : List Trial) : Tally :=
  ⟨String.join (reports trials), Int32.ofNat (failures trials)⟩

theorem ofTrials_append (overflow : Overflow) (before after : List Trial) :
    ofTrials overflow (before ++ after) =
      ofTrials overflow before >>= (after.zipIdx before.length).foldlM
        fun tally (trial, index) => tally.add overflow (index + 1) trial := by
  rw [ofTrials, List.zipIdx_append, List.foldlM_append, Nat.zero_add]
  rfl

/-- A trial is reported once it is counted. -/
theorem add_eq (overflow : Overflow) (tally : Tally) (number : Nat) (trial : Trial) :
    tally.add overflow number trial =
      (if trial.passes then .ok tally else tally.countFailure overflow).map fun counted =>
        { counted with output := counted.output ++ trial.report number } := by
  unfold add
  cases trial.passes
  · cases tally.countFailure overflow <;> rfl
  · rfl

/-- A failure is counted exactly, or modulo `2 ^ 32` where numbers wrap around. -/
theorem countFailure_exact (counts : overflow.Counts (failures trials + 1)) :
    (exact trials).countFailure overflow =
      .ok ⟨String.join (reports trials), Int32.ofNat (failures trials + 1)⟩ := by
  rw [Int32.ofNat_add]
  cases overflow with
  | wraps => rfl
  | stops notice =>
    have fits : failures trials + 1 < 2 ^ 31 := counts.resolve_left nofun
    have notLast : ¬Int32.ofNat (failures trials) = Int32.maxValue := by
      rw [int32_ofNat_eq_maxValue_iff (Nat.lt_of_succ_lt fits)]
      omega
    exact if_neg notLast

/-- **One more trial** is counted and reported. -/
theorem add_exact (counts : overflow.Counts (failures (trials ++ [trial]))) :
    (exact trials).add overflow (trials.length + 1) trial = .ok (exact (trials ++ [trial])) := by
  have counted := failures_concat trials trial
  rw [add_eq, exact, exact, join_reports_concat]
  cases passes : trial.passes with
  | true =>
    rw [passes] at counted
    rw [counted]
    rfl
  | false =>
    rw [passes] at counted
    rw [counted] at counts ⊢
    have more := countFailure_exact counts
    rw [exact] at more
    rw [if_neg Bool.false_ne_true, more]
    rfl

/-- **A failure that cannot be counted** stops the program. It is not reported. -/
theorem add_exact_of_stop (full : failures trials = 2 ^ 31 - 1) (fails : trial.passes = false)
    (number : Nat) :
    (exact trials).add (.stops notice) number trial =
      .error ⟨101, String.join (reports trials), notice⟩ := by
  have last : (exact trials).failed = Int32.maxValue := by
    rw [exact, int32_ofNat_eq_maxValue_iff (by omega)]
    exact full
  rw [add_eq, fails, if_neg Bool.false_ne_true, countFailure, if_pos last]
  rfl

/-- **All trials are reported**, if they are counted. -/
theorem ofTrials_exact (counts : overflow.Counts (failures trials)) :
    ofTrials overflow trials = .ok (exact trials) := by
  induction trials using List.reverseRecOn with
  | nil => rfl
  | append_singleton trials trial ih =>
    have fewer : failures trials ≤ failures (trials ++ [trial]) := by
      rw [failures_concat]
      exact Nat.le_add_right _ _
    rw [ofTrials_append, ih (counts.of_le fewer)]
    show (exact trials).add overflow (trials.length + 1) trial >>= .ok = _
    rw [add_exact counts]
    rfl

/-- **Where a program stops**, what comes later makes no difference. -/
theorem ofTrials_of_stop (full : failures before = 2 ^ 31 - 1) (fails : trial.passes = false) :
    ofTrials (.stops notice) (before ++ trial :: after) =
      .error ⟨101, String.join (reports before), notice⟩ := by
  have fits : Overflow.Counts (.stops notice) (failures before) := Or.inr (by omega)
  rw [ofTrials_append, ofTrials_exact fits]
  show (exact before).add _ (before.length + 1) trial >>= _ = _
  rw [add_exact_of_stop full fails]
  rfl

end Tally

/-! ### Outcomes -/

/-- **The outcome if all trials are counted.** The count is zero if no trial fails, but also if it has
wrapped around to zero. -/
theorem outcome_ofTrials (counts : overflow.Counts (failures trials)) :
    Outcome.ofTrials overflow trials =
      if 2 ^ 32 ∣ failures trials then .success (String.join (reports trials))
      else .failed (String.join (reports trials))
        (.failedTests (Int32.ofNat (failures trials)) trials.length) := by
  rw [Outcome.ofTrials, Tally.ofTrials_exact counts]
  show (if Int32.ofNat (failures trials) = 0 then _ else _) = _
  simp only [int32_ofNat_eq_zero_iff]
  rfl

/-- **The outcome if fewer than `2 ^ 31` trials fail.** -/
theorem outcome_ofTrials_of_few (few : failures trials < 2 ^ 31) :
    Outcome.ofTrials overflow trials =
      if failures trials = 0 then .success (String.join (reports trials))
      else .failed (String.join (reports trials))
        (.failedTests (Int32.ofNat (failures trials)) trials.length) := by
  have zero : 2 ^ 32 ∣ failures trials ↔ failures trials = 0 := by omega
  rw [outcome_ofTrials (Or.inr few)]
  simp only [zero]

/-- The place of a trial that fails after so many others. -/
theorem exists_append_cons_of_lt_failures (many : n < failures trials) :
    ∃ before trial after, trials = before ++ trial :: after ∧ failures before = n ∧
      trial.passes = false := by
  induction trials generalizing n with
  | nil => cases many
  | cons first trials ih =>
    cases passes : first.passes with
    | true =>
      have later (rest : List Trial) : failures (first :: rest) = failures rest := by
        simp [failures, passes]
      rw [later] at many
      obtain ⟨before, trial, after, rfl, failed, fails⟩ := ih many
      exact ⟨first :: before, trial, after, rfl, by rw [later, failed], fails⟩
    | false =>
      have later (rest : List Trial) : failures (first :: rest) = failures rest + 1 := by
        simp [failures, passes]
      cases n with
      | zero => exact ⟨[], first, trials, rfl, rfl, passes⟩
      | succ n =>
        rw [later] at many
        obtain ⟨before, trial, after, rfl, failed, fails⟩ := ih (Nat.lt_of_succ_lt_succ many)
        exact ⟨first :: before, trial, after, rfl, by rw [later, failed], fails⟩

/-- **The outcome if the program stops.** It has reported on all trials before the one that fails after
`2 ^ 31 - 1` others. -/
theorem outcome_ofTrials_of_stop (full : failures before = 2 ^ 31 - 1) (fails : trial.passes = false)
    (after : List Trial) (notice : String) :
    Outcome.ofTrials (.stops notice) (before ++ trial :: after) =
      ⟨101, String.join (reports before), notice⟩ := by
  rw [Outcome.ofTrials, Tally.ofTrials_of_stop full fails]

/-! ### Codes -/

/-- **Trials that do not all pass make the test fail**, if there are few of them. -/
theorem code_ofTrials_of_few (few : failures trials < 2 ^ 31) (some : failures trials ≠ 0) :
    (Outcome.ofTrials overflow trials).code = 1 := by
  rw [outcome_ofTrials_of_few few, if_neg some]
  rfl

/-- Where numbers wrap around, a test succeeds if its count comes to zero. -/
theorem code_ofTrials_wraps (trials : List Trial) :
    (Outcome.ofTrials .wraps trials).code = if 2 ^ 32 ∣ failures trials then 0 else 1 := by
  rw [outcome_ofTrials (Or.inl rfl)]
  split <;> rfl

theorem code_ofTrials_of_stop (many : 2 ^ 31 ≤ failures trials) (notice : String) :
    (Outcome.ofTrials (.stops notice) trials).code = 101 := by
  obtain ⟨before, trial, after, rfl, full, fails⟩ :=
    exists_append_cons_of_lt_failures (Nat.lt_of_lt_of_le (by decide : 2 ^ 31 - 1 < 2 ^ 31) many)
  rw [outcome_ofTrials_of_stop full fails]

/-! ### Trials that pass -/

/-- The reports on some number of trials that all pass. -/
def passReports (count : Nat) : String :=
  String.join ((List.range count).map fun index => "    #" ++ toString (index + 1) ++ " passed.\n")

theorem report_of_passes {trial : Trial} (passes : trial.passes = true) (number : Nat) :
    trial.report number = "    #" ++ toString number ++ " passed.\n" := by
  rw [Trial.report, if_pos passes]

/-- **Trials that all pass are reported as passed, one after another.** -/
theorem outcome_ofTrials_of_forall_passes (all : ∀ trial ∈ trials, trial.passes = true) :
    Outcome.ofTrials overflow trials = .success (passReports trials.length) := by
  have none : failures trials = 0 :=
    List.countP_eq_zero.mpr fun trial listed => by simp [all trial listed]
  have numbers : trials.zipIdx.map Prod.snd = List.range trials.length := by
    rw [List.zipIdx_map_snd, List.range_eq_range']
  have passed : reports trials =
      (List.range trials.length).map fun index =>
        "    #" ++ toString (index + 1) ++ " passed.\n" := by
    rw [← numbers, List.map_map]
    refine List.map_congr_left fun numbered listed => ?_
    exact report_of_passes (all _ (List.fst_mem_of_mem_zipIdx listed)) _
  rw [outcome_ofTrials_of_few (by omega), if_pos none, passed, passReports]

end PatternNfa.CommandLine
