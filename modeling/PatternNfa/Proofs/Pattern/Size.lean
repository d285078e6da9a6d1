/-
**How large compiled automata are.**

The size of a compiled automaton can be read off its text: two states for each literal, one for each
star, and one for each alternative but the first, apart from the empty ones. Each literal has the one
transition that reads it. There are at most three transitions for each character, because a stretch
that a literal, a star or a group adds to a text pays for its links: there are no more links than
final states, and the final states are few as long as no group is inside another.

* `Assembled.size_add_one`, `Assembled.countP_read`: states, and transitions that read;
* `Assembled.length_transitions_add_le`: all transitions, with the final states to be linked yet;
* `compiled_size`: how large a compiled automaton is.
-/

import PatternNfa.Proofs.Automaton.Counting
import PatternNfa.Proofs.Pattern.Trim

namespace PatternNfa

open Automaton (reading)

variable {text first second : List Char} {source : String} {machine : Automaton}

/-! ### Alternatives that are not empty -/

/-- The number of stretches between the `U`s that are not empty. -/
def Pattern.countAlternatives (text : List Char) : Nat :=
  ((Text.fields (· == 'U') text).filter (· ≠ [])).length

namespace Pattern

theorem countAlternatives_append_cons (first second : List Char) :
    countAlternatives (first ++ 'U' :: second) =
      countAlternatives first + countAlternatives second := by
  rw [countAlternatives, Text.fields_append_cons, List.filter_append, List.length_append]
  rfl

theorem countAlternatives_of_not_mem (free : 'U' ∉ text) (nonempty : text ≠ []) :
    countAlternatives text = 1 := by
  simp [countAlternatives, Text.fields_of_not_mem free, nonempty]

theorem countAlternatives_U_cons (text : List Char) :
    countAlternatives ('U' :: text) = countAlternatives text :=
  (countAlternatives_append_cons [] text).trans (Nat.zero_add _)

theorem countAlternatives_append_U (text : List Char) :
    countAlternatives (text ++ ['U']) = countAlternatives text :=
  countAlternatives_append_cons text []

end Pattern

open Pattern

namespace Assembled

theorem ne_nil (assembled : Assembled text machine) : text ≠ [] := by
  induction assembled with
  | literal cls => exact List.cons_ne_nil _ _
  | starred cls => exact List.cons_ne_nil _ _
  | group => exact List.cons_ne_nil _ _
  | sequence _ _ _ _ nonempty _ => exact List.append_ne_nil_of_left_ne_nil nonempty _
  | alternatives _ _ nonempty _ => exact List.append_ne_nil_of_left_ne_nil nonempty _
  | emptyBefore => exact List.cons_ne_nil _ _
  | emptyAfter _ nonempty => exact List.append_ne_nil_of_left_ne_nil nonempty _

/-- A text without a `U` is one alternative. -/
theorem countAlternatives_eq_one (assembled : Assembled text machine) (free : 'U' ∉ text) :
    countAlternatives text = 1 :=
  countAlternatives_of_not_mem free assembled.ne_nil

/-- A group is one alternative. -/
theorem countAlternatives_group {body : List Char} (free : 'U' ∉ body) :
    countAlternatives ('(' :: body ++ [')', '*']) = 1 :=
  countAlternatives_of_not_mem (by simp [free]) (List.cons_ne_nil _ _)

/-- A sequence is one alternative. -/
theorem countAlternatives_sequence (assembled : Assembled first machine) (free : 'U' ∉ first)
    (otherFree : 'U' ∉ second) : countAlternatives (first ++ second) = 1 :=
  countAlternatives_of_not_mem
    (fun inside => (List.mem_append.mp inside).elim free otherFree)
    (List.append_ne_nil_of_left_ne_nil assembled.ne_nil _)

/-! ### States -/

/-- **The number of states**: two for each literal, one for each star, and one for each further
alternative. -/
theorem size_add_one (assembled : Assembled text machine) :
    machine.size + 1 =
      2 * (text.count 'a' + text.count 'd') + text.count '*' + countAlternatives text := by
  induction assembled with
  | literal cls => cases cls <;> rfl
  | starred cls => cases cls <;> rfl
  | group free _ body ih =>
    rw [body.countAlternatives_eq_one free] at ih
    rw [Automaton.size_star, countAlternatives_group free]
    simp only [List.cons_append, List.count_cons, List.count_append, List.count_nil, Char.reduceBEq,
      Bool.false_eq_true, if_false, if_true]
    omega
  | sequence free otherFree first second ih otherIh =>
    rw [first.countAlternatives_eq_one free] at ih
    rw [second.countAlternatives_eq_one otherFree] at otherIh
    rw [Automaton.size_concatenate, first.countAlternatives_sequence free otherFree]
    simp only [List.count_append]
    omega
  | alternatives _ _ ih otherIh =>
    rw [Automaton.size_union, countAlternatives_append_cons]
    simp only [List.count_append, List.count_cons, Char.reduceBEq, Bool.false_eq_true, if_false]
    omega
  | emptyBefore _ ih =>
    rw [countAlternatives_U_cons, ih]
    rfl
  | emptyAfter _ ih =>
    rw [countAlternatives_append_U, ih]
    simp only [List.count_append]
    rfl

/-! ### Transitions -/

/-- **Each literal has the one transition that reads it.** -/
theorem countP_read (assembled : Assembled text machine) (cls : CharClass) :
    machine.transitions.countP (·.symbol = .read cls) = text.count cls.patternChar := by
  induction assembled with
  | literal other => cases other <;> cases cls <;> decide +kernel
  | starred other => cases other <;> cases cls <;> decide +kernel
  | group _ _ body ih =>
    rw [Automaton.countP_read_star body.trim, ih]
    cases cls <;> simp [CharClass.patternChar]
  | sequence _ _ first second ih otherIh =>
    rw [Automaton.countP_read_concatenate first.trim.toWellFormed second.trim.toWellFormed, ih,
      otherIh, List.count_append]
  | alternatives first second ih otherIh =>
    rw [Automaton.countP_read_union first.trim.toWellFormed second.trim.toWellFormed, ih,
      otherIh, List.count_append]
    cases cls <;> simp [CharClass.patternChar]
  | emptyBefore _ ih =>
    rw [ih]
    cases cls <;> simp [CharClass.patternChar]
  | emptyAfter _ ih =>
    rw [ih, List.count_append]
    cases cls <;> simp [CharClass.patternChar]

/-- **The final states are few.** An alternative has two at most, and one more for each group, since
the body of a group has no groups. -/
theorem size_finals_le (assembled : Assembled text machine) :
    machine.finals.size ≤ 2 * countAlternatives text + text.count '(' := by
  induction assembled with
  | literal cls => cases cls <;> decide +kernel
  | starred cls => cases cls <;> decide +kernel
  | @group body machine free _ assembled ih =>
    have starred := machine.size_finals_star_le
    rw [assembled.countAlternatives_eq_one free] at ih
    rw [countAlternatives_group free]
    simp only [List.cons_append, List.count_cons, List.count_append, List.count_nil, Char.reduceBEq,
      Bool.false_eq_true, if_false, if_true]
    omega
  | @sequence _ _ machine other free otherFree first second _ otherIh =>
    have joined := machine.size_finals_concatenate_le other
    rw [second.countAlternatives_eq_one otherFree] at otherIh
    rw [first.countAlternatives_sequence free otherFree, List.count_append]
    omega
  | @alternatives _ _ machine other _ _ ih otherIh =>
    have joined := machine.size_finals_union_le other
    rw [countAlternatives_append_cons]
    simp only [List.count_append, List.count_cons, Char.reduceBEq, Bool.false_eq_true, if_false]
    omega
  | emptyBefore _ ih =>
    rw [countAlternatives_U_cons]
    exact ih
  | emptyAfter _ ih =>
    rw [countAlternatives_append_U, List.count_append]
    exact ih

/-- Without groups and without a `U` there are two final states at most. -/
theorem size_finals_le_two (assembled : Assembled text machine) (free : 'U' ∉ text)
    (ungrouped : '(' ∉ text) : machine.finals.size ≤ 2 := by
  have few := assembled.size_finals_le
  rwa [assembled.countAlternatives_eq_one free, List.count_eq_zero.mpr ungrouped] at few

/-- **Three transitions for each character**, also if every final state is linked once more. -/
theorem length_transitions_add_le (assembled : Assembled text machine) :
    machine.transitions.length + machine.finals.size ≤ 3 * text.length := by
  induction assembled with
  | literal cls => cases cls <;> decide +kernel
  | starred cls => cases cls <;> decide +kernel
  | @group body machine free ungrouped assembled ih =>
    have few := assembled.size_finals_le_two free ungrouped
    have starred := machine.size_finals_star_le
    rw [(Automaton.transitions_star_perm assembled.trim).length_eq]
    simp only [List.length_append, List.length_cons, List.length_nil, Automaton.links,
      List.length_map, Std.ExtTreeSet.length_toList]
    omega
  | @sequence _ _ machine other _ _ first second ih otherIh =>
    have joined := machine.size_finals_concatenate_le other
    rw [(Automaton.transitions_concatenate_perm first.trim.toWellFormed
      second.trim.toWellFormed).length_eq]
    simp only [List.length_append, Automaton.links, List.length_map, Std.ExtTreeSet.length_toList]
    omega
  | @alternatives _ _ machine other first second ih otherIh =>
    have joined := machine.size_finals_union_le other
    rw [(Automaton.transitions_union_perm first.trim.toWellFormed
      second.trim.toWellFormed).length_eq]
    simp only [List.length_append, List.length_cons, Automaton.forks, List.length_nil,
      List.length_map]
    omega
  | emptyBefore _ ih =>
    rw [List.length_cons]
    omega
  | emptyAfter _ ih =>
    rw [List.length_append]
    omega

end Assembled

/-- **How large a compiled automaton is.** The states, with one more, are two for each literal, one
for each star and one for each alternative that is not empty. Each transition is listed once; those
that read letters are as many as the `a`, those that read digits as many as the `d`, and there are
at most three for each character. -/
theorem compiled_size (compiled : compile source = .ok (some machine)) :
    machine.size + 1 = 2 * (source.toList.count 'a' + source.toList.count 'd') +
        source.toList.count '*' +
        ((Text.fields (· == 'U') source.toList).filter (· ≠ [])).length ∧
      machine.transitions.Nodup ∧
      machine.transitions.countP (·.symbol = .read .letter) = source.toList.count 'a' ∧
      machine.transitions.countP (·.symbol = .read .digit) = source.toList.count 'd' ∧
      machine.transitions.length ≤ 3 * source.length := by
  have assembled := assembled_of_compile compiled
  refine ⟨assembled.size_add_one, machine.nodup_transitions, assembled.countP_read .letter,
    assembled.countP_read .digit, ?_⟩
  exact (Nat.le_add_right _ _).trans assembled.length_transitions_add_le

/-- The pattern `U(ad*)*Ud` has an empty alternative, three literals, two stars and two alternatives
that are not empty: nine states. One of its transitions reads letters and two read digits. -/
theorem compiled_size_group_or_digit :
    ∃ machine, compile "U(ad*)*Ud" = .ok (some machine) ∧ machine.size = 9 ∧
      machine.transitions.countP (·.symbol = .read .letter) = 1 ∧
      machine.transitions.countP (·.symbol = .read .digit) = 2 ∧
      machine.transitions.length ≤ 27 := by
  have compiled : compile "U(ad*)*Ud" =
      .ok (some (((reading .letter).concatenate (reading .digit).star).star.union
        (reading .digit))) :=
    compile_eq_ok_iff.mpr
      ⟨⟨[], [[.group ⟨.letter, false⟩ [⟨.digit, true⟩]], [.literal ⟨.digit, false⟩]]⟩,
        by decide, rfl⟩
  obtain ⟨size, _, letters, digits, total⟩ := compiled_size compiled
  exact ⟨_, compiled, Nat.succ.inj (size.trans (by decide)), letters.trans (by decide),
    digits.trans (by decide), total⟩

end PatternNfa
