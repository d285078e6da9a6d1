/-
**A pattern is compiled alternative by alternative.**

An alternative is compiled in a pattern as it is compiled by itself. The automaton of the pattern is
the union of the automata of the alternatives that are not empty, joined from left to right. If some
alternatives are refused, then the pattern is refused for the first of them, at a place that is
further on by the alternatives before it, each with the `U` that follows it.

* `readSegments_eq_error`: the first alternative with an error decides;
* `compile_eq_map_readSegments`, `compile_of_not_mem`: a text is read alternative by alternative;
* `compile_intercalate_eq_ok`, `compile_intercalate_eq_error`: alternatives with a `U` between them;
* `compile_alternatives`: results and errors of a pattern, by those of its alternatives.
-/

import Mathlib.Algebra.Ring.Nat
import PatternNfa.Proofs.Pattern.Forms
import PatternNfa.Proofs.Pattern.Positions

namespace PatternNfa

/-! ### Reading -/

/-- **The first alternative with an error decides**, and its error is found further on by what is
before it. -/
theorem Pattern.readSegments_eq_error {before after : List (List Char)} {text : List Char}
    {error : CompileError} (position : Nat)
    (each : ∀ earlier ∈ before, ∃ segment, readSegment 0 earlier = .ok segment)
    (failed : readSegment 0 text = .error error) :
    readSegments position (before ++ text :: after) =
      .error (error.shift (position + (before.map fun earlier => earlier.length + 1).sum)) := by
  induction before generalizing position with
  | nil =>
    rw [List.nil_append, readSegments, readSegment_eq_mapError, failed]
    rfl
  | cons earlier before ih =>
    obtain ⟨segment, read⟩ := each earlier List.mem_cons_self
    have later := ih (position + earlier.length + 1) fun text listed =>
      each text (List.mem_cons_of_mem earlier listed)
    rw [List.cons_append, readSegments, readSegment_eq_mapError, read]
    dsimp only [Except.mapError]
    rw [later, List.map_cons, List.sum_cons, Nat.add_assoc position, Nat.add_assoc position]
    rfl

/-! ### Texts of alternatives -/

variable {source : String} {texts : List String}

/-- A text is compiled by reading its stretches one after another. -/
theorem compile_eq_map_readSegments (source : String) :
    compile source = (Pattern.readSegments 0 (Text.fields (· == 'U') source.toList)).map
      fun segments => Automaton.joinAll Automaton.union (segments.filterMap Segment.machine?) := by
  unfold compile Pattern.parse Text.fields
  obtain ⟨head, tail⟩ := Text.splitWhere (· == 'U') source.toList
  dsimp only
  rw [Pattern.readSegments, Nat.zero_add]
  cases Pattern.readSegment 0 head with
  | error error => rfl
  | ok segment => cases Pattern.readSegments (head.length + 1) tail <;> rfl

/-- The alternatives of a text that is written with a `U` between them. -/
theorem fields_intercalate (nonempty : texts ≠ []) (free : ∀ text ∈ texts, 'U' ∉ text.toList) :
    Text.fields (· == 'U') ("U".intercalate texts).toList = texts.map String.toList := by
  induction texts with
  | nil => contradiction
  | cons first rest ih =>
    have alone : Text.fields (· == 'U') first.toList = [first.toList] :=
      Text.fields_of_not_mem (free first List.mem_cons_self)
    cases rest with
    | nil =>
      rw [String.intercalate_singleton, alone]
      rfl
    | cons next rest =>
      have written : ("U".intercalate (first :: next :: rest)).toList =
          first.toList ++ 'U' :: ("U".intercalate (next :: rest)).toList := by
        rw [String.intercalate_cons_cons]
        simp only [String.toList_append, List.append_assoc]
        rfl
      have later := ih (List.cons_ne_nil _ _) fun text listed =>
        free text (List.mem_cons_of_mem first listed)
      rw [written, Text.fields_append_cons, alone, later]
      rfl

/-- A text without a `U` is a single alternative. -/
theorem compile_of_not_mem (free : 'U' ∉ source.toList) :
    compile source = (Pattern.readSegment 0 source.toList).map Segment.machine? := by
  have alone (segment : Segment) :
      Automaton.joinAll Automaton.union ([segment].filterMap Segment.machine?) =
        segment.machine? := by
    cases built : segment.machine? <;> simp [built, Automaton.joinAll]
  rw [compile_eq_map_readSegments, Text.fields_of_not_mem free, Pattern.readSegments]
  cases Pattern.readSegment 0 source.toList with
  | error error => rfl
  | ok segment => exact congrArg Except.ok (alone segment)

/-- An alternative is refused for the error that is found when it is read. -/
theorem compile_eq_error_iff_of_not_mem (free : 'U' ∉ source.toList) {error : CompileError} :
    compile source = .error error ↔ Pattern.readSegment 0 source.toList = .error error := by
  rw [compile_of_not_mem free, map_eq_error_iff]

/-- An alternative has the automaton of the pieces that are written. -/
theorem compile_eq_ok_iff_of_not_mem (free : 'U' ∉ source.toList) {built : Option Automaton} :
    compile source = .ok built ↔
      ∃ segment : Segment, source.toList = segment.text ∧ segment.machine? = built := by
  rw [compile_of_not_mem free, map_eq_ok_iff]
  simp only [Pattern.readSegment_eq_ok_iff]

theorem exists_text_of_compiled (free : 'U' ∉ source.toList)
    (compiled : ∃ built, compile source = .ok built) :
    ∃ segment : Segment, segment.text = source.toList := by
  obtain ⟨built, compiled⟩ := compiled
  obtain ⟨segment, written, _⟩ := (compile_eq_ok_iff_of_not_mem free).mp compiled
  exact ⟨segment, written.symm⟩

/-- What is written for an alternative is compiled to its automaton. -/
theorem compile_ofList_text (segment : Segment) :
    compile (String.ofList segment.text) = .ok segment.machine? := by
  have free : 'U' ∉ (String.ofList segment.text).toList := by
    rw [String.toList_ofList]
    exact segment.not_mem_text
  exact (compile_eq_ok_iff_of_not_mem free).mpr ⟨segment, String.toList_ofList, rfl⟩

/-! ### Results and errors -/

/-- Joining from left to right adds one automaton at a time to those that have been joined. -/
theorem Automaton.joinAll_eq_foldl (join : Automaton → Automaton → Automaton)
    (machines : List Automaton) :
    joinAll join machines =
      machines.foldl (fun joined machine => some (joined.elim machine (join · machine))) none := by
  have begun (first : Automaton) (rest : List Automaton) :
      rest.foldl (fun joined machine => some (joined.elim machine (join · machine))) (some first) =
        some (rest.foldl join first) := by
    induction rest generalizing first with
    | nil => rfl
    | cons machine rest ih => exact ih (join first machine)
  cases machines with
  | nil => rfl
  | cons first rest => exact (begun first rest).symm

/-- The alternatives that have automata are those that are not empty. -/
theorem forall₂_compile_filterMap {segments : List Segment}
    (free : ∀ text ∈ texts, 'U' ∉ text.toList)
    (written : segments.map Segment.text = texts.map String.toList) :
    List.Forall₂ (fun text machine => compile text = .ok (some machine))
      (texts.filter (· ≠ "")) (segments.filterMap Segment.machine?) := by
  induction texts generalizing segments with
  | nil =>
    rw [List.map_eq_nil_iff.mp written]
    exact .nil
  | cons text texts ih =>
    obtain ⟨segment, others, rfl, heads, tails⟩ := List.map_eq_cons_iff.mp written
    have later := ih (fun other listed => free other (List.mem_cons_of_mem text listed)) tails
    by_cases isEmpty : segment = []
    · have noText : text = "" := by
        rw [isEmpty] at heads
        exact String.toList_eq_nil_iff.mp heads.symm
      rw [isEmpty, noText]
      exact later
    · obtain ⟨machine, built⟩ := Segment.exists_machine isEmpty
      have someText : text ≠ "" := by
        rintro rfl
        exact isEmpty (Segment.text_eq_nil_iff.mp heads)
      have compiled : compile text = .ok (some machine) :=
        (compile_eq_ok_iff_of_not_mem (free text List.mem_cons_self)).mpr ⟨segment, heads.symm, built⟩
      rw [List.filterMap_cons_some built, List.filter_cons, if_pos (decide_eq_true someText)]
      exact .cons compiled later

/-- **Alternatives that are compiled by themselves** are compiled together, to the automata of those
that are not empty, joined from left to right. -/
theorem compile_intercalate_eq_ok (nonempty : texts ≠ []) (free : ∀ text ∈ texts, 'U' ∉ text.toList)
    (each : ∀ text ∈ texts, ∃ built, compile text = .ok built) :
    ∃ machines, List.Forall₂ (fun text machine => compile text = .ok (some machine))
        (texts.filter (· ≠ "")) machines ∧
      compile ("U".intercalate texts) = .ok (Automaton.joinAll Automaton.union machines) := by
  obtain ⟨segments, written⟩ : ∃ segments : List Segment,
      segments.map Segment.text = texts.map String.toList := by
    refine exists_map_eq_iff.mpr fun _ listed => ?_
    obtain ⟨text, member, rfl⟩ := List.mem_map.mp listed
    exact exists_text_of_compiled (free text member) (each text member)
  refine ⟨segments.filterMap Segment.machine?, forall₂_compile_filterMap free written, ?_⟩
  rw [compile_eq_map_readSegments, fields_intercalate nonempty free,
    Pattern.readSegments_eq_ok_iff.mpr written.symm]
  rfl

/-- **The first alternative that is refused by itself** is what all of them together are refused
for. -/
theorem compile_intercalate_eq_error {before after : List String} {text : String}
    {error : CompileError} (free : ∀ part ∈ before ++ text :: after, 'U' ∉ part.toList)
    (each : ∀ earlier ∈ before, ∃ built, compile earlier = .ok built)
    (failed : compile text = .error error) :
    compile ("U".intercalate (before ++ text :: after)) =
      .error (error.shift (before.map fun earlier => earlier.length + 1).sum) := by
  have textFailed : Pattern.readSegment 0 text.toList = .error error :=
    (compile_eq_error_iff_of_not_mem (free text (by simp))).mp failed
  have eachRead : ∀ earlier ∈ before.map String.toList,
      ∃ segment, Pattern.readSegment 0 earlier = .ok segment := by
    intro _ listed
    obtain ⟨earlier, member, rfl⟩ := List.mem_map.mp listed
    have earlierFree := free earlier (List.mem_append_left _ member)
    obtain ⟨segment, written⟩ := exists_text_of_compiled earlierFree (each earlier member)
    exact ⟨segment, Pattern.readSegment_eq_ok_iff.mpr written.symm⟩
  rw [compile_eq_map_readSegments, fields_intercalate (by simp) free, List.map_append,
    List.map_cons, Pattern.readSegments_eq_error 0 eachRead textFailed, Nat.zero_add, List.map_map]
  simp only [Function.comp_def, String.length_toList]
  rfl

/-- **A pattern has the results and the errors of its alternatives.** The first alternative that is
refused by itself decides, at its place in the whole text. If there is none, the automata of those
that are not empty are joined from left to right. -/
theorem compile_alternatives {first : String} {rest : List String}
    (free : ∀ text ∈ first :: rest, 'U' ∉ text.toList) :
    (∀ before text after error, first :: rest = before ++ text :: after →
        (∀ earlier ∈ before, ∃ built, compile earlier = .ok built) →
        compile text = .error error →
        compile ("U".intercalate (first :: rest)) =
          .error ⟨error.position + (before.map fun earlier => earlier.length + 1).sum,
            error.kind⟩) ∧
      ((∀ text ∈ first :: rest, ∃ built, compile text = .ok built) →
        ∃ machines, List.Forall₂ (fun text machine => compile text = .ok (some machine))
            ((first :: rest).filter (· ≠ "")) machines ∧
          compile ("U".intercalate (first :: rest)) =
            .ok (machines.foldl
              (fun joined machine => some (joined.elim machine (·.union machine))) none)) := by
  constructor
  · intro before text after error cut each failed
    rw [cut] at free ⊢
    exact compile_intercalate_eq_error free each failed
  · intro each
    obtain ⟨machines, built, joined⟩ :=
      compile_intercalate_eq_ok (List.cons_ne_nil first rest) free each
    rw [Automaton.joinAll_eq_foldl] at joined
    exact ⟨machines, built, joined⟩

/-- The pattern `ad*UUdéU(` is refused for the `é`, although the `(` after it is never closed, and
`aUUd*` is compiled to a union. -/
theorem compile_alternatives_third :
    compile ("U".intercalate ["ad*", "", "dé", "("]) = .error ⟨6, .unexpectedChar 'é'⟩ ∧
      compile ("U".intercalate ["a", "", "d*"]) =
        .ok (some ((Automaton.reading .letter).union (Automaton.reading .digit).star)) := by
  constructor
  · have failed : compile "dé" = .error ⟨1, .unexpectedChar 'é'⟩ := by
      have accent : Pattern.readSegment 1 ['é'] = .error ⟨1, .unexpectedChar 'é'⟩ :=
        Pattern.readSegment_eq_error rfl
      rw [compile_eq_error_iff_of_not_mem (by decide)]
      show Pattern.readSegment 0 ['d', 'é'] = _
      rw [Pattern.readSegment_eq_bind]
      show (Pattern.readSegment 1 ['é']).map _ = _
      rw [accent]
      rfl
    have each : ∀ earlier ∈ ["ad*", ""], ∃ built, compile earlier = .ok built := by
      intro earlier listed
      rcases List.mem_pair.mp listed with rfl | rfl
      · exact ⟨_, compile_ofList_text [.literal ⟨.letter, false⟩, .literal ⟨.digit, true⟩]⟩
      · exact ⟨_, compile_ofList_text []⟩
    exact (compile_alternatives (by decide)).1 ["ad*", ""] "dé" ["("] _ rfl each failed
  · have letter : compile "a" = .ok (some (Automaton.reading .letter)) :=
      compile_ofList_text [.literal ⟨.letter, false⟩]
    have digits : compile "d*" = .ok (some (Automaton.reading .digit).star) :=
      compile_ofList_text [.literal ⟨.digit, true⟩]
    have each : ∀ text ∈ ["a", "", "d*"], ∃ built, compile text = .ok built := by
      intro text listed
      simp only [List.mem_cons, List.not_mem_nil, or_false] at listed
      rcases listed with rfl | rfl | rfl
      · exact ⟨_, letter⟩
      · exact ⟨_, compile_ofList_text []⟩
      · exact ⟨_, digits⟩
    obtain ⟨machines, built, joined⟩ := (compile_alternatives (by decide)).2 each
    have nonempty : ["a", "", "d*"].filter (· ≠ "") = ["a", "d*"] := by decide
    rw [nonempty] at built
    rcases built with _ | ⟨firstBuilt, _ | ⟨secondBuilt, _ | _⟩⟩
    rw [letter] at firstBuilt
    rw [digits] at secondBuilt
    cases firstBuilt
    cases secondBuilt
    exact joined

end PatternNfa
