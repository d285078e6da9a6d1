/-
**How far a refused text is right.**

A text can be completed if it is the beginning of a text that is compiled. What is before the place of
an error can be completed, whatever the error is, with one exception: a nested group is reported
before the text of the group that it is in is looked at. There the place of the error tells only that
no parenthesis comes between the two groups, and not that what comes between them is right.

* `Segment.exists_text_eq_append`: what is before a faulty piece is a pattern;
* `exists_literals_of_completable`: what can follow an opening parenthesis;
* `completable_take_iff`: when the text before an error can be completed;
* `not_completable_nested`: a text before an error that cannot be completed.
-/

import PatternNfa.Proofs.Pattern.Faults
import PatternNfa.Proofs.Pattern.Sequences

namespace PatternNfa

open CompileError
open scoped Computability

/-- **A text can be completed** if it is the beginning of a text that is compiled. -/
def Completable (text : List Char) : Prop :=
  ∃ (more : String) (built : Option Automaton), compile (String.ofList text ++ more) = .ok built

theorem completable_iff {text : List Char} :
    Completable text ↔ ∃ (more : List Char) (pattern : Pattern), pattern.text = text ++ more := by
  simp only [Completable, compile_eq_ok_iff, String.toList_append, String.toList_ofList]
  constructor
  · rintro ⟨more, _, pattern, written, _⟩
    exact ⟨more.toList, pattern, written⟩
  · rintro ⟨more, pattern, written⟩
    exact ⟨String.ofList more, _, pattern, by rw [written, String.toList_ofList], rfl⟩

variable {earlier : List Segment} {pieces : Segment} {good bad body more : List Char}

/-! ### Texts that can be completed -/

/-- Alternatives are a pattern when one more comes after those that are followed by a `U`. -/
theorem Segment.exists_text_eq_append (earlier : List Segment) (pieces : Segment) :
    ∃ pattern : Pattern, pattern.text = Segment.textBefore earlier ++ pieces.text := by
  obtain ⟨first, rest, all⟩ := List.exists_cons_of_ne_nil
    (List.append_ne_nil_of_right_ne_nil earlier (List.cons_ne_nil pieces []))
  have texts : first.text :: rest.map Segment.text = earlier.map Segment.text ++ [pieces.text] := by
    rw [← List.map_cons, ← all, List.map_append, List.map_singleton]
  have written : first.text ++ (rest.map Segment.text).flatMap ('U' :: ·) =
      (earlier.map Segment.text).flatMap (· ++ ['U']) ++ pieces.text ++ [].flatMap ('U' :: ·) :=
    Text.append_flatMap_eq texts
  refine ⟨⟨first, rest⟩, ?_⟩
  rw [List.flatMap_map, List.flatMap_map, List.flatMap_nil, List.append_nil] at written
  exact written

/-- What begins a piece can be completed by the rest of the piece. -/
theorem completable_of_piece {piece : Piece} (written : piece.text = good ++ more) :
    Completable (Segment.textBefore earlier ++ pieces.text ++ good) := by
  obtain ⟨pattern, text⟩ := Segment.exists_text_eq_append earlier (pieces ++ [piece])
  refine completable_iff.mpr ⟨more, pattern, ?_⟩
  rw [text, Segment.text, List.flatMap_append, List.flatMap_singleton, written]
  simp only [Segment.text, List.append_assoc]

/-- A group can begin with any literals, even with none. -/
theorem Piece.exists_text_eq_append_literals (literals : List Literal) :
    ∃ (piece : Piece) (more : List Char),
      piece.text = '(' :: literals.flatMap Literal.text ++ more := by
  obtain ⟨first, others, all⟩ := List.exists_cons_of_ne_nil
    (List.append_ne_nil_of_right_ne_nil literals (List.cons_ne_nil (⟨.letter, false⟩ : Literal) []))
  refine ⟨.group first others, ['a', ')', '*'], ?_⟩
  rw [Piece.text, ← all, List.flatMap_append]
  simp [Literal.text, CharClass.patternChar]

/-- **A faulty piece begins like a piece**, unless it is a group in which another one is opened. -/
theorem Piece.Fault.exists_text_eq_append {kind : Kind} (fault : Piece.Fault good bad kind)
    (notNested : kind ≠ .nestedGroup) :
    ∃ (piece : Piece) (more : List Char), piece.text = good ++ more := by
  have any : ∃ (piece : Piece) (more : List Char), piece.text = [] ++ more :=
    ⟨.literal ⟨.letter, false⟩, _, rfl⟩
  cases fault with
  | unexpected => exact any
  | unclosed => exact any
  | nested => exact absurd rfl notNested
  | @inside literals => exact Piece.exists_text_eq_append_literals literals
  | empty => exact any
  | @unstarred first others => exact ⟨.group first others, ['*'], by simp [Piece.text]⟩

/-! ### Texts that cannot be completed -/

/-- What begins a text of literals is itself a text of literals. -/
theorem exists_literals_of_append {literals : List Literal}
    (written : literals.flatMap Literal.text = body ++ more) :
    ∃ others : List Literal, others.flatMap Literal.text = body := by
  induction literals generalizing body with
  | nil => exact ⟨[], (List.append_eq_nil_iff.mp written.symm).1.symm⟩
  | cons literal literals ih =>
    cases body with
    | nil => exact ⟨[], rfl⟩
    | cons c body =>
      obtain ⟨cls, _ | _⟩ := literal
      · obtain ⟨rfl, tail⟩ := List.cons.inj written
        obtain ⟨others, rfl⟩ := ih tail
        exact ⟨⟨cls, false⟩ :: others, rfl⟩
      · obtain ⟨rfl, starred⟩ := List.cons.inj written
        cases body with
        | nil => exact ⟨[⟨cls, false⟩], rfl⟩
        | cons star body =>
          obtain ⟨rfl, tail⟩ := List.cons.inj starred
          obtain ⟨others, rfl⟩ := ih tail
          exact ⟨⟨cls, true⟩ :: others, rfl⟩

/-- A stretch that begins with an opening parenthesis is that of a group, so literals come first. -/
theorem Segment.exists_literals {segment : Segment} (closed : ')' ∉ body)
    (written : segment.text = '(' :: body ++ more) :
    ∃ literals : List Literal, literals.flatMap Literal.text = body := by
  cases segment with
  | nil => cases written
  | cons piece others =>
    cases piece with
    | literal single =>
      obtain ⟨⟨_ | _⟩, starred⟩ := single
      · cases (List.cons.inj written).1
      · cases (List.cons.inj written).1
    | group first rest =>
      have whole : Segment.text (.group first rest :: others) =
          '(' :: ((first :: rest).flatMap Literal.text ++ ')' :: '*' :: Segment.text others) := by
        simp [Segment.text, Piece.text]
      have inner : (first :: rest).flatMap Literal.text ++ ')' :: '*' :: Segment.text others =
          body ++ more := (List.cons.inj (whole.symm.trans written)).2
      rcases List.append_eq_append_iff.mp inner with ⟨tail, rfl, next⟩ | ⟨tail, literals, _⟩
      · cases tail with
        | nil => exact ⟨first :: rest, by rw [List.append_nil]⟩
        | cons c tail =>
          obtain ⟨rfl, _⟩ := List.cons.inj next
          exact absurd (List.mem_append_right _ List.mem_cons_self) closed
      · exact exists_literals_of_append literals

/-- What follows some pieces of an alternative is an alternative, unless it would star the last of
them. -/
theorem Segment.exists_text_of_append {segment : Segment} {after : List Char}
    (ends : pieces.Ends after) (written : segment.text = pieces.text ++ after) :
    ∃ rest : Segment, rest.text = after := by
  have read : Pattern.readSegment 0 (pieces.text ++ after) = .ok segment :=
    Pattern.readSegment_eq_ok_iff.mpr written.symm
  rw [Pattern.readSegment_text_append 0 ends] at read
  obtain ⟨rest, restRead, _⟩ := map_eq_ok_iff.mp read
  exact ⟨rest, (Pattern.readSegment_eq_ok_iff.mp restRead).symm⟩

/-- The stretches of a text that begins with alternatives. -/
theorem Segment.fields_textBefore_append (earlier : List Segment) (text : List Char) :
    Text.fields (· == 'U') (Segment.textBefore earlier ++ text) =
      earlier.map Segment.text ++ Text.fields (· == 'U') text := by
  induction earlier with
  | nil => rfl
  | cons segment earlier ih =>
    have written : Segment.textBefore (segment :: earlier) ++ text =
        segment.text ++ 'U' :: (Segment.textBefore earlier ++ text) := by
      simp [Segment.textBefore]
    rw [written, Text.fields_append_cons, Text.fields_of_not_mem segment.not_mem_text, ih]
    rfl

/-- **Only literals can follow an opening parenthesis** up to the next parenthesis or `U`. -/
theorem exists_literals_of_completable (closed : ')' ∉ body) (free : 'U' ∉ body)
    (completable : Completable (Segment.textBefore earlier ++ pieces.text ++ '(' :: body)) :
    ∃ literals : List Literal, literals.flatMap Literal.text = body := by
  obtain ⟨more, pattern, written⟩ := completable_iff.mp completable
  have begins : 'U' ∉ pieces.text ++ '(' :: body := by
    simp [pieces.not_mem_text, free]
  -- The alternative that the group is in goes on to the first `U` of what completes the text.
  have stretch : pieces.text ++ '(' :: body ++ (Text.splitWhere (· == 'U') more).1 ∈
      pattern.segments.map Segment.text := by
    rw [← pattern.fields_text, written, List.append_assoc, List.append_assoc,
      Segment.fields_textBefore_append, ← List.append_assoc, Text.fields,
      Text.splitWhere_append begins]
    exact List.mem_append_right _ List.mem_cons_self
  obtain ⟨segment, _, text⟩ := List.mem_map.mp stretch
  rw [List.append_assoc] at text
  have ends : pieces.Ends ('(' :: body ++ (Text.splitWhere (· == 'U') more).1) :=
    Segment.ends_of_parted (Or.inl (by simp))
  obtain ⟨group, groupText⟩ := Segment.exists_text_of_append ends text
  exact group.exists_literals closed groupText

/-! ### The text before an error -/

/-- The last parenthesis of a text parts it in one way only. -/
theorem eq_of_append_opening {first second rest : List Char} (plain : '(' ∉ body)
    (secondPlain : '(' ∉ rest) (same : first ++ '(' :: body = second ++ '(' :: rest) :
    body = rest := by
  rcases List.append_eq_append_iff.mp same with ⟨tail, _, next⟩ | ⟨tail, _, next⟩
  · cases tail with
    | nil => exact (List.cons.inj next).2
    | cons c tail =>
      obtain ⟨_, inside⟩ := List.cons.inj next
      exact absurd (inside ▸ List.mem_append_right _ List.mem_cons_self) plain
  · cases tail with
    | nil => exact (List.cons.inj next).2.symm
    | cons c tail =>
      obtain ⟨_, inside⟩ := List.cons.inj next
      exact absurd (inside ▸ List.mem_append_right _ List.mem_cons_self) secondPlain

/-- **When the text before an error can be completed.** It always can, unless a group in another one is
reported: then it can if the text between the two parentheses is one of literals. -/
theorem completable_take_iff {source : String} {error : CompileError}
    (failed : compile source = .error error) :
    Completable (source.toList.take error.position) ↔
      (error.kind = .nestedGroup → ∀ before body,
        source.toList.take error.position = before ++ '(' :: body → '(' ∉ body →
          body ∈ literalForms∗) := by
  obtain ⟨earlier, pieces, good, bad, after, written, place, fault, free, _⟩ :=
    exists_fault_of_compile_eq_error failed
  have before : source.toList.take error.position =
      Segment.textBefore earlier ++ pieces.text ++ good := by
    rw [written, place, List.take_left]
  rw [before]
  by_cases nested : error.kind = .nestedGroup
  · rw [nested] at fault
    rcases fault with _ | _ | ⟨plain⟩
    rename_i body rest
    have notOpening : '(' ∉ body := fun inside => by cases plain '(' inside
    have notClosing : ')' ∉ body := fun inside => by cases plain ')' inside
    have bodyFree : 'U' ∉ body := fun inside =>
      free (List.mem_append_left _ (List.mem_cons_of_mem _ inside))
    constructor
    · intro completable _ first body' parted plain'
      obtain ⟨literals, text⟩ := exists_literals_of_completable notClosing bodyFree completable
      rw [← eq_of_append_opening notOpening plain' parted]
      exact (mem_kstar_forms_iff fun _ => mem_literalForms_iff).mpr ⟨literals, text⟩
    · intro right
      have forms := right nested _ body rfl notOpening
      obtain ⟨literals, rfl⟩ := (mem_kstar_forms_iff fun _ => mem_literalForms_iff).mp forms
      obtain ⟨piece, more, begins⟩ := Piece.exists_text_eq_append_literals literals
      exact completable_of_piece begins
  · obtain ⟨piece, more, begins⟩ := fault.exists_text_eq_append nested
    exact iff_of_true (completable_of_piece begins) fun same => absurd same nested

/-- Before the nested group in `d(a*(` is a text of literals, so the text up to there can be
completed. -/
theorem completable_take_literals :
    compile "d(a*(" = .error ⟨4, .nestedGroup⟩ ∧ Completable ("d(a*(".toList.take 4) := by
  have failed : compile "d(a*(" = .error ⟨4, .nestedGroup⟩ := by decide +kernel
  refine ⟨failed, (completable_take_iff failed).mpr fun _ before body parted plain => ?_⟩
  have opened : ['d'] ++ '(' :: ['a', '*'] = before ++ '(' :: body := parted
  have between : ['a', '*'] = body := eq_of_append_opening (by decide) plain opened
  rw [← between]
  exact (mem_kstar_forms_iff fun _ => mem_literalForms_iff).mpr ⟨[⟨.letter, true⟩], rfl⟩

/-- **A text before an error that cannot be completed.** The group in `(x(d)*` is reported for the one
that is opened in it, although the `x` before that is wrong already. -/
theorem not_completable_nested :
    compile "(x(d)*" = .error ⟨2, .nestedGroup⟩ ∧ ¬ Completable ("(x(d)*".toList.take 2) := by
  refine ⟨by decide +kernel, fun completable => ?_⟩
  have begins : Completable (Segment.textBefore [] ++ Segment.text [] ++ '(' :: ['x']) := completable
  obtain ⟨literals, text⟩ := exists_literals_of_completable (by decide) (by decide) begins
  have inside : 'x' ∈ literals.flatMap Literal.text := text ▸ List.mem_cons_self
  exact absurd (flatMap_literal_text_subset literals inside) (by decide)

end PatternNfa
