/-
**Where a pattern is refused.**

A text that is refused is written like a pattern up to some piece. The piece is faulty: it begins as
a piece does, and at the place of the error it goes on as no piece goes on, or it is a group that is
never closed or holds nothing. So the reason and the place of an error can be read off the text.

* `Piece.Fault`: the faulty pieces, each cut at the place of its error;
* `readPiece_eq_error`, `exists_fault_of_readSegment`: the faults that the readers find;
* `exists_fault_of_compile_eq_error`: the text around the fault for which it is refused.
-/

import Mathlib.Data.List.TakeWhile
import PatternNfa.Proofs.Pattern.Alternatives

namespace PatternNfa

/-- **The faulty pieces.** A faulty piece is cut at the place of its error: it is fine before that
place, and there it goes on in a way that is wrong for the given reason. -/
inductive Piece.Fault : List Char → List Char → CompileError.Kind → Prop
  /-- No piece begins with the character. -/
  | unexpected {c : Char} {rest : List Char} : c ≠ '(' → CharClass.ofPatternChar? c = none →
      Fault [] (c :: rest) (.unexpectedChar c)
  /-- No parenthesis follows the one that opens the group. -/
  | unclosed {rest : List Char} : (∀ c ∈ rest, Pattern.isParenthesis c = false) →
      Fault [] ('(' :: rest) .unclosedGroup
  /-- The next parenthesis opens another group; what is between the two does not matter. -/
  | nested {body rest : List Char} : (∀ c ∈ body, Pattern.isParenthesis c = false) →
      Fault ('(' :: body) ('(' :: rest) .nestedGroup
  /-- The group is closed, but no literal begins with a character in it. -/
  | inside {literals : List Literal} {c : Char} {rest : List Char} : c ≠ '(' →
      CharClass.ofPatternChar? c = none →
      Fault ('(' :: literals.flatMap Literal.text) (c :: rest) (.unexpectedChar c)
  /-- The group is closed at once. -/
  | empty {rest : List Char} : Fault [] ('(' :: ')' :: rest) .emptyGroup
  /-- No star follows the group. -/
  | unstarred {first : Literal} {others : List Literal} {rest : List Char} :
      rest.head? ≠ some '*' →
      Fault ('(' :: (first :: others).flatMap Literal.text ++ [')']) rest .missingStar

namespace Pattern

variable {position : Nat} {c : Char} {text rest body after : List Char} {error : CompileError}

/-! ### The faults that are found -/

theorem readLiteral_eq_error (failed : readLiteral position c rest = .error error) :
    CharClass.ofPatternChar? c = none ∧ error = ⟨position, .unexpectedChar c⟩ := by
  unfold readLiteral at failed
  split at failed
  · rename_i noClass
    cases failed
    exact ⟨noClass, rfl⟩
  · cases failed
  · cases failed

/-- **Literals are refused for a character** with which no literal begins, after other literals. -/
theorem readLiterals_eq_error (failed : readLiterals position text = .error error) :
    ∃ (literals : List Literal) (c : Char) (rest : List Char),
      text = literals.flatMap Literal.text ++ c :: rest ∧ CharClass.ofPatternChar? c = none ∧
        error = ⟨position + (literals.flatMap Literal.text).length, .unexpectedChar c⟩ := by
  fun_induction readLiterals position text with
  | case1 => cases failed
  | case2 position c rest found read =>
    cases failed
    obtain ⟨noClass, rfl⟩ := readLiteral_eq_error read
    exact ⟨[], c, rest, rfl, noClass, rfl⟩
  | case3 position c rest literal after read ih =>
    obtain ⟨literals, next, more, rfl, noClass, rfl⟩ := ih (map_eq_error_iff.mp failed)
    refine ⟨literal :: literals, next, more, ?_, noClass, ?_⟩
    · rw [(readLiteral_eq_ok_iff.mp read).1, List.flatMap_cons, List.append_assoc]
    · rw [List.flatMap_cons, List.length_append, Nat.add_assoc]

/-- A group without a star after it is refused for that, whatever its literals are. -/
theorem readBody_unstarred {first : Literal} {others : List Literal}
    (read : readLiterals (position + 1) body = .ok (first :: others))
    (noStar : after.head? ≠ some '*') :
    readBody position body after = .error ⟨position + body.length + 2, .missingStar⟩ := by
  unfold readBody
  rw [read]
  split
  · contradiction
  · rename_i nothing
    cases nothing
  · exact absurd rfl noStar
  · rfl

/-- A group is refused for an error in its literals, for having none, or for the star that it
lacks. -/
theorem readBody_eq_error (plain : ∀ c ∈ body, isParenthesis c = false)
    (failed : readBody position body after = .error error) :
    ∃ good bad, '(' :: (body ++ ')' :: after) = good ++ bad ∧ Piece.Fault good bad error.kind ∧
      error.position = position + good.length := by
  cases read : readLiterals (position + 1) body with
  | error found =>
    unfold readBody at failed
    rw [read] at failed
    cases failed
    obtain ⟨literals, c, rest, rfl, noClass, rfl⟩ := readLiterals_eq_error read
    have notOpening : c ≠ '(' := by
      rintro rfl
      cases plain '(' (List.mem_append_right _ List.mem_cons_self)
    refine ⟨'(' :: literals.flatMap Literal.text, c :: (rest ++ ')' :: after), ?_,
      .inside notOpening noClass, ?_⟩
    · simp
    · rw [List.length_cons, Nat.add_assoc, Nat.add_comm 1]
  | ok literals =>
    have written : body = literals.flatMap Literal.text := readLiterals_eq_ok_iff.mp read
    cases literals with
    | nil =>
      unfold readBody at failed
      rw [read] at failed
      cases failed
      exact ⟨[], _, by rw [written]; rfl, .empty, rfl⟩
    | cons first others =>
      have noStar : after.head? ≠ some '*' := by
        intro star
        obtain ⟨rest, rfl⟩ := List.head?_eq_some_iff.mp star
        rw [readBody_eq_ok_iff.mpr ⟨first, others, rfl, written, rfl⟩] at failed
        cases failed
      rw [readBody_unstarred read noStar] at failed
      cases failed
      refine ⟨'(' :: body ++ [')'], after, by simp, ?_, by simp [Nat.add_assoc]⟩
      rw [written]
      exact .unstarred noStar

/-! ### The group -/

/-- The first parenthesis of a text, if it has one. -/
theorem exists_parenthesis (text : List Char) :
    (∀ c ∈ text, isParenthesis c = false) ∨
      ∃ body parenthesis after, text = body ++ parenthesis :: after ∧
        (∀ c ∈ body, isParenthesis c = false) ∧ (parenthesis = '(' ∨ parenthesis = ')') := by
  induction text with
  | nil => exact Or.inl fun _ inside => by cases inside
  | cons c text ih =>
    cases plain : isParenthesis c with
    | true =>
      refine Or.inr ⟨[], c, text, rfl, (fun _ inside => by cases inside), ?_⟩
      simpa [isParenthesis] using plain
    | false =>
      rcases ih with free | ⟨body, parenthesis, after, rfl, free, which⟩
      · exact Or.inl (List.forall_mem_cons.mpr ⟨plain, free⟩)
      · exact Or.inr ⟨c :: body, parenthesis, after, rfl, List.forall_mem_cons.mpr ⟨plain, free⟩, which⟩

theorem readGroup_of_plain (plain : ∀ c ∈ rest, isParenthesis c = false) :
    readGroup position rest = .error ⟨position, .unclosedGroup⟩ := by
  have skipped : (rest.dropWhile fun c => !isParenthesis c) = [] := by
    refine List.dropWhile_eq_nil_iff.mpr fun c inside => ?_
    rw [plain c inside]
    rfl
  unfold readGroup
  rw [skipped]

theorem readGroup_nested (plain : ∀ c ∈ body, isParenthesis c = false) :
    readGroup position (body ++ '(' :: after) =
      .error ⟨position + 1 + body.length, .nestedGroup⟩ := by
  have skipped : ∀ c ∈ body, (!isParenthesis c) = true := fun c inside => by
    rw [plain c inside]
    rfl
  unfold readGroup
  rw [List.takeWhile_append_of_pos skipped, List.dropWhile_append_of_pos skipped,
    List.takeWhile_cons_of_neg (by decide), List.dropWhile_cons_of_neg (by decide),
    List.append_nil]
  rfl

/-- **The faults of a group** follow the parenthesis that opens it. -/
theorem readGroup_eq_error (failed : readGroup position rest = .error error) :
    ∃ good bad, '(' :: rest = good ++ bad ∧ Piece.Fault good bad error.kind ∧
      error.position = position + good.length := by
  rcases exists_parenthesis rest with plain | ⟨body, parenthesis, after, rfl, plain, rfl | rfl⟩
  · rw [readGroup_of_plain plain] at failed
    cases failed
    exact ⟨[], _, rfl, .unclosed plain, rfl⟩
  · rw [readGroup_nested plain] at failed
    cases failed
    refine ⟨'(' :: body, '(' :: after, rfl, .nested plain, ?_⟩
    rw [List.length_cons, Nat.add_assoc, Nat.add_comm 1]
  · rw [readGroup_append plain] at failed
    exact readBody_eq_error plain failed

/-- **A piece is refused for a fault** that it has. -/
theorem readPiece_eq_error (failed : readPiece position c rest = .error error) :
    ∃ good bad, c :: rest = good ++ bad ∧ Piece.Fault good bad error.kind ∧
      error.position = position + good.length := by
  unfold readPiece at failed
  split at failed
  · rename_i opening
    rw [opening]
    exact readGroup_eq_error failed
  · rename_i notOpening
    obtain ⟨noClass, rfl⟩ := readLiteral_eq_error (map_eq_error_iff.mp failed)
    exact ⟨[], c :: rest, rfl, .unexpected notOpening noClass, rfl⟩

/-! ### The text before the fault -/

/-- An alternative is refused for the first piece with a fault. -/
theorem exists_fault_of_readSegment (failed : readSegment position text = .error error) :
    ∃ (pieces : Segment) (good bad : List Char), text = pieces.text ++ good ++ bad ∧
      Piece.Fault good bad error.kind ∧
        error.position = position + (pieces.text ++ good).length := by
  fun_induction readSegment position text with
  | case1 => cases failed
  | case2 position c rest found read =>
    cases failed
    obtain ⟨good, bad, written, fault, place⟩ := readPiece_eq_error read
    exact ⟨[], good, bad, written, fault, place⟩
  | case3 position c rest piece after read ih =>
    obtain ⟨pieces, good, bad, rfl, fault, place⟩ := ih (map_eq_error_iff.mp failed)
    have written : Segment.text (piece :: pieces) = piece.text ++ pieces.text := rfl
    refine ⟨piece :: pieces, good, bad, ?_, fault, ?_⟩
    · rw [(readPiece_eq_ok_iff.mp read).1, written]
      simp only [List.append_assoc]
    · rw [place, written]
      simp only [List.length_append, Nat.add_assoc]

end Pattern

/-- Alternatives as they are written before another one: each with the `U` that follows it. -/
def Segment.textBefore (segments : List Segment) : List Char :=
  segments.flatMap fun segment => segment.text ++ ['U']

theorem Segment.length_textBefore_cons (segment : Segment) (segments : List Segment) :
    (Segment.textBefore (segment :: segments)).length =
      segment.text.length + 1 + (Segment.textBefore segments).length := by
  rw [Segment.textBefore, List.flatMap_cons, List.length_append, List.length_append]
  rfl

namespace Pattern

/-- Alternatives are refused for the first one with a fault. -/
theorem exists_of_readSegments {position : Nat} {error : CompileError} {texts : List (List Char)}
    (failed : readSegments position texts = .error error) :
    ∃ (earlier : List Segment) (text : List Char) (later : List (List Char)),
      texts = earlier.map Segment.text ++ text :: later ∧
        readSegment (position + (Segment.textBefore earlier).length) text = .error error := by
  induction texts generalizing position with
  | nil => cases failed
  | cons text texts ih =>
    rw [readSegments] at failed
    cases read : readSegment position text with
    | error found =>
      rw [read] at failed
      cases failed
      exact ⟨[], text, texts, rfl, read⟩
    | ok segment =>
      rw [read] at failed
      obtain ⟨earlier, faulty, later, rfl, found⟩ := ih (map_eq_error_iff.mp failed)
      have written : text = segment.text := readSegment_eq_ok_iff.mp read
      refine ⟨segment :: earlier, faulty, later, by rw [written]; rfl, ?_⟩
      rw [Segment.length_textBefore_cons, ← found, written]
      simp only [Nat.add_assoc]

end Pattern

/-- **The text around the fault.** A text is refused for a faulty piece. Before it are other
alternatives and other pieces, which are written as they should be; the faulty piece is part of an
alternative, which goes on to a `U` or to the end of the text. -/
theorem exists_fault_of_compile_eq_error {source : String} {error : CompileError}
    (failed : compile source = .error error) :
    ∃ (earlier : List Segment) (pieces : Segment) (good bad after : List Char),
      source.toList = Segment.textBefore earlier ++ pieces.text ++ good ++ (bad ++ after) ∧
        error.position = (Segment.textBefore earlier ++ pieces.text ++ good).length ∧
          Piece.Fault good bad error.kind ∧ 'U' ∉ good ++ bad ∧
            (after = [] ∨ after.head? = some 'U') := by
  rw [compile_eq_map_readSegments, map_eq_error_iff] at failed
  obtain ⟨earlier, text, later, cut, found⟩ := Pattern.exists_of_readSegments failed
  obtain ⟨pieces, good, bad, rfl, fault, place⟩ := Pattern.exists_fault_of_readSegment found
  have written := Text.eq_of_fields_eq cut
  have free : 'U' ∉ pieces.text ++ good ++ bad := by
    intro inside
    have listed : pieces.text ++ good ++ bad ∈ Text.fields (· == 'U') source.toList := by
      rw [cut]
      exact List.mem_append_right _ List.mem_cons_self
    cases Text.not_separator_of_mem_fields listed inside
  refine ⟨earlier, pieces, good, bad, later.flatMap ('U' :: ·), ?_, ?_, fault, ?_, ?_⟩
  · rw [written, List.flatMap_map]
    simp only [Segment.textBefore, List.append_assoc]
  · rw [place]
    simp only [List.length_append, Nat.zero_add, Nat.add_assoc]
  · exact fun inside => free (by rw [List.append_assoc]; exact List.mem_append_right _ inside)
  · cases later with
    | nil => exact Or.inl rfl
    | cons => exact Or.inr rfl

end PatternNfa
