/-
**What is read is what is written.**

Each reader finds a part exactly where the part is written, wherever that is in the whole text. A
literal without a star is not found where a star follows, so a text is written in at most one way.
A `U` is written between alternatives only, so that cutting the text at every `U` first loses
nothing.

* `readLiterals_eq_ok_iff`, `readPiece_eq_ok_iff`, `readSegment_eq_ok_iff`: literals, a piece, an
  alternative;
* `parse_eq_ok_iff`: a text is read as a pattern if it is the written form of the pattern;
* `text_injective`: a text is the written form of at most one pattern.
-/

import PatternNfa.Pattern.Reading
import PatternNfa.Proofs.Text.Fields

namespace PatternNfa

theorem map_eq_ok_iff {ε α β : Type} {f : α → β} {result : Except ε α} {value : β} :
    result.map f = .ok value ↔ ∃ found, result = .ok found ∧ f found = value := by
  cases result <;> simp [Except.map]

/-! ### Characters of the written form -/

theorem Literal.text_subset (literal : Literal) : literal.text ⊆ ['a', 'd', '*'] := by
  obtain ⟨cls, starred⟩ := literal
  cases cls <;> cases starred <;> decide

theorem flatMap_literal_text_subset (literals : List Literal) :
    literals.flatMap Literal.text ⊆ ['a', 'd', '*'] := by
  intro c inside
  obtain ⟨literal, _, inside⟩ := List.mem_flatMap.mp inside
  exact literal.text_subset inside

theorem Piece.text_subset (piece : Piece) : piece.text ⊆ ['(', ')', 'a', 'd', '*'] := by
  have inner : ['a', 'd', '*'] ⊆ ['(', ')', 'a', 'd', '*'] := by decide
  cases piece with
  | literal single => exact List.Subset.trans single.text_subset inner
  | group first rest =>
    have body := List.Subset.trans (flatMap_literal_text_subset (first :: rest)) inner
    exact List.append_subset.mpr ⟨List.cons_subset.mpr ⟨by decide, body⟩, by decide⟩

theorem Piece.text_ne_nil (piece : Piece) : piece.text ≠ [] := by
  cases piece <;> exact List.cons_ne_nil _ _

/-- Only an empty alternative is written as nothing. -/
theorem Segment.text_eq_nil_iff {segment : Segment} : segment.text = [] ↔ segment = [] := by
  cases segment with
  | nil => exact iff_of_true rfl rfl
  | cons piece pieces => simp [Segment.text, piece.text_ne_nil]

/-- No `U` is written inside an alternative. -/
theorem Segment.not_mem_text (segment : Segment) : 'U' ∉ segment.text := by
  intro inside
  obtain ⟨piece, _, inside⟩ := List.mem_flatMap.mp inside
  exact absurd (piece.text_subset inside) (by decide)

/-- No alternative begins with a star. -/
theorem Segment.head?_text (segment : Segment) : segment.text.head? ≠ some '*' := by
  cases segment with
  | nil => exact Option.some_ne_none _ ∘ Eq.symm
  | cons piece pieces =>
    cases piece with
    | literal single =>
      obtain ⟨cls, starred⟩ := single
      cases cls <;> simp [Segment.text, Piece.text, Literal.text, CharClass.patternChar]
    | group first rest => simp [Segment.text, Piece.text]

/-- Literals are written like an alternative of literals. -/
theorem Segment.text_map_literal (literals : List Literal) :
    Segment.text (literals.map .literal) = literals.flatMap Literal.text :=
  List.flatMap_map Piece.literal Piece.text literals

/-- What follows the literal does not star it. -/
def Literal.Ends (literal : Literal) (after : List Char) : Prop :=
  literal.starred = false → after.head? ≠ some '*'

/-- What follows the piece does not belong to it. -/
def Piece.Ends : Piece → List Char → Prop
  | .literal single, after => single.Ends after
  | .group _ _, _ => True

theorem Piece.ends_of_head?_ne (piece : Piece) {after : List Char}
    (noStar : after.head? ≠ some '*') : piece.Ends after := by
  cases piece with
  | literal single => exact fun _ => noStar
  | group first rest => exact trivial

theorem Piece.ends_segment_text (piece : Piece) (segment : Segment) : piece.Ends segment.text :=
  piece.ends_of_head?_ne segment.head?_text

namespace Pattern

variable {position : Nat} {c : Char} {text rest body after : List Char}

/-! ### Literals -/

theorem readLiteral_starred (position : Nat) (cls : CharClass) (after : List Char) :
    readLiteral position cls.patternChar ('*' :: after) = .ok (⟨cls, true⟩, after) := by
  cases cls <;> rfl

theorem readLiteral_unstarred (position : Nat) (cls : CharClass)
    (noStar : after.head? ≠ some '*') :
    readLiteral position cls.patternChar after = .ok (⟨cls, false⟩, after) := by
  have found : CharClass.ofPatternChar? cls.patternChar = some cls :=
    CharClass.ofPatternChar?_eq_some_iff.mpr rfl
  unfold readLiteral
  rw [found]
  split
  · contradiction
  · exact absurd rfl noStar
  · rename_i same _
    cases same
    rfl

/-- **A literal is read where it is written**, unless a star follows that would belong to it. -/
theorem readLiteral_eq_ok_iff {literal : Literal} :
    readLiteral position c rest = .ok (literal, after) ↔
      c :: rest = literal.text ++ after ∧ literal.Ends after := by
  constructor
  · intro read
    unfold readLiteral at read
    split at read
    · cases read
    · rename_i found
      cases read
      rw [CharClass.ofPatternChar?_eq_some_iff] at found
      exact ⟨congrArg (· :: '*' :: after) found, fun unstarred => by cases unstarred⟩
    · rename_i found noStar
      cases read
      rw [CharClass.ofPatternChar?_eq_some_iff] at found
      refine ⟨congrArg (· :: after) found, fun _ starred => ?_⟩
      obtain ⟨tail, rfl⟩ := List.head?_eq_some_iff.mp starred
      exact noStar tail rfl
  · rintro ⟨written, ends⟩
    obtain ⟨rfl, rfl⟩ := List.cons.inj written
    obtain ⟨cls, starred⟩ := literal
    cases starred with
    | true => exact readLiteral_starred position cls after
    | false => exact readLiteral_unstarred position cls (ends rfl)

/-- Literals are read one after another. -/
theorem readLiterals_eq_bind (position : Nat) (c : Char) (rest : List Char) :
    readLiterals position (c :: rest) =
      (readLiteral position c rest).bind fun (literal, after) =>
        (readLiterals (position + literal.text.length) after).map (literal :: ·) := by
  rw [readLiterals]
  split <;> rename_i read <;> rw [read] <;> rfl

theorem readLiterals_append {literal : Literal} (ends : literal.Ends after) :
    readLiterals position (literal.text ++ after) =
      (readLiterals (position + literal.text.length) after).map (literal :: ·) := by
  obtain ⟨c, rest, written⟩ : ∃ c rest, literal.text ++ after = c :: rest := ⟨_, _, rfl⟩
  rw [written, readLiterals_eq_bind, readLiteral_eq_ok_iff.mpr ⟨written.symm, ends⟩]
  rfl

/-- **Literals are read where they are written.** -/
theorem readLiterals_eq_ok_iff {literals : List Literal} :
    readLiterals position text = .ok literals ↔ text = literals.flatMap Literal.text := by
  constructor
  · intro read
    fun_induction readLiterals position text generalizing literals with
    | case1 =>
      cases read
      rfl
    | case2 => cases read
    | case3 position c rest literal after found ih =>
      obtain ⟨others, othersRead, rfl⟩ := map_eq_ok_iff.mp read
      rw [(readLiteral_eq_ok_iff.mp found).1, ih othersRead, List.flatMap_cons]
  · rintro rfl
    induction literals generalizing position with
    | nil => rw [List.flatMap_nil, readLiterals]
    | cons literal literals ih =>
      have ends : literal.Ends (literals.flatMap Literal.text) := by
        rw [← Segment.text_map_literal]
        exact fun _ => Segment.head?_text _
      rw [List.flatMap_cons, readLiterals_append ends, ih]
      rfl

/-! ### Groups and pieces -/

/-- **A group has its literals and a star**: there is a literal before the parenthesis is closed,
and the star comes right after that. -/
theorem readBody_eq_ok_iff {piece : Piece} :
    readBody position body rest = .ok (piece, after) ↔
      ∃ first others, piece = .group first others ∧
        body = (first :: others).flatMap Literal.text ∧ rest = '*' :: after := by
  constructor
  · intro read
    unfold readBody at read
    split at read
    · cases read
    · cases read
    · rename_i first others after' found
      cases read
      exact ⟨first, others, rfl, readLiterals_eq_ok_iff.mp found, rfl⟩
    · cases read
  · rintro ⟨first, others, rfl, rfl, rfl⟩
    unfold readBody
    rw [readLiterals_eq_ok_iff.mpr rfl]
    rfl

/-- A group goes on to the first parenthesis, which must close it. -/
theorem readGroup_append (plain : ∀ c ∈ body, isParenthesis c = false) :
    readGroup position (body ++ ')' :: after) = readBody position body after := by
  have skipped : ∀ c ∈ body, (!isParenthesis c) = true := fun c inside => by
    rw [plain c inside]
    rfl
  unfold readGroup
  rw [List.takeWhile_append_of_pos skipped, List.dropWhile_append_of_pos skipped,
    List.takeWhile_cons_of_neg (by decide), List.dropWhile_cons_of_neg (by decide),
    List.append_nil]
  rfl

theorem readGroup_eq_ok_iff {piece : Piece} :
    readGroup position rest = .ok (piece, after) ↔
      ∃ body closed, rest = body ++ ')' :: closed ∧ (∀ c ∈ body, isParenthesis c = false) ∧
        readBody position body closed = .ok (piece, after) := by
  constructor
  · intro read
    have plain : ∀ c ∈ rest.takeWhile fun c => !isParenthesis c, isParenthesis c = false := by
      intro c inside
      have all := List.all_eq_true.mp (List.all_takeWhile (p := fun c => !isParenthesis c)) c inside
      simpa using all
    have parts : (rest.takeWhile fun c => !isParenthesis c) ++
        (rest.dropWhile fun c => !isParenthesis c) = rest := List.takeWhile_append_dropWhile
    have stopped := List.head?_dropWhile_not (fun c => !isParenthesis c) rest
    unfold readGroup at read
    split at read
    · cases read
    · cases read
    · rename_i other closed notOpening found
      rw [found] at parts stopped
      have closes : other ≠ '(' → other = ')' := by simpa [isParenthesis] using stopped
      have closing : other = ')' := closes notOpening
      subst closing
      exact ⟨_, closed, parts.symm, plain, read⟩
  · rintro ⟨body, closed, rfl, plain, read⟩
    rw [readGroup_append plain, read]

/-- **A piece is read where it is written**, unless a star follows that would belong to it. -/
theorem readPiece_eq_ok_iff {piece : Piece} :
    readPiece position c rest = .ok (piece, after) ↔
      c :: rest = piece.text ++ after ∧ piece.Ends after := by
  constructor
  · intro read
    unfold readPiece at read
    split at read
    · rename_i opening
      obtain ⟨body, closed, rfl, _, read⟩ := readGroup_eq_ok_iff.mp read
      obtain ⟨first, others, rfl, rfl, rfl⟩ := readBody_eq_ok_iff.mp read
      refine ⟨?_, trivial⟩
      simp [opening, Piece.text]
    · obtain ⟨⟨literal, after'⟩, read, same⟩ := map_eq_ok_iff.mp read
      cases same
      exact readLiteral_eq_ok_iff.mp read
  · rintro ⟨written, ends⟩
    unfold readPiece
    cases piece with
    | literal single =>
      have notOpening : c ≠ '(' := by
        have classChar : c = single.cls.patternChar := (List.cons.inj written).1
        rw [classChar]
        cases single.cls <;> decide
      rw [if_neg notOpening, readLiteral_eq_ok_iff.mpr ⟨written, ends⟩]
      rfl
    | group first others =>
      have plain : ∀ c ∈ (first :: others).flatMap Literal.text, isParenthesis c = false := by
        intro c inside
        have listed : c ∈ ['a', 'd', '*'] := flatMap_literal_text_subset _ inside
        simp only [List.mem_cons, List.not_mem_nil, or_false] at listed
        rcases listed with rfl | rfl | rfl <;> rfl
      obtain ⟨rfl, rfl⟩ := List.cons.inj written
      rw [if_pos rfl]
      refine readGroup_eq_ok_iff.mpr ⟨_, '*' :: after, ?_, plain,
        readBody_eq_ok_iff.mpr ⟨first, others, rfl, rfl, rfl⟩⟩
      exact List.append_assoc _ _ _

/-! ### Alternatives -/

/-- Pieces are read one after another. -/
theorem readSegment_eq_bind (position : Nat) (c : Char) (rest : List Char) :
    readSegment position (c :: rest) =
      (readPiece position c rest).bind fun (piece, after) =>
        (readSegment (position + piece.text.length) after).map (piece :: ·) := by
  rw [readSegment]
  split <;> rename_i read <;> rw [read] <;> rfl

/-- An alternative is refused for its first piece. -/
theorem readSegment_eq_error {error : CompileError} (failed : readPiece position c rest = .error error) :
    readSegment position (c :: rest) = .error error := by
  rw [readSegment_eq_bind, failed]
  rfl

theorem readSegment_append {piece : Piece} (ends : piece.Ends after) :
    readSegment position (piece.text ++ after) =
      (readSegment (position + piece.text.length) after).map (piece :: ·) := by
  obtain ⟨c, rest, written⟩ : ∃ c rest, piece.text ++ after = c :: rest := by
    cases piece <;> exact ⟨_, _, rfl⟩
  rw [written, readSegment_eq_bind, readPiece_eq_ok_iff.mpr ⟨written.symm, ends⟩]
  rfl

/-- **An alternative is read where it is written.** -/
theorem readSegment_eq_ok_iff {segment : Segment} :
    readSegment position text = .ok segment ↔ text = segment.text := by
  constructor
  · intro read
    fun_induction readSegment position text generalizing segment with
    | case1 =>
      cases read
      rfl
    | case2 => cases read
    | case3 position c rest piece after found ih =>
      obtain ⟨pieces, piecesRead, rfl⟩ := map_eq_ok_iff.mp read
      rw [(readPiece_eq_ok_iff.mp found).1, ih piecesRead]
      rfl
  · rintro rfl
    induction segment generalizing position with
    | nil => exact readSegment.eq_1 position
    | cons piece pieces ih =>
      show readSegment position (piece.text ++ Segment.text pieces) = _
      rw [readSegment_append (piece.ends_segment_text pieces), ih]
      rfl

theorem readSegments_eq_ok_iff {texts : List (List Char)} {segments : List Segment} :
    readSegments position texts = .ok segments ↔ texts = segments.map Segment.text := by
  induction texts generalizing position segments with
  | nil => cases segments <;> simp [readSegments]
  | cons text texts ih =>
    cases segments with
    | nil => cases found : readSegment position text <;> simp [readSegments, found, map_eq_ok_iff]
    | cons segment segments =>
      rw [readSegments, List.map_cons, List.cons.injEq, ← @readSegment_eq_ok_iff position]
      cases readSegment position text with
      | error error => simp
      | ok found => simp [map_eq_ok_iff, ih, and_left_comm]

/-! ### Patterns -/

/-- A pattern is read from the text that is cut into the written forms of its alternatives. -/
theorem parse_eq_ok_iff_splitWhere {pattern : Pattern} :
    parse text = .ok pattern ↔
      Text.splitWhere (· == 'U') text = (pattern.first.text, pattern.rest.map Segment.text) := by
  obtain ⟨first, rest⟩ := pattern
  unfold parse
  obtain ⟨head, tail⟩ := Text.splitWhere (· == 'U') text
  rw [Prod.mk.injEq, ← @readSegment_eq_ok_iff 0, ← @readSegments_eq_ok_iff (head.length + 1)]
  cases found : readSegment 0 head with
  | error error => simp [found]
  | ok segment => simp [found, map_eq_ok_iff, and_left_comm]

/-- **A text is read as the pattern whose written form it is.** -/
theorem parse_eq_ok_iff {pattern : Pattern} :
    parse text = .ok pattern ↔ pattern.text = text := by
  have free : ∀ field ∈ pattern.first.text :: pattern.rest.map Segment.text, 'U' ∉ field := by
    rw [← List.map_cons]
    intro field listed
    obtain ⟨segment, _, rfl⟩ := List.mem_map.mp listed
    exact segment.not_mem_text
  rw [parse_eq_ok_iff_splitWhere, Text.splitWhere_eq_iff, and_iff_left free, List.flatMap_map]
  rfl

/-- A text is the written form of at most one pattern. -/
theorem text_injective : Function.Injective Pattern.text := by
  intro first second same
  have read : parse second.text = .ok first := parse_eq_ok_iff.mpr same
  exact Except.ok.inj (read.symm.trans (parse_eq_ok_iff.mpr rfl))

end Pattern

end PatternNfa
