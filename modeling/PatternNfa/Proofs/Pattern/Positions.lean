/-
**Reading further to the right.**

Where a part stands in the whole text makes no difference to how it is read, except that its errors
are found as many characters further on. So a part that is read at the beginning of a text tells how
it is read anywhere else.

* `readLiterals_add`, `readPiece_add`, `readSegment_add`: reading at a later position;
* `readSegment_eq_mapError`: what reading an alternative by itself tells about reading it in a text.
-/

import PatternNfa.Proofs.Pattern.Grammar

namespace PatternNfa

/-- The error in a text that begins `offset` characters earlier. -/
def CompileError.shift (offset : Nat) (error : CompileError) : CompileError :=
  { error with position := error.position + offset }

section Results

variable {ε α β : Type}

theorem map_eq_error_iff {f : α → β} {result : Except ε α} {error : ε} :
    result.map f = .error error ↔ result = .error error := by
  cases result <;> simp [Except.map]

theorem mapError_map (result : Except ε α) (f : α → β) (change : ε → ε) :
    (result.map f).mapError change = (result.mapError change).map f := by
  cases result <;> rfl

end Results

namespace Pattern

variable (position offset : Nat) (c : Char) (text rest body after : List Char)

/-! ### Literals -/

theorem readLiteral_add :
    readLiteral (position + offset) c rest =
      (readLiteral position c rest).mapError (.shift offset) := by
  unfold readLiteral
  split <;> rfl

/-- **Literals at a later position.** -/
theorem readLiterals_add :
    readLiterals (position + offset) text = (readLiterals position text).mapError (.shift offset) := by
  fun_induction readLiterals position text with
  | case1 => rw [readLiterals]; rfl
  | case2 position c rest error failed =>
    rw [readLiterals_eq_bind, readLiteral_add, failed]
    rfl
  | case3 position c rest literal after read ih =>
    rw [readLiterals_eq_bind, readLiteral_add, read, mapError_map, ← ih, Nat.add_right_comm]
    rfl

/-! ### Groups and pieces -/

theorem readBody_add :
    readBody (position + offset) body after =
      (readBody position body after).mapError (.shift offset) := by
  have later : readLiterals (position + offset + 1) body =
      (readLiterals (position + 1) body).mapError (.shift offset) := by
    rw [Nat.add_right_comm, readLiterals_add]
  have places : position + offset + body.length + 2 = position + body.length + 2 + offset := by
    omega
  unfold readBody
  rw [later, places]
  cases readLiterals (position + 1) body with
  | error error => rfl
  | ok literals =>
    dsimp only [Except.mapError]
    split
    · contradiction
    · rfl
    · rfl
    · rfl

theorem readGroup_add :
    readGroup (position + offset) rest = (readGroup position rest).mapError (.shift offset) := by
  have places (length : Nat) : position + offset + 1 + length = position + 1 + length + offset := by
    omega
  unfold readGroup
  split
  · rfl
  · dsimp only
    rw [places]
    rfl
  · exact readBody_add position offset _ _

/-- **A piece at a later position.** -/
theorem readPiece_add :
    readPiece (position + offset) c rest =
      (readPiece position c rest).mapError (.shift offset) := by
  unfold readPiece
  split
  · exact readGroup_add position offset rest
  · rw [readLiteral_add, mapError_map]

/-! ### Alternatives -/

/-- **An alternative at a later position.** -/
theorem readSegment_add :
    readSegment (position + offset) text = (readSegment position text).mapError (.shift offset) := by
  fun_induction readSegment position text with
  | case1 => rw [readSegment]; rfl
  | case2 position c rest error failed =>
    rw [readSegment_eq_bind, readPiece_add, failed]
    rfl
  | case3 position c rest piece after read ih =>
    rw [readSegment_eq_bind, readPiece_add, read, mapError_map, ← ih, Nat.add_right_comm]
    rfl

/-- What reading an alternative by itself tells about reading it in a text. -/
theorem readSegment_eq_mapError :
    readSegment position text = (readSegment 0 text).mapError (.shift position) := by
  rw [← readSegment_add, Nat.zero_add]

end Pattern

end PatternNfa
