/-
**Reading a pattern.**

A text is cut at every `U` first, also at one inside parentheses, and then each alternative is read
from left to right, a piece at a time. A group is read in this order: its closing parenthesis is
looked for, its literals are read, and then the star after it is looked for.

* `readPiece_shortens`: a piece takes at least one character.
-/

import PatternNfa.Pattern.Basic
import PatternNfa.Pattern.Error
import PatternNfa.Text.Split

namespace PatternNfa.Pattern

/-- Reads a literal that begins with `c`; `position` is the place of `c` in the whole text. Returns
what follows the literal as well. -/
def readLiteral (position : Nat) (c : Char) (rest : List Char) :
    Except CompileError (Literal × List Char) :=
  match CharClass.ofPatternChar? c, rest with
  | none, _ => .error ⟨position, .unexpectedChar c⟩
  | some cls, '*' :: rest => .ok (⟨cls, true⟩, rest)
  | some cls, rest => .ok (⟨cls, false⟩, rest)

theorem readLiteral_shortens {position : Nat} {c : Char} {rest after : List Char}
    {literal : Literal} (read : readLiteral position c rest = .ok (literal, after)) :
    after.length ≤ rest.length := by
  unfold readLiteral at read
  split at read
  · cases read
  · cases read
    exact Nat.le_succ _
  · cases read
    exact Nat.le_refl _

/-- Reads a text of literals, which begins at `position`. -/
def readLiterals (position : Nat) : List Char → Except CompileError (List Literal)
  | [] => .ok []
  | c :: rest =>
    match _read : readLiteral position c rest with
    | .error error => .error error
    | .ok (literal, after) =>
      (readLiterals (position + literal.text.length) after).map (literal :: ·)
termination_by text => text.length
decreasing_by exact Nat.lt_succ_of_le (readLiteral_shortens _read)

/-- Is `c` a parenthesis? -/
def isParenthesis (c : Char) : Bool :=
  c == '(' || c == ')'

/-- Reads the literals of a group, and the star after it. The opening parenthesis is at `position`,
the literals are the text `body`, and `after` follows the closing parenthesis. Returns what follows
the star as well. -/
def readBody (position : Nat) (body after : List Char) :
    Except CompileError (Piece × List Char) :=
  match readLiterals (position + 1) body, after with
  | .error error, _ => .error error
  | .ok [], _ => .error ⟨position, .emptyGroup⟩
  | .ok (first :: others), '*' :: rest => .ok (.group first others, rest)
  | .ok _, _ => .error ⟨position + body.length + 2, .missingStar⟩

/-- Reads the rest of a group whose opening parenthesis is at `position`. Returns what follows the
group as well. -/
def readGroup (position : Nat) (rest : List Char) : Except CompileError (Piece × List Char) :=
  let body := rest.takeWhile fun c => !isParenthesis c
  match rest.dropWhile fun c => !isParenthesis c with
  | [] => .error ⟨position, .unclosedGroup⟩
  | '(' :: _ => .error ⟨position + 1 + body.length, .nestedGroup⟩
  | _ :: after => readBody position body after

/-- Reads a piece that begins with `c`; `position` is the place of `c` in the whole text. Returns
what follows the piece as well. -/
def readPiece (position : Nat) (c : Char) (rest : List Char) :
    Except CompileError (Piece × List Char) :=
  if c = '(' then
    readGroup position rest
  else
    (readLiteral position c rest).map fun (literal, after) => (.literal literal, after)

theorem readBody_shortens {position : Nat} {body after rest : List Char} {piece : Piece}
    (read : readBody position body after = .ok (piece, rest)) : rest.length ≤ after.length := by
  unfold readBody at read
  split at read
  · cases read
  · cases read
  · cases read
    exact Nat.le_succ _
  · cases read

theorem readGroup_shortens {position : Nat} {rest after : List Char} {piece : Piece}
    (read : readGroup position rest = .ok (piece, after)) : after.length ≤ rest.length := by
  unfold readGroup at read
  have kept : (rest.dropWhile fun c => !isParenthesis c).length ≤ rest.length :=
    (List.dropWhile_sublist _).length_le
  split at read
  · cases read
  · cases read
  · rename_i closing
    rw [closing] at kept
    exact Nat.le_trans (readBody_shortens read) (Nat.le_trans (Nat.le_succ _) kept)

/-- **A piece takes at least one character.** -/
theorem readPiece_shortens {position : Nat} {c : Char} {rest after : List Char} {piece : Piece}
    (read : readPiece position c rest = .ok (piece, after)) : after.length ≤ rest.length := by
  unfold readPiece at read
  split at read
  · exact readGroup_shortens read
  · cases literal : readLiteral position c rest with
    | error error =>
      rw [literal] at read
      cases read
    | ok found =>
      rw [literal] at read
      cases read
      exact readLiteral_shortens literal

/-- Reads an alternative, which begins at `position`. -/
def readSegment (position : Nat) : List Char → Except CompileError Segment
  | [] => .ok []
  | c :: rest =>
    match _read : readPiece position c rest with
    | .error error => .error error
    | .ok (piece, after) =>
      (readSegment (position + piece.text.length) after).map (piece :: ·)
termination_by text => text.length
decreasing_by exact Nat.lt_succ_of_le (readPiece_shortens _read)

/-- Reads alternatives of which the first begins at `position`, with one character between each
and the next. -/
def readSegments (position : Nat) : List (List Char) → Except CompileError (List Segment)
  | [] => .ok []
  | text :: texts =>
    match readSegment position text with
    | .error error => .error error
    | .ok segment => (readSegments (position + text.length + 1) texts).map (segment :: ·)

/-- Reads a pattern. -/
def parse (text : List Char) : Except CompileError Pattern :=
  let (first, rest) := Text.splitWhere (· == 'U') text
  match readSegment 0 first with
  | .error error => .error error
  | .ok segment => (readSegments (first.length + 1) rest).map (⟨segment, ·⟩)

end PatternNfa.Pattern
