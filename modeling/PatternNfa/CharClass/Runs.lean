/-
**Runs of a character class.**

The code points between two bounds, grouped into the longest runs of consecutive code points that
have the same class. Numbers that are no characters belong to no run.
-/

import PatternNfa.CharClass.Basic

namespace PatternNfa.CharClass

/-- Consecutive code points of one class, from `first` to `last`. -/
structure Run where
  first : Nat
  last : Nat
  cls : CharClass
  deriving DecidableEq

/-- The class of a code point, if it is a character that has one. -/
def ofCode? (code : Nat) : Option CharClass :=
  if code.isValidChar then ofChar? (Char.ofNat code) else none

/-- Puts a code point before the runs of the code points that follow it. -/
def Run.prepend (code : Nat) (runs : List Run) : List Run :=
  match ofCode? code, runs with
  | none, runs => runs
  | some cls, [] => [⟨code, code, cls⟩]
  | some cls, run :: rest =>
    if run.cls = cls ∧ run.first = code + 1 then
      ⟨code, run.last, cls⟩ :: rest
    else
      ⟨code, code, cls⟩ :: run :: rest

/-- The runs between two code points, both included, in ascending order. -/
def runs (first last : Nat) : List Run :=
  (List.range' first (min last 0x10FFFF + 1 - first)).foldr Run.prepend []

end PatternNfa.CharClass
