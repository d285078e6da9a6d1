/-
**Transition symbols and transition rows.**

A transition reads one character of a class, or reads nothing: that is an epsilon transition. The
transitions out of one state form a row, which maps each symbol to the set of states it leads to.
A symbol without transitions has no entry, so that an entry is never an empty set.

* `Row.ext_get?`: a row is determined by its entries;
* `Row.get?_insert`, `Row.get?_shift`: what an added target and a renumbering do to an entry.
-/

import PatternNfa.Automaton.StateSet
import PatternNfa.CharClass.Basic

namespace PatternNfa

/-- What a transition reads. -/
inductive Symbol where
  /-- One character of the class. -/
  | read (cls : CharClass)
  /-- Nothing. -/
  | epsilon
  deriving DecidableEq

namespace Symbol

/-- All the symbols, in ascending order. -/
def all : List Symbol := [.read .letter, .read .digit, .epsilon]

theorem mem_all (symbol : Symbol) : symbol ∈ all := by
  rcases symbol with (_ | _) | _ <;> decide

end Symbol

/-- The transitions out of one state: for each symbol the targets, if there are any. -/
structure Row where
  letters : Option StateSet
  digits : Option StateSet
  epsilons : Option StateSet
  deriving DecidableEq

namespace Row

/-- The row without transitions. -/
def empty : Row := ⟨none, none, none⟩

/-- The targets of a symbol. -/
def get? (row : Row) : Symbol → Option StateSet
  | .read .letter => row.letters
  | .read .digit => row.digits
  | .epsilon => row.epsilons

/-- A row is determined by its entries. -/
theorem ext_get? {first second : Row} (same : ∀ symbol, first.get? symbol = second.get? symbol) :
    first = second := by
  rcases first with ⟨letters, digits, epsilons⟩
  rcases second with ⟨letters', digits', epsilons'⟩
  have sameLetters : letters = letters' := same (.read .letter)
  have sameDigits : digits = digits' := same (.read .digit)
  have sameEpsilons : epsilons = epsilons' := same .epsilon
  rw [sameLetters, sameDigits, sameEpsilons]

@[simp] theorem get?_empty (symbol : Symbol) : empty.get? symbol = none := by
  rcases symbol with (_ | _) | _ <;> rfl

/-- Adds a target to what may already be the entry of a symbol. -/
def addTarget (target : State) (entry : Option StateSet) : Option StateSet :=
  some ((entry.getD ∅).insert target)

/-- Adds a transition to the row. -/
def insert (row : Row) (symbol : Symbol) (target : State) : Row :=
  match symbol with
  | .read .letter => { row with letters := addTarget target row.letters }
  | .read .digit => { row with digits := addTarget target row.digits }
  | .epsilon => { row with epsilons := addTarget target row.epsilons }

/-- Only the entry of the symbol changes: it gains the target. -/
theorem get?_insert (row : Row) (symbol other : Symbol) (target : State) :
    (row.insert symbol target).get? other =
      if other = symbol then addTarget target (row.get? symbol) else row.get? other := by
  rcases symbol with (_ | _) | _ <;> rcases other with (_ | _) | _ <;> rfl

/-- The row after all states have moved up by `offset`. -/
def shift (offset : Nat) (row : Row) : Row :=
  ⟨row.letters.map (StateSet.shift offset), row.digits.map (StateSet.shift offset),
    row.epsilons.map (StateSet.shift offset)⟩

/-- A renumbering acts on each entry by itself. -/
@[simp] theorem get?_shift (offset : Nat) (row : Row) (symbol : Symbol) :
    (row.shift offset).get? symbol = (row.get? symbol).map (StateSet.shift offset) := by
  rcases symbol with (_ | _) | _ <;> rfl

/-- The symbols that have transitions, each with its targets, in ascending order. -/
def entries (row : Row) : List (Symbol × StateSet) :=
  Symbol.all.filterMap fun symbol => (row.get? symbol).map (symbol, ·)

theorem mem_entries {row : Row} {symbol : Symbol} {targets : StateSet} :
    (symbol, targets) ∈ row.entries ↔ row.get? symbol = some targets := by
  simp [entries, Symbol.mem_all]

end Row

end PatternNfa
