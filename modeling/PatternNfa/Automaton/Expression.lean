/-
**Source expressions of automata.**

An automaton can stand in the text of a program as an expression that rebuilds it from its parts.
The expression names its function and the symbols by absolute paths, writes every number with its
type, and has no white space. To evaluate an expression is to read it as a call of that function.

* `run_readCall_append`: an expression is read back, whatever comes after it;
* `evaluate?_expression`: it evaluates to the automaton with its parts.
-/

import PatternNfa.Automaton.Parts
import PatternNfa.Text.Reader

namespace PatternNfa

open Text Text.Reader

/-- The path that names a symbol. -/
def Symbol.path : Symbol → String
  | .read .letter => "::automata::nfa::Symbol::Alpha"
  | .read .digit => "::automata::nfa::Symbol::Num"
  | .epsilon => "::automata::nfa::Symbol::Epsilon"

/-- No path begins with another. -/
theorem Symbol.eq_of_path_prefix {first second : Symbol}
    (begins : first.path.toList <+: second.path.toList) : first = second := by
  rcases first with (_ | _) | _ <;> rcases second with (_ | _) | _ <;> revert begins <;> decide

namespace Parts

/-! ### Writing -/

/-- A number with its type. -/
def typedNumber (n : Nat) : String :=
  toString n ++ "usize"

/-- A transition as a triple of source, symbol and target. -/
def triple (transition : Transition) : String :=
  "(" ++ typedNumber transition.source ++ "," ++ transition.symbol.path ++ "," ++
    typedNumber transition.target ++ ")"

/-- A list of items that are written already. -/
def slice (items : List String) : String :=
  "&[" ++ ",".intercalate items ++ "]"

/-- The expression that rebuilds an automaton from the parts. -/
def expression (parts : Parts) : String :=
  "::automata::nfa::Automaton::from_parts(" ++ typedNumber parts.size ++ "," ++
    typedNumber parts.start ++ "," ++ slice (parts.transitions.map triple) ++ "," ++
    slice (parts.finals.map typedNumber) ++ ",)"

/-! ### Reading -/

/-- Takes a number with its type. -/
def readNumber : Reader Nat := do
  let n ← decimal
  word "usize".toList
  return n

/-- Takes the path of a symbol. -/
def readSymbol : Reader Symbol :=
  Symbol.all.firstM fun symbol => do
    word symbol.path.toList
    return symbol

/-- Takes a triple of source, symbol and target. -/
def readTriple : Reader Transition := do
  word ['(']
  let source ← readNumber
  word [',']
  let symbol ← readSymbol
  word [',']
  let target ← readNumber
  close ')'
  return ⟨source, symbol, target⟩

/-- Takes a call of the function that makes an automaton of parts. -/
def readCall : Reader Parts := do
  word "::automata::nfa::Automaton::from_parts(".toList
  let size ← readNumber
  word [',']
  let start ← readNumber
  word [',']
  let transitions ← list readTriple
  word [',']
  let finals ← list readNumber
  close ')'
  return ⟨size, start, transitions, finals⟩

/-- The parts that an expression names, if all of it is a call. -/
def ofExpression? (expression : String) : Option Parts :=
  match readCall.run expression.toList with
  | some (parts, []) => some parts
  | _ => none

/-! ### Reading what is written -/

/-- Digits with their type are read back. -/
theorem run_readNumber_digits {digits : List Char} (nonempty : digits ≠ [])
    (areDigits : ∀ c ∈ digits, c.isDigit = true) (rest : List Char) :
    readNumber.run (digits ++ ("usize".toList ++ rest)) =
      some (Nat.ofDigitChars 10 digits 0, rest) := by
  have stops := run_decimal_append nonempty areDigits (by decide : 'u'.isDigit = false)
    ("size".toList ++ rest)
  have type : (word "usize".toList).run ('u' :: ("size".toList ++ rest)) = some ((), rest) :=
    run_word_append "usize".toList rest
  show readNumber.run (digits ++ 'u' :: ("size".toList ++ rest)) = _
  rw [readNumber, run_bind_of_some stops, run_bind_of_some type]
  rfl

theorem run_readNumber_append (n : Nat) (rest : List Char) :
    readNumber.run ((typedNumber n).toList ++ rest) = some (n, rest) := by
  have digits : (toString n).toList = Nat.toDigits 10 n := Nat.toList_repr
  have areDigits : ∀ c ∈ Nat.toDigits 10 n, c.isDigit = true := fun c inside =>
    Nat.isDigit_of_mem_toDigits (by decide) (by decide) inside
  rw [typedNumber, String.toList_append, digits, List.append_assoc,
    run_readNumber_digits Nat.toDigits_ne_nil areDigits, Nat.ofDigitChars_ten_toDigits]

theorem run_readSymbol_append (symbol : Symbol) (rest : List Char) :
    readSymbol.run (symbol.path.toList ++ rest) = some (symbol, rest) := by
  have other {first : Symbol} (differ : first ≠ symbol) :
      (word first.path.toList).run (symbol.path.toList ++ rest) = none :=
    run_word_append_of_not_prefix (fun begins => differ (Symbol.eq_of_path_prefix begins))
      (fun begins => differ (Symbol.eq_of_path_prefix begins).symm) rest
  rcases symbol with (_ | _) | _
  all_goals simp [readSymbol, Symbol.all, List.firstM, run_orElse, other]

/-- **A triple is read back.** -/
theorem run_readTriple_append (transition : Transition) (rest : List Char) :
    readTriple.run ((triple transition).toList ++ rest) = some (transition, rest) := by
  have written : (triple transition).toList ++ rest =
      ['('] ++ ((typedNumber transition.source).toList ++ ([','] ++ (transition.symbol.path.toList ++
        ([','] ++ ((typedNumber transition.target).toList ++ ')' :: rest))))) := by
    simp [triple]
  rw [written, readTriple, run_bind_of_some (run_word_append _ _),
    run_bind_of_some (run_readNumber_append _ _), run_bind_of_some (run_word_append _ _),
    run_bind_of_some (run_readSymbol_append _ _), run_bind_of_some (run_word_append _ _),
    run_bind_of_some (run_readNumber_append _ _), run_bind_of_some (run_close_cons _)]
  rfl

/-- A number does not begin with a closing bracket. -/
theorem run_readNumber_close (rest : List Char) : readNumber.run (']' :: rest) = none := rfl

theorem run_readTriple_close (rest : List Char) : readTriple.run (']' :: rest) = none := rfl

theorem slice_append {α : Type} (write : α → String) (items : List α) (rest : List Char) :
    (slice (items.map write)).toList ++ rest =
      ['&', '['] ++ [','].intercalate (items.map fun item => (write item).toList) ++ ']' :: rest := by
  simp [slice, String.toList_intercalate, Function.comp_def]

/-- **An expression is read back**, whatever comes after it. -/
theorem run_readCall_append (parts : Parts) (rest : List Char) :
    readCall.run (parts.expression.toList ++ rest) = some (parts, rest) := by
  have written : parts.expression.toList ++ rest =
      "::automata::nfa::Automaton::from_parts(".toList ++ ((typedNumber parts.size).toList ++
        ([','] ++ ((typedNumber parts.start).toList ++ ([','] ++
          ((slice (parts.transitions.map triple)).toList ++ ([','] ++
            ((slice (parts.finals.map typedNumber)).toList ++ ([',', ')'] ++ rest)))))))) := by
    have comma : ",".toList = [','] := rfl
    have ending : ",)".toList = [',', ')'] := rfl
    -- By its equation `expression` would be compared with its value letter by letter.
    unfold expression
    rw [← comma, ← ending]
    simp only [String.toList_append, List.append_assoc]
  have closes : (close ')').run ([',', ')'] ++ rest) = some ((), rest) := rfl
  have transitions := run_list_append run_readTriple_append run_readTriple_close parts.transitions
  have finals := run_list_append run_readNumber_append run_readNumber_close parts.finals
  rw [written, readCall, run_bind_of_some (run_word_append _ _),
    run_bind_of_some (run_readNumber_append _ _), run_bind_of_some (run_word_append _ _),
    run_bind_of_some (run_readNumber_append _ _), run_bind_of_some (run_word_append _ _),
    slice_append, run_bind_of_some (transitions _), run_bind_of_some (run_word_append _ _),
    slice_append, run_bind_of_some (finals _), run_bind_of_some closes]
  rfl

/-- **An expression names its parts.** -/
@[simp] theorem ofExpression?_expression (parts : Parts) :
    ofExpression? parts.expression = some parts := by
  have read := run_readCall_append parts []
  rw [List.append_nil] at read
  rw [ofExpression?, read]

end Parts

/-- The automaton that an expression evaluates to, if it is a call. -/
def Automaton.evaluate? (expression : String) : Option Automaton :=
  (Parts.ofExpression? expression).map .ofParts

/-- **An expression evaluates to the automaton with its parts.** -/
@[simp] theorem Automaton.evaluate?_expression (parts : Parts) :
    evaluate? parts.expression = some (.ofParts parts) := by
  rw [evaluate?, Parts.ofExpression?_expression, Option.map_some]

end PatternNfa
