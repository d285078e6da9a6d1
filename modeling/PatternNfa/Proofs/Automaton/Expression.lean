/-
**Source expressions are read back.**

An expression is a call that names the number of states, the start, the transitions and the final
states. The call is described without the function that writes it: numbers may have leading zeros, and
a comma may stand before a closing bracket. To evaluate an expression is to read it as such a call. No
text is a call with two different lists of arguments, so an expression can be read in one way only, and
a well-formed automaton is rebuilt from what is read.

* `readsAll_readNumber`, `readsAll_readSymbol`, `readsAll_readTriple`, `readsAll_readCall`: what is
  read;
* `ofExpression?_eq_some_iff`: the parts that are read from a text are the arguments of the call;
* `expression_rebuilds`: what an expression says, and what it evaluates to.
-/

import PatternNfa.Pattern.Expansion
import PatternNfa.Proofs.Automaton.Acceptance
import PatternNfa.Proofs.Automaton.Parts
import PatternNfa.Proofs.Text.Delimited
import PatternNfa.Proofs.Text.Reader

namespace PatternNfa

open Text

/-! ### Numbers, symbols and transitions -/

/-- The forms of a number: its digits and then its type. -/
def numberForms (n : Nat) : Language Char :=
  decimalForms n * {"usize".toList}

/-- The form of a symbol is its path. -/
def symbolForms : Symbol → Language Char
  | .read .letter => {"::automata::nfa::Symbol::Alpha".toList}
  | .read .digit => {"::automata::nfa::Symbol::Num".toList}
  | .epsilon => {"::automata::nfa::Symbol::Epsilon".toList}

/-- The forms of a transition: a triple. -/
def tripleForms (transition : Transition) : Language Char :=
  {['(']} * (numberForms transition.source * ({[',']} * (symbolForms transition.symbol *
    ({[',']} * (numberForms transition.target * closeForms ')')))))

/-- **The forms of a call**: four arguments between parentheses, the last two of which are lists. -/
def callForms (parts : Parts) : Language Char :=
  {"::automata::nfa::Automaton::from_parts(".toList} * (numberForms parts.size * ({[',']} *
    (numberForms parts.start * ({[',']} * (listForms tripleForms parts.transitions * ({[',']} *
      (listForms numberForms parts.finals * closeForms ')')))))))

namespace Parts

open Reader

/-- A number with its type. -/
theorem readsAll_readNumber : ReadsAll readNumber numberForms := by
  intro text n rest
  rw [true_and]
  constructor
  · intro read
    obtain ⟨value, left, taken, more⟩ := run_bind_eq_some_iff.mp read
    obtain ⟨_, _, type, known⟩ := run_bind_eq_some_iff.mp more
    cases known
    obtain rfl := run_word_eq_some_iff.mp type
    rw [run_decimal] at taken
    split at taken
    · cases taken
    · rename_i nonempty
      obtain ⟨rfl, left⟩ := Prod.mk.inj (Option.some.inj taken)
      have digits : text.takeWhile Char.isDigit ∈ decimalForms _ :=
        ⟨by simpa using nonempty, fun c inside => List.mem_takeWhile_imp inside, rfl⟩
      refine ⟨_, Language.append_mem_mul digits rfl, ?_⟩
      rw [List.append_assoc, ← left, List.takeWhile_append_dropWhile]
  · rintro ⟨_, ⟨digits, ⟨nonempty, areDigits, rfl⟩, _, rfl, rfl⟩, rfl⟩
    have written : digits ++ "usize".toList ++ rest = digits ++ ("usize".toList ++ rest) :=
      List.append_assoc _ _ _
    show readNumber.run (digits ++ "usize".toList ++ rest) = _
    rw [written, run_readNumber_digits nonempty areDigits]

/-- The path of a symbol. -/
theorem readsAll_readSymbol : ReadsAll readSymbol symbolForms := by
  have path (symbol : Symbol) : symbolForms symbol = {symbol.path.toList} := by
    rcases symbol with (_ | _) | _ <;> rfl
  intro text symbol rest
  rw [path, true_and]
  constructor
  · intro read
    obtain ⟨found, _, taken⟩ := exists_of_run_firstM read
    obtain ⟨_, _, stands, known⟩ := run_bind_eq_some_iff.mp taken
    cases known
    exact ⟨_, rfl, run_word_eq_some_iff.mp stands⟩
  · rintro ⟨_, rfl, rfl⟩
    exact run_readSymbol_append symbol rest

/-- A triple. -/
theorem readsAll_readTriple : ReadsAll readTriple tripleForms := by
  have closed (source target : State) (symbol : Symbol) :
      Reads (close ')' >>= fun _ => pure (⟨source, symbol, target⟩ : Transition))
        (fun transition => transition.target = target ∧ transition.symbol = symbol ∧
          transition.source = source ∧ True) fun _ => closeForms ')' :=
    (Reads.bind_pure (readsAll_close (by decide)) _).congr fun transition => by
      constructor
      · rintro rfl
        exact ⟨rfl, rfl, rfl, trivial⟩
      · rintro ⟨rfl, rfl, rfl, _⟩
        rfl
  exact .word_bind (readsAll_readNumber.bind fun source => .word_bind (readsAll_readSymbol.bind
    fun symbol => .word_bind (readsAll_readNumber.bind
      fun target => closed source target symbol) _) _) _

/-- **A call.** -/
theorem readsAll_readCall : ReadsAll readCall callForms := by
  have closed (size start : Nat) (transitions : List Transition) (finals : List State) :
      Reads (close ')' >>= fun _ => pure (⟨size, start, transitions, finals⟩ : Parts))
        (fun parts => parts.finals = finals ∧ parts.transitions = transitions ∧
          parts.start = start ∧ parts.size = size ∧ True) fun _ => closeForms ')' :=
    (Reads.bind_pure (readsAll_close (by decide)) _).congr fun parts => by
      constructor
      · rintro rfl
        exact ⟨rfl, rfl, rfl, rfl, trivial⟩
      · rintro ⟨rfl, rfl, rfl, rfl, _⟩
        rfl
  have triples := readsAll_readTriple.list run_readTriple_close
  have numbers := readsAll_readNumber.list run_readNumber_close
  exact .word_bind (readsAll_readNumber.bind fun size => .word_bind (readsAll_readNumber.bind
    fun start => .word_bind (triples.bind fun transitions => .word_bind (numbers.bind
      fun finals => closed size start transitions finals) _) _) _) _

/-- **The parts that are read from a text are the arguments of the call that it is.** -/
theorem ofExpression?_eq_some_iff {text : String} {parts : Parts} :
    ofExpression? text = some parts ↔ text.toList ∈ callForms parts := by
  have whole : ofExpression? text = some parts ↔ readCall.run text.toList = some (parts, []) := by
    unfold ofExpression?
    split
    · rename_i found read
      rw [read]
      simp
    · rename_i other
      exact iff_of_false nofun (other parts)
  rw [whole, readsAll_readCall.run_eq_some_iff]
  simp

end Parts

/-! ### What is read back -/

namespace Automaton

variable {machine : Automaton}

/-- **An expression rebuilds its automaton.** It is a call in one way only: the arguments are the
number of states, the start, the transitions and the final states in ascending order. With these
arguments the automaton is rebuilt, down to its rows. So this is what the expression evaluates to, and
an expanded pattern gives the automaton of the pattern. -/
theorem expression_rebuilds (built : machine.Built) :
    (∀ parts, machine.parts.expression.toList ∈ callForms parts ↔
        parts = ⟨machine.size, machine.start, machine.transitions, machine.finals.toList⟩) ∧
      machine.finals.toList.Pairwise (· < ·) ∧
      ofParts ⟨machine.size, machine.start, machine.transitions, machine.finals.toList⟩ = machine ∧
      evaluate? machine.parts.expression = some machine ∧
      ∀ text, compile text = .ok (some machine) →
        expand text = .ok machine.parts.expression ∧ expandedMachine text = .ok machine := by
  have rebuilt : ofParts machine.parts = machine := built.wellFormed.ofParts_parts
  have evaluated : evaluate? machine.parts.expression = some machine := by
    rw [evaluate?_expression, rebuilt]
  refine ⟨fun parts => ?_, ?_, rebuilt, evaluated, fun text compiled => ?_⟩
  · rw [← Parts.ofExpression?_eq_some_iff, Parts.ofExpression?_expression, Option.some.injEq, eq_comm]
    rfl
  · have ascending := Std.ExtTreeSet.ordered_toList (t := machine.finals)
    exact ascending.imp Nat.compare_eq_lt.mp
  · have expanded : expand text = .ok machine.parts.expression :=
      expand_eq_ok_iff.mpr ⟨machine, compiled, rfl⟩
    exact ⟨expanded, expandedMachine_eq_ok_iff.mpr ⟨_, expanded, evaluated⟩⟩

/-- The expression for `d*` names three states, and the automaton of `d*` is what it evaluates to. -/
theorem expression_rebuilds_digits :
    expandedMachine "d*" = .ok (reading .digit).star ∧
      (reading .digit).star.parts.expression.toList ∈ callForms ⟨3, 2,
        [⟨0, .read .digit, 1⟩, ⟨1, .epsilon, 0⟩, ⟨2, .epsilon, 0⟩], [1, 2]⟩ := by
  have compiled : compile "d*" = .ok (some (reading .digit).star) :=
    compile_eq_ok_iff.mpr ⟨⟨[.literal ⟨.digit, true⟩], []⟩, by decide, rfl⟩
  obtain ⟨reads, _, _, _, expands⟩ := expression_rebuilds (.compiled compiled)
  exact ⟨(expands "d*" compiled).2, (reads _).mpr rfl⟩

end Automaton

end PatternNfa
