/-
**Reading an input.**

An input is read along all paths at once, by keeping the set of the states they may have come to.
The input is accepted when a final state is among them at its end.

* `mem_step`: one transition leads to the targets of the states it starts from.
-/

import PatternNfa.Automaton.Closure

namespace PatternNfa.Automaton

/-- The states that one transition with the symbol leads to from the given ones. -/
def step (machine : Automaton) (states : StateSet) (symbol : Symbol) : StateSet :=
  states.toList.foldl
    (fun reached state => reached.insertAll ((machine.destinations state symbol).getD ∅)) ∅

/-- **One transition leads to the targets of the states it starts from.** -/
theorem mem_step {machine : Automaton} {states : StateSet} {symbol : Symbol} {target : State} :
    target ∈ machine.step states symbol ↔
      ∃ source ∈ states, ∃ targets, machine.destinations source symbol = some targets ∧
        target ∈ targets := by
  have folded (sources : List State) (reached : StateSet) :
      target ∈ sources.foldl
          (fun reached state => reached.insertAll ((machine.destinations state symbol).getD ∅))
          reached ↔
        target ∈ reached ∨ ∃ source ∈ sources, ∃ targets,
          machine.destinations source symbol = some targets ∧ target ∈ targets := by
    induction sources generalizing reached with
    | nil => simp
    | cons source sources ih =>
      rw [List.foldl_cons, ih, StateSet.mem_insertAll, or_assoc]
      cases found : machine.destinations source symbol <;> simp [found]
  rw [step, folded]
  simp [Std.ExtTreeSet.mem_toList]

/-- The states to which reading one character of the class leads. -/
def advance (machine : Automaton) (active : StateSet) (cls : CharClass) : StateSet :=
  machine.closure (machine.step active (.read cls))

/-- Is the rest of an input accepted from the active states? It is not as soon as a character has
no class or no state is active any more. -/
def acceptsFrom (machine : Automaton) (active : StateSet) : List Char → Bool
  | [] => (machine.closure active).meets machine.finals
  | c :: rest =>
    match CharClass.ofChar? c with
    | none => false
    | some cls =>
      let next := machine.advance active cls
      if next.isEmpty then false else machine.acceptsFrom next rest

/-- Is the input accepted? -/
def accepts (machine : Automaton) (input : String) : Bool :=
  machine.acceptsFrom (machine.closure {machine.start}) input.toList

end PatternNfa.Automaton
