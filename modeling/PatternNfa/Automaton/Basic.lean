/-
**Nondeterministic automata.**

An automaton numbers its states from zero and never gives a number away twice. One state is the
start, some are final, and every state has a row of transitions. The operations that change an
automaton accept any state and refuse one that the automaton does not have; they tell whether they
took effect.

* `destinations_addTransition`: an added transition shows in one entry and nowhere else;
* `mem_transitions`: the list of transitions shows exactly the entries of the rows.
-/

import PatternNfa.Automaton.Symbol

namespace PatternNfa

/-- A nondeterministic automaton with epsilon transitions. -/
structure Automaton where
  /-- The transitions out of each state. -/
  rows : Array Row
  /-- The state in which reading begins. -/
  start : State
  /-- The states in which reading may end. -/
  finals : StateSet
  deriving DecidableEq

/-- One transition. -/
structure Transition where
  source : State
  symbol : Symbol
  target : State
  deriving DecidableEq

namespace Automaton

/-- An automaton of isolated states that starts in state zero. It has `count` states, but one even
when none is asked for. -/
def isolated (count : Nat) : Automaton where
  rows := Array.replicate (max 1 count) Row.empty
  start := 0
  finals := ∅

/-- The automaton with a single state, no transition and no final state. -/
def single : Automaton := isolated 1

instance : Inhabited Automaton := ⟨single⟩

/-- The number of states. -/
def size (machine : Automaton) : Nat := machine.rows.size

/-- Does the automaton have the state? -/
def contains (machine : Automaton) (state : State) : Bool := state < machine.size

/-! ### Reading an automaton -/

/-- The states that a symbol leads to from a state, if there are any. -/
def destinations (machine : Automaton) (state : State) (symbol : Symbol) : Option StateSet :=
  machine.rows[state]?.bind fun row => row.get? symbol

/-- Does a symbol lead anywhere from a state? -/
def hasTransition (machine : Automaton) (state : State) (symbol : Symbol) : Bool :=
  (machine.destinations state symbol).isSome

/-- The transitions in ascending order, first by source, then by symbol, then by target. -/
def transitions (machine : Automaton) : List Transition :=
  machine.rows.toList.zipIdx.flatMap fun (row, source) =>
    row.entries.flatMap fun (symbol, targets) =>
      targets.toList.map fun target => ⟨source, symbol, target⟩

/-- The list of transitions shows exactly the entries of the rows. -/
theorem mem_transitions {machine : Automaton} {transition : Transition} :
    transition ∈ machine.transitions ↔
      ∃ targets, machine.destinations transition.source transition.symbol = some targets ∧
        transition.target ∈ targets := by
  rcases transition with ⟨source, symbol, target⟩
  simp only [transitions, destinations, List.mem_flatMap, List.mem_map, Prod.exists,
    Row.mem_entries, List.mem_zipIdx_iff_getElem?, Array.getElem?_toList, Option.bind_eq_some_iff,
    Std.ExtTreeSet.mem_toList, Transition.mk.injEq]
  constructor
  · rintro ⟨row, _, found, _, targets, entry, _, inside, rfl, rfl, rfl⟩
    exact ⟨targets, ⟨row, found, entry⟩, inside⟩
  · rintro ⟨targets, ⟨row, found, entry⟩, inside⟩
    exact ⟨row, source, found, symbol, targets, entry, target, inside, rfl, rfl, rfl⟩

/-! ### Changing an automaton -/

/-- Changes the rows and keeps the rest. -/
@[inline] def mapRows (change : Array Row → Array Row) : Automaton → Automaton
  | ⟨rows, start, finals⟩ => ⟨change rows, start, finals⟩

@[simp] theorem rows_mapRows (change : Array Row → Array Row) (machine : Automaton) :
    (machine.mapRows change).rows = change machine.rows := rfl

@[simp] theorem start_mapRows (change : Array Row → Array Row) (machine : Automaton) :
    (machine.mapRows change).start = machine.start := rfl

@[simp] theorem finals_mapRows (change : Array Row → Array Row) (machine : Automaton) :
    (machine.mapRows change).finals = machine.finals := rfl

/-- Adds an isolated state. Returns its number, which is the number of states there were. -/
def addState (machine : Automaton) : State × Automaton :=
  (machine.size, machine.mapRows (·.push Row.empty))

/-- Adds a transition, provided that both its ends are states of the automaton. -/
def addTransition (machine : Automaton) (source : State) (symbol : Symbol) (target : State) :
    Bool × Automaton :=
  if machine.contains source && machine.contains target then
    (true, machine.mapRows (·.modify source (·.insert symbol target)))
  else
    (false, machine)

/-- Moves the start, provided that the new one is a state of the automaton. -/
def setStart (machine : Automaton) (state : State) : Bool × Automaton :=
  if machine.contains state then
    (true, { machine with start := state })
  else
    (false, machine)

/-- Makes a state final, provided that it is a state of the automaton and not yet final. -/
def addFinal (machine : Automaton) (state : State) : Bool × Automaton :=
  if machine.contains state && !machine.finals.contains state then
    (true, { machine with finals := machine.finals.insert state })
  else
    (false, machine)

/-- Leaves no state final. -/
def clearFinals (machine : Automaton) : Automaton :=
  { machine with finals := ∅ }

@[simp] theorem size_isolated (count : Nat) : (isolated count).size = max 1 count := by
  simp [isolated, size]

@[simp] theorem size_addState (machine : Automaton) :
    machine.addState.2.size = machine.size + 1 := by
  simp [addState, size]

/-- A new state has no transitions, and those of the others stay. -/
@[simp] theorem destinations_addState (machine : Automaton) (state : State) (symbol : Symbol) :
    machine.addState.2.destinations state symbol = machine.destinations state symbol := by
  simp only [addState, destinations, rows_mapRows, Array.getElem?_push]
  by_cases new : state = machine.rows.size
  · simp [new]
  · simp [new]

/-- A state outside of the automaton has no transitions. -/
theorem destinations_of_size_le {machine : Automaton} {state : State}
    (outside : machine.size ≤ state) (symbol : Symbol) :
    machine.destinations state symbol = none := by
  simp [destinations, Array.getElem?_eq_none outside]

@[simp] theorem size_addTransition (machine : Automaton) (source : State) (symbol : Symbol)
    (target : State) : (machine.addTransition source symbol target).2.size = machine.size := by
  unfold addTransition size
  split <;> simp

@[simp] theorem size_setStart (machine : Automaton) (state : State) :
    (machine.setStart state).2.size = machine.size := by
  unfold setStart
  split <;> rfl

@[simp] theorem size_addFinal (machine : Automaton) (state : State) :
    (machine.addFinal state).2.size = machine.size := by
  unfold addFinal
  split <;> rfl

/-- A transition between two states of the automaton is put into the row of the first. -/
theorem addTransition_of_lt {machine : Automaton} {source target : State}
    (sourceInside : source < machine.size) (targetInside : target < machine.size)
    (symbol : Symbol) :
    machine.addTransition source symbol target =
      (true, machine.mapRows (·.modify source (·.insert symbol target))) :=
  if_pos (Bool.and_eq_true_iff.mpr ⟨decide_eq_true sourceInside, decide_eq_true targetInside⟩)

/-- A transition that names any other state is refused. -/
theorem addTransition_of_not_lt {machine : Automaton} {source target : State}
    (foreign : ¬(source < machine.size ∧ target < machine.size)) (symbol : Symbol) :
    machine.addTransition source symbol target = (false, machine) := by
  refine if_neg fun members => foreign ?_
  obtain ⟨sourceInside, targetInside⟩ := Bool.and_eq_true_iff.mp members
  exact ⟨of_decide_eq_true sourceInside, of_decide_eq_true targetInside⟩

/-- **An added transition shows in one entry and nowhere else.** -/
theorem destinations_addTransition {machine : Automaton} {source target : State}
    (sourceInside : source < machine.size) (targetInside : target < machine.size)
    (symbol : Symbol) (state : State) (other : Symbol) :
    (machine.addTransition source symbol target).2.destinations state other =
      if state = source ∧ other = symbol then
        Row.addTarget target (machine.destinations source symbol)
      else machine.destinations state other := by
  have row : machine.rows[source]? = some machine.rows[source] :=
    Array.getElem?_eq_getElem sourceInside
  rw [addTransition_of_lt sourceInside targetInside]
  simp only [destinations, rows_mapRows, Array.getElem?_modify]
  by_cases same : state = source
  · subst same
    simp [row, Row.get?_insert]
  · simp [same, Ne.symm same]

end Automaton

end PatternNfa
