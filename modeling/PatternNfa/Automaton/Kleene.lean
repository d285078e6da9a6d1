/-
**Repetition, concatenation and union of automata.**

The three operations on languages, carried out on automata by epsilon transitions. An automaton
that takes in a second one keeps its own numbers, and the states of the second follow after them in
their own order. An absent second operand leaves the first as it is.

* `destinations_absorb`: below the offset are the transitions of the first, from it on those of the
  second, renumbered;
* `size_star`, `size_concatenate`, `size_union`: how many states each operation needs.
-/

import PatternNfa.Automaton.Basic

namespace PatternNfa.Automaton

/-- Lets reading pass from each of the sources to the target without a character. -/
def linkAll (machine : Automaton) (sources : List State) (target : State) : Automaton :=
  sources.foldl (fun linked source => (linked.addTransition source .epsilon target).2) machine

@[simp] theorem size_linkAll (machine : Automaton) (sources : List State) (target : State) :
    (machine.linkAll sources target).size = machine.size := by
  unfold linkAll
  induction sources generalizing machine with
  | nil => rfl
  | cons source sources ih => rw [List.foldl_cons, ih, size_addTransition]

/-- Appends the states of another automaton, moved up by the number of states there are. Start and
final states stay as they are. -/
def absorb (machine other : Automaton) : Automaton :=
  machine.mapRows fun rows => rows ++ other.rows.map (Row.shift rows.size)

@[simp] theorem size_absorb (machine other : Automaton) :
    (machine.absorb other).size = machine.size + other.size := by
  simp [absorb, size]

/-- **Below the offset are the transitions of the first, from it on those of the second**, with
their targets moved up. -/
theorem destinations_absorb (machine other : Automaton) (state : State) (symbol : Symbol) :
    (machine.absorb other).destinations state symbol =
      if state < machine.size then
        machine.destinations state symbol
      else
        (other.destinations (state - machine.size) symbol).map
          (StateSet.shift machine.size) := by
  simp only [absorb, destinations, size, rows_mapRows, Array.getElem?_append, Array.getElem?_map]
  by_cases below : state < machine.rows.size
  · simp [below]
  · cases other.rows[state - machine.rows.size]? <;> simp [below]

/-- Zero or more repetitions. A new state becomes the start and is final; it leads to the old
start, and so does every old final state. -/
def star (machine : Automaton) : Automaton :=
  let entry := machine.start
  let exits := machine.finals.toList
  let (fresh, grown) := machine.addState
  let linked := grown.linkAll (fresh :: exits) entry
  ({ linked with start := fresh }.addFinal fresh).2

@[simp] theorem size_star (machine : Automaton) : machine.star.size = machine.size + 1 := by
  unfold star
  rw [size_addFinal]
  exact (size_linkAll _ _ _).trans (size_addState machine)

/-- What the first reads, followed by what the second reads. The final states of the first lead to
the start of the second, and only those of the second stay final. -/
def concatenate (machine other : Automaton) : Automaton :=
  let offset := machine.size
  let exits := machine.finals.toList
  let joined := { machine.absorb other with finals := other.finals.shift offset }
  joined.linkAll exits (other.start + offset)

@[simp] theorem size_concatenate (machine other : Automaton) :
    (machine.concatenate other).size = machine.size + other.size :=
  (size_linkAll _ _ _).trans (size_absorb machine other)

/-- What either reads. A new state becomes the start and leads to both old ones. -/
def union (machine other : Automaton) : Automaton :=
  let offset := machine.size
  let entry := machine.start
  let (fresh, grown) := (machine.absorb other).addState
  let forked := (grown.linkAll [fresh] entry).linkAll [fresh] (other.start + offset)
  { forked with
    start := fresh
    finals := forked.finals.insertAll (other.finals.shift offset) }

@[simp] theorem size_union (machine other : Automaton) :
    (machine.union other).size = machine.size + other.size + 1 :=
  calc (machine.union other).size
      = (machine.absorb other).addState.2.size :=
        (size_linkAll _ _ _).trans (size_linkAll _ _ _)
    _ = machine.size + other.size + 1 := by rw [size_addState, size_absorb]

/-- Concatenation with an operand that may be absent. -/
def concatenateOption (machine : Automaton) (other : Option Automaton) : Automaton :=
  other.elim machine machine.concatenate

/-- Union with an operand that may be absent. -/
def unionOption (machine : Automaton) (other : Option Automaton) : Automaton :=
  other.elim machine machine.union

end PatternNfa.Automaton
