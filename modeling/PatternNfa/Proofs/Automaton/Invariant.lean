/-
**What holds of every automaton.**

Whatever was done to build it, an automaton has a state, it names no state that it does not have, and
each entry that it keeps shows in the list of its transitions. So nothing is lost on the way: each
edit that a repetition, a concatenation or a union makes names states that are there, and takes
effect. States that are moved up stay below the new size, and moving them up is exact in any width of
numbers that the new size fits.

* `addTransition_cases`: the row that an added transition changes is there;
* `Effective`: edits that take effect, one after another;
* `WellFormed.effective_star`, `WellFormed.effective_concatenate`, `WellFormed.effective_union`: the
  edits that the operations make;
* `invariant_of_built`: what holds of every automaton.
-/

import PatternNfa.Proofs.Automaton.Acceptance

namespace PatternNfa

/-- The states that an edit names. -/
def Edit.states : Edit → List State
  | .addTransition source _ target => [source, target]
  | .setStart state => [state]
  | .addFinal state => [state]
  | _ => []

/-- The edits by which reading may pass from each of the sources to the target. -/
def Edit.links (sources : List State) (target : State) : List Edit :=
  sources.map fun source => .addTransition source .epsilon target

namespace Automaton

variable {machine changed last other : Automaton} {edit : Edit} {edits more : List Edit}
  {source target state : State} {symbol : Symbol}

/-! ### Named states and entries -/

/-- The automaton names the state: as its start, as a final state, or in an entry of a row. -/
def Names (machine : Automaton) (state : State) : Prop :=
  state = machine.start ∨ state ∈ machine.finals ∨
    ∃ source symbol targets, machine.destinations source symbol = some targets ∧ state ∈ targets

theorem WellFormed.lt_of_names (sound : machine.WellFormed) (named : machine.Names state) :
    state < machine.size := by
  obtain rfl | final | ⟨source, symbol, targets, found, inside⟩ := named
  · exact sound.start_lt
  · exact sound.final_lt state final
  · exact sound.target_lt ⟨source, symbol, state⟩ (mem_transitions.mpr ⟨targets, found, inside⟩)

/-- An entry that is kept shows in the list of the transitions. -/
theorem WellFormed.hasTransition_iff (sound : machine.WellFormed) :
    machine.hasTransition state symbol = true ↔
      ∃ target, ⟨state, symbol, target⟩ ∈ machine.transitions := by
  rw [hasTransition, Option.isSome_iff_exists]
  constructor
  · intro kept
    obtain ⟨targets, found⟩ := kept
    have nonempty : targets ≠ ∅ := fun isEmpty =>
      sound.entry_ne_empty state symbol (isEmpty ▸ found)
    obtain ⟨target, inside⟩ := StateSet.exists_mem_of_ne_empty nonempty
    exact ⟨target, mem_transitions.mpr ⟨targets, found, inside⟩⟩
  · intro listed
    obtain ⟨target, isListed⟩ := listed
    obtain ⟨targets, found, _⟩ := mem_transitions.mp isListed
    exact ⟨targets, found⟩

/-- Only the row of the first state changes, and that row is there. -/
theorem addTransition_eq_set (sourceInside : source < machine.rows.size)
    (targetInside : target < machine.rows.size) :
    machine.addTransition source symbol target =
      (true, { machine with
        rows := machine.rows.set source (machine.rows[source].insert symbol target) }) := by
  have rows : machine.rows.modify source (·.insert symbol target) =
      machine.rows.set source (machine.rows[source].insert symbol target) := by
    refine Array.ext (by simp) fun index _ _ => ?_
    rw [Array.getElem_modify, Array.getElem_set]
    by_cases same : source = index
    · subst same
      simp only [if_true]
    · simp only [same, if_false]
  rw [addTransition_of_lt sourceInside targetInside, ← rows]
  rfl

/-- **The row that an added transition changes is there.** A transition that names another state
changes nothing. -/
theorem addTransition_cases (machine : Automaton) (source : State) (symbol : Symbol)
    (target : State) :
    (∃ inside : source < machine.rows.size, target < machine.rows.size ∧
        machine.addTransition source symbol target =
          (true, { machine with
            rows := machine.rows.set source (machine.rows[source].insert symbol target) })) ∨
      ((machine.size ≤ source ∨ machine.size ≤ target) ∧
        machine.addTransition source symbol target = (false, machine)) := by
  by_cases inside : source < machine.size ∧ target < machine.size
  · exact Or.inl ⟨inside.1, inside.2, addTransition_eq_set inside.1 inside.2⟩
  · have outside : machine.size ≤ source ∨ machine.size ≤ target := by
      rw [← Nat.not_lt, ← Nat.not_lt]
      exact not_and_or.mp inside
    exact Or.inr ⟨outside, addTransition_of_not_lt inside symbol⟩

/-! ### Edits that take effect -/

/-- **Edits that take effect**, one after another. Each names states that are there when its turn
comes, and answers that it was carried out. -/
inductive Effective : Automaton → List Edit → Automaton → Prop
  | nil {machine : Automaton} : Effective machine [] machine
  | cons {machine changed last : Automaton} {edit : Edit} {edits : List Edit} :
      (∀ state ∈ edit.states, state < machine.size) → edit.apply machine = (.truth true, changed) →
      Effective changed edits last → Effective machine (edit :: edits) last

namespace Effective

theorem append (first : Effective machine edits changed) (second : Effective changed more last) :
    Effective machine (edits ++ more) last := by
  induction first with
  | nil => exact second
  | cons named taken _ ih => exact .cons named taken (ih second)

theorem single (named : ∀ state ∈ edit.states, state < machine.size)
    (taken : edit.apply machine = (.truth true, changed)) : Effective machine [edit] changed :=
  .cons named taken .nil

theorem addTransition (sourceInside : source < machine.size) (targetInside : target < machine.size) :
    Effective machine [.addTransition source symbol target]
      (machine.addTransition source symbol target).2 := by
  refine single (by simp [Edit.states, sourceInside, targetInside]) ?_
  rw [Edit.apply, addTransition_of_lt sourceInside targetInside]

theorem setStart (inside : state < machine.size) :
    Effective machine [.setStart state] { machine with start := state } := by
  refine single (by simp [Edit.states, inside]) ?_
  have moved : machine.setStart state = (true, { machine with start := state }) :=
    if_pos (decide_eq_true inside)
  rw [Edit.apply, moved]

theorem addFinal (inside : state < machine.size) (new : state ∉ machine.finals) :
    Effective machine [.addFinal state] (machine.addFinal state).2 := by
  refine single (by simp [Edit.states, inside]) ?_
  have accepted : machine.addFinal state =
      (true, { machine with finals := machine.finals.insert state }) := by
    rw [Automaton.addFinal, if_pos]
    simpa [contains, inside, ← Std.ExtTreeSet.contains_iff_mem] using new
  rw [Edit.apply, accepted]

/-- No link between states of the automaton is refused. -/
theorem links {sources : List State} (sourcesInside : ∀ source ∈ sources, source < machine.size)
    (targetInside : target < machine.size) :
    Effective machine (Edit.links sources target) (machine.linkAll sources target) := by
  induction sources generalizing machine with
  | nil => exact .nil
  | cons source sources ih =>
    have first := sourcesInside source List.mem_cons_self
    refine (addTransition first targetInside).append (ih (fun later listed => ?_) ?_)
    · rw [size_addTransition]
      exact sourcesInside later (List.mem_cons_of_mem _ listed)
    · rw [size_addTransition]
      exact targetInside

end Effective

/-! ### The edits that the operations make -/

/-- **The edits of a repetition take effect**, after its new state was added. -/
theorem WellFormed.effective_star (sound : machine.WellFormed) :
    Effective machine.addState.2
      (Edit.links (machine.size :: machine.finals.toList) machine.start ++
        [.setStart machine.size, .addFinal machine.size]) machine.star := by
  have fresh : machine.size < machine.addState.2.size := by
    rw [size_addState]
    exact Nat.lt_succ_self _
  have sources : ∀ source ∈ machine.size :: machine.finals.toList,
      source < machine.addState.2.size := by
    intro source listed
    rcases List.mem_cons.mp listed with rfl | final
    · exact fresh
    · exact sound.addState.final_lt source (Std.ExtTreeSet.mem_toList.mp final)
  have freshLinked : machine.size < (machine.addState.2.linkAll
      (machine.size :: machine.finals.toList) machine.start).size := by
    rw [size_linkAll]
    exact fresh
  have new : machine.size ∉ (machine.addState.2.linkAll
      (machine.size :: machine.finals.toList) machine.start).finals := by
    rw [finals_linkAll]
    exact fun final => Nat.lt_irrefl _ (sound.final_lt _ final)
  exact (Effective.links sources sound.addState.start_lt).append
    ((Effective.setStart freshLinked).append (Effective.addFinal freshLinked new))

/-- **The edits of a concatenation take effect**, after the second automaton was taken in. -/
theorem WellFormed.effective_concatenate (sound : machine.WellFormed)
    (otherSound : other.WellFormed) :
    Effective { machine.absorb other with finals := other.finals.shift machine.size }
      (Edit.links machine.finals.toList (other.start + machine.size))
      (machine.concatenate other) := by
  refine Effective.links (fun source listed => ?_) ?_
  · have inside := sound.final_lt source (Std.ExtTreeSet.mem_toList.mp listed)
    show source < (machine.absorb other).size
    rw [size_absorb]
    exact Nat.lt_add_right _ inside
  · show other.start + machine.size < (machine.absorb other).size
    rw [size_absorb]
    exact add_size_lt otherSound.start_lt

/-- **The edits of a union take effect**, after the second automaton was taken in and the new state
was added. Then the final states of the second join those of the first. -/
theorem WellFormed.effective_union (sound : machine.WellFormed) (otherSound : other.WellFormed) :
    ∃ forked, Effective (machine.absorb other).addState.2
        [.addTransition (machine.size + other.size) .epsilon machine.start,
          .addTransition (machine.size + other.size) .epsilon (other.start + machine.size),
          .setStart (machine.size + other.size)] forked ∧
      machine.union other =
        { forked with finals := forked.finals.insertAll (other.finals.shift machine.size) } := by
  have otherInside : other.start + machine.size < (machine.absorb other).size := by
    rw [size_absorb]
    exact add_size_lt otherSound.start_lt
  have fresh : (machine.absorb other).size < (machine.absorb other).addState.2.size := by
    rw [size_addState]
    exact Nat.lt_succ_self _
  have entry := (sound.absorb otherSound).addState.start_lt
  have otherEntry := Nat.lt_trans otherInside fresh
  rw [← size_absorb machine other]
  refine ⟨_, (Effective.addTransition fresh entry).append ((Effective.addTransition ?_ ?_).append
    (Effective.setStart ?_)), rfl⟩
  · rw [size_addTransition]
    exact fresh
  · rw [size_addTransition]
    exact otherEntry
  · rw [size_addTransition, size_addTransition]
    exact fresh

/-! ### States that are moved up -/

/-- Moving a state up is exact in numbers of a width that the new size fits. -/
theorem toNat_add_size {width : Nat} (fits : (machine.absorb other).size < 2 ^ width)
    (inside : state < other.size) :
    (BitVec.ofNat width state + BitVec.ofNat width machine.size).toNat = state + machine.size := by
  have below : state + machine.size < (machine.absorb other).size := by
    rw [size_absorb]
    exact add_size_lt inside
  rw [← BitVec.ofNat_add, BitVec.toNat_ofNat, Nat.mod_eq_of_lt (Nat.lt_trans below fits)]

/-! ### Every automaton -/

/-- **What holds of every automaton.** There is a state, all the states that are named are there, no
entry is empty, and an entry shows in the list of the transitions. A transition is put into a row that
is there, or changes nothing. The edits of a repetition, a concatenation and a union take effect. The
states of a second automaton that is taken in are moved up to states that are there, and its numbers
do not overflow if the new size does not. -/
theorem invariant_of_built (built : machine.Built) (otherBuilt : other.Built) :
    (1 ≤ machine.size ∧ (∀ state, machine.Names state → machine.contains state = true) ∧
        (∀ state symbol, machine.destinations state symbol ≠ some ∅) ∧
        ∀ state symbol, machine.hasTransition state symbol = true ↔
          ∃ target, ⟨state, symbol, target⟩ ∈ machine.transitions) ∧
      (∀ source symbol target,
        (∃ inside : source < machine.rows.size, target < machine.rows.size ∧
            machine.addTransition source symbol target =
              (true, { machine with
                rows := machine.rows.set source (machine.rows[source].insert symbol target) })) ∨
          ((machine.size ≤ source ∨ machine.size ≤ target) ∧
            machine.addTransition source symbol target = (false, machine))) ∧
      (Effective machine.addState.2
          (Edit.links (machine.size :: machine.finals.toList) machine.start ++
            [.setStart machine.size, .addFinal machine.size]) machine.star ∧
        Effective { machine.absorb other with finals := other.finals.shift machine.size }
          (Edit.links machine.finals.toList (other.start + machine.size))
          (machine.concatenate other) ∧
        ∃ forked, Effective (machine.absorb other).addState.2
            [.addTransition (machine.size + other.size) .epsilon machine.start,
              .addTransition (machine.size + other.size) .epsilon (other.start + machine.size),
              .setStart (machine.size + other.size)] forked ∧
          machine.union other =
            { forked with finals := forked.finals.insertAll (other.finals.shift machine.size) }) ∧
      ∀ state, other.Names state →
        state + machine.size < (machine.absorb other).size ∧
          ∀ width, (machine.absorb other).size < 2 ^ width →
            (BitVec.ofNat width state + BitVec.ofNat width machine.size).toNat =
              state + machine.size := by
  have sound := built.wellFormed
  have otherSound := otherBuilt.wellFormed
  refine ⟨⟨?_, ?_, sound.entry_ne_empty, fun state symbol => sound.hasTransition_iff⟩,
    machine.addTransition_cases, ⟨sound.effective_star, sound.effective_concatenate otherSound,
      sound.effective_union otherSound⟩, fun state named => ?_⟩
  · exact Nat.succ_le_of_lt (Nat.zero_lt_of_lt sound.start_lt)
  · exact fun state named => decide_eq_true (sound.lt_of_names named)
  · have inside := otherSound.lt_of_names named
    refine ⟨?_, fun width fits => toNat_add_size fits inside⟩
    rw [size_absorb]
    exact add_size_lt inside

/-- A repetition of the ring makes four edits. In two bits there is just room for the states of a
ring next to those of an automaton with one state. -/
theorem invariant_of_built_ring :
    Effective (ofParts .ring).addState.2
        [.addTransition 2 .epsilon 0, .addTransition 1 .epsilon 0, .setStart 2, .addFinal 2]
        (ofParts .ring).star ∧
      (BitVec.ofNat 2 1 + BitVec.ofNat 2 (single.size)).toNat = 2 := by
  have ring := (invariant_of_built (.ofParts .ring) .single).2.2.1
  have moved := (invariant_of_built .single (.ofParts .ring)).2.2.2 1 (Or.inr (Or.inl (by decide)))
  have fits : (single.absorb (ofParts .ring)).size < 2 ^ 2 := by
    rw [size_absorb, size_ofParts]
    decide
  exact ⟨ring.1, moved.2 2 fits⟩

end Automaton

end PatternNfa
