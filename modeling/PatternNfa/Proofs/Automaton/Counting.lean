/-
**How many transitions there are.**

The transitions are listed in ascending order, so each of them is listed once. The operations on
automata keep every transition and add links, all different from what there was before. So the
transitions of a result are, in some order, those of the operands and the links, and can be counted.

* `pairwise_before_transitions`: the transitions in ascending order;
* `transitions_star_perm`, `transitions_concatenate_perm`, `transitions_union_perm`: the transitions of
  a repetition, a concatenation and a union;
* `countP_read_star`, `countP_read_concatenate`, `countP_read_union`: those of them that read a class;
* `size_finals_star_le`, `size_finals_concatenate_le`, `size_finals_union_le`: their final states.
-/

import PatternNfa.Proofs.Automaton.Closure
import PatternNfa.Proofs.Automaton.Trim

namespace PatternNfa

/-! ### The order of the transitions -/

/-- The place of a symbol among all symbols. -/
def Symbol.rank : Symbol → Nat
  | .read .letter => 0
  | .read .digit => 1
  | .epsilon => 2

/-- **One transition comes before another**: by source, then by symbol, then by target. -/
def Transition.Before (first second : Transition) : Prop :=
  first.source < second.source ∨ first.source = second.source ∧
    (first.symbol.rank < second.symbol.rank ∨
      first.symbol = second.symbol ∧ first.target < second.target)

theorem Transition.Before.ne {first second : Transition} (before : first.Before second) :
    first ≠ second := by
  rintro rfl
  rcases before with lower | ⟨_, lower | ⟨_, lower⟩⟩
  · exact Nat.lt_irrefl _ lower
  · exact Nat.lt_irrefl _ lower
  · exact Nat.lt_irrefl _ lower

/-- Different transitions stay different when they are moved up. -/
theorem Transition.shift_injective (offset : Nat) : Function.Injective (Transition.shift offset) := by
  rintro ⟨source, symbol, target⟩ ⟨otherSource, otherSymbol, otherTarget⟩ same
  obtain ⟨sources, symbols, targets⟩ := Transition.mk.inj same
  rw [Transition.mk.injEq]
  exact ⟨Nat.add_right_cancel sources, symbols, Nat.add_right_cancel targets⟩

theorem Row.pairwise_entries (row : Row) :
    row.entries.Pairwise fun first second => first.1.rank < second.1.rank := by
  have ranked : Symbol.all.Pairwise fun first second => first.rank < second.rank := by decide
  refine ranked.filterMap _ fun first second lower entry kept other otherKept => ?_
  obtain ⟨targets, _, rfl⟩ := Option.map_eq_some_iff.mp kept
  obtain ⟨otherTargets, _, rfl⟩ := Option.map_eq_some_iff.mp otherKept
  exact lower

theorem StateSet.pairwise_lt_toList (states : StateSet) : states.toList.Pairwise (· < ·) :=
  Std.ExtTreeSet.ordered_toList.imp Nat.compare_eq_lt.mp

theorem pairwise_zipIdx {α : Type} (items : List α) :
    items.zipIdx.Pairwise fun first second => first.2 < second.2 := by
  have places : (items.zipIdx.map Prod.snd).Pairwise (· < ·) := by
    rw [List.zipIdx_map_snd]
    exact List.pairwise_lt_range'
  exact List.pairwise_map.mp places

namespace Automaton

variable {machine other : Automaton} {transition : Transition}

/-- **The transitions are in ascending order.** -/
theorem pairwise_before_transitions (machine : Automaton) :
    machine.transitions.Pairwise Transition.Before := by
  unfold transitions
  refine List.pairwise_flatMap.mpr ⟨fun numbered _ => ?_, ?_⟩
  · refine List.pairwise_flatMap.mpr ⟨fun entry _ => ?_, ?_⟩
    · refine List.pairwise_map.mpr (entry.2.pairwise_lt_toList.imp fun lower => ?_)
      exact Or.inr ⟨rfl, Or.inr ⟨rfl, lower⟩⟩
    · refine numbered.1.pairwise_entries.imp fun lower first firstListed second secondListed => ?_
      obtain ⟨_, _, rfl⟩ := List.mem_map.mp firstListed
      obtain ⟨_, _, rfl⟩ := List.mem_map.mp secondListed
      exact Or.inr ⟨rfl, Or.inl lower⟩
  · refine (pairwise_zipIdx machine.rows.toList).imp
      fun lower first firstListed second secondListed => ?_
    obtain ⟨_, _, firstListed⟩ := List.mem_flatMap.mp firstListed
    obtain ⟨_, _, secondListed⟩ := List.mem_flatMap.mp secondListed
    obtain ⟨_, _, rfl⟩ := List.mem_map.mp firstListed
    obtain ⟨_, _, rfl⟩ := List.mem_map.mp secondListed
    exact Or.inl lower

theorem nodup_transitions (machine : Automaton) : machine.transitions.Nodup :=
  machine.pairwise_before_transitions.imp Transition.Before.ne

/-- The transitions are those of a list without repetitions that holds no others. -/
theorem transitions_perm {listed : List Transition} (nodup : listed.Nodup)
    (same : ∀ transition, transition ∈ machine.transitions ↔ transition ∈ listed) :
    machine.transitions.Perm listed :=
  (List.perm_ext_iff_of_nodup machine.nodup_transitions nodup).mpr same

/-! ### Links -/

/-- The epsilon transitions from the sources to the target. -/
def links (sources : List State) (target : State) : List Transition :=
  sources.map fun source => ⟨source, .epsilon, target⟩

theorem mem_links {sources : List State} {target : State} :
    transition ∈ links sources target ↔
      ∃ source ∈ sources, transition = ⟨source, .epsilon, target⟩ := by
  simp only [links, List.mem_map, eq_comm]

theorem nodup_links {sources : List State} (nodup : sources.Nodup) (target : State) :
    (links sources target).Nodup :=
  nodup.map fun _ _ same => (Transition.mk.inj same).1

/-- Links read nothing. -/
theorem countP_read_links (cls : CharClass) (sources : List State) (target : State) :
    (links sources target).countP (·.symbol = .read cls) = 0 := by
  refine List.countP_eq_zero.mpr fun transition linked => ?_
  obtain ⟨source, _, rfl⟩ := mem_links.mp linked
  simp

/-- What transitions read does not change when they are moved up. -/
theorem countP_read_map_shift (cls : CharClass) (offset : Nat) (transitions : List Transition) :
    (transitions.map (Transition.shift offset)).countP (·.symbol = .read cls) =
      transitions.countP (·.symbol = .read cls) := by
  rw [List.countP_map]
  rfl

/-! ### Operations -/

/-- **The transitions of a repetition** are the old ones and a link from each final state. The links
are new because no transition has led to the old start. -/
theorem transitions_star_perm (trim : machine.Trim) :
    machine.star.transitions.Perm
      (machine.transitions ++ links machine.star.finals.toList machine.start) := by
  have fresh : machine.transitions.Disjoint (links machine.star.finals.toList machine.start) := by
    intro transition old linked
    obtain ⟨exit, _, rfl⟩ := mem_links.mp linked
    exact trim.target_ne_start _ old rfl
  refine transitions_perm (machine.nodup_transitions.append
    (nodup_links (StateSet.nodup_toList _) _) fresh) fun transition => ?_
  rw [mem_transitions_star trim.toWellFormed, List.mem_append, mem_links]
  simp only [Std.ExtTreeSet.mem_toList]

theorem countP_read_star (trim : machine.Trim) (cls : CharClass) :
    machine.star.transitions.countP (·.symbol = .read cls) =
      machine.transitions.countP (·.symbol = .read cls) := by
  rw [(transitions_star_perm trim).countP_eq, List.countP_append, countP_read_links, Nat.add_zero]

/-- The transitions of the second automaton, moved up, begin above those of the first. -/
theorem disjoint_map_shift (machine other : Automaton) :
    machine.transitions.Disjoint (other.transitions.map (.shift machine.size)) := by
  intro transition old moved
  obtain ⟨origin, _, rfl⟩ := List.mem_map.mp moved
  exact not_add_size_lt (source_lt_size old)

/-- The transitions of both automata, and others that differ from them, are listed once each. -/
theorem nodup_append_map_shift {added : List Transition} (nodup : added.Nodup)
    (oldApart : machine.transitions.Disjoint added)
    (movedApart : (other.transitions.map (Transition.shift machine.size)).Disjoint added) :
    (machine.transitions ++ (other.transitions.map (Transition.shift machine.size) ++ added)).Nodup := by
  have moved := (other.nodup_transitions.map (Transition.shift_injective machine.size)).append nodup
    movedApart
  exact machine.nodup_transitions.append moved
    (List.disjoint_append_right.mpr ⟨disjoint_map_shift machine other, oldApart⟩)

/-- **The transitions of a concatenation** are those of both automata, and a link from each final
state of the first. -/
theorem transitions_concatenate_perm (sound : machine.WellFormed) (otherSound : other.WellFormed) :
    (machine.concatenate other).transitions.Perm
      (machine.transitions ++ (other.transitions.map (.shift machine.size) ++
        links machine.finals.toList (other.start + machine.size))) := by
  have exit_lt {transition : Transition} {target : State}
      (linked : transition ∈ links machine.finals.toList target) :
      transition.source < machine.size := by
    obtain ⟨exit, final, rfl⟩ := mem_links.mp linked
    exact sound.final_lt exit (Std.ExtTreeSet.mem_toList.mp final)
  have movedApart : (other.transitions.map (.shift machine.size)).Disjoint
      (links machine.finals.toList (other.start + machine.size)) := by
    intro transition moved linked
    obtain ⟨origin, _, rfl⟩ := List.mem_map.mp moved
    exact not_add_size_lt (exit_lt linked)
  have oldApart : machine.transitions.Disjoint
      (links machine.finals.toList (other.start + machine.size)) := by
    intro transition old linked
    obtain ⟨exit, _, rfl⟩ := mem_links.mp linked
    exact not_add_size_lt (sound.target_lt _ old)
  refine transitions_perm (nodup_append_map_shift (nodup_links (StateSet.nodup_toList _) _) oldApart
    movedApart) fun transition => ?_
  rw [mem_transitions_concatenate sound otherSound, List.mem_append, List.mem_append, mem_links]
  simp only [List.mem_map, Std.ExtTreeSet.mem_toList, eq_comm]

theorem countP_read_concatenate (sound : machine.WellFormed) (otherSound : other.WellFormed)
    (cls : CharClass) :
    (machine.concatenate other).transitions.countP (·.symbol = .read cls) =
      machine.transitions.countP (·.symbol = .read cls) +
        other.transitions.countP (·.symbol = .read cls) := by
  rw [(transitions_concatenate_perm sound otherSound).countP_eq, List.countP_append,
    List.countP_append, countP_read_map_shift, countP_read_links, Nat.add_zero]

/-- The two transitions out of the new state of a union. -/
def forks (machine other : Automaton) : List Transition :=
  [⟨machine.size + other.size, .epsilon, machine.start⟩,
    ⟨machine.size + other.size, .epsilon, other.start + machine.size⟩]

theorem nodup_forks (sound : machine.WellFormed) : (forks machine other).Nodup := by
  have apart : machine.start ≠ other.start + machine.size :=
    Nat.ne_of_lt (Nat.lt_of_lt_of_le sound.start_lt (Nat.le_add_left _ _))
  simp [forks, apart]

theorem source_of_mem_forks (forked : transition ∈ forks machine other) :
    transition.source = machine.size + other.size := by
  rcases List.mem_pair.mp forked with rfl | rfl
  · rfl
  · rfl

/-- **The transitions of a union** are those of both automata, and two from the new state. -/
theorem transitions_union_perm (sound : machine.WellFormed) (otherSound : other.WellFormed) :
    (machine.union other).transitions.Perm
      (machine.transitions ++
        (other.transitions.map (.shift machine.size) ++ forks machine other)) := by
  have movedApart :
      (other.transitions.map (.shift machine.size)).Disjoint (forks machine other) := by
    intro transition moved forked
    obtain ⟨origin, listed, rfl⟩ := List.mem_map.mp moved
    exact Nat.ne_of_lt (add_size_lt (source_lt_size listed)) (source_of_mem_forks forked)
  have oldApart : machine.transitions.Disjoint (forks machine other) := by
    intro transition old forked
    exact Nat.ne_of_lt (Nat.lt_add_right _ (source_lt_size old)) (source_of_mem_forks forked)
  refine transitions_perm (nodup_append_map_shift (nodup_forks sound) oldApart movedApart)
    fun transition => ?_
  rw [mem_transitions_union sound otherSound, List.mem_append, List.mem_append, forks,
    List.mem_pair]
  simp only [List.mem_map, eq_comm]

theorem countP_read_union (sound : machine.WellFormed) (otherSound : other.WellFormed)
    (cls : CharClass) :
    (machine.union other).transitions.countP (·.symbol = .read cls) =
      machine.transitions.countP (·.symbol = .read cls) +
        other.transitions.countP (·.symbol = .read cls) := by
  have silent : (forks machine other).countP (·.symbol = .read cls) = 0 := rfl
  rw [(transitions_union_perm sound otherSound).countP_eq, List.countP_append,
    List.countP_append, countP_read_map_shift, silent, Nat.add_zero]

/-! ### Final states -/

theorem size_finals_star_le (machine : Automaton) :
    machine.star.finals.size ≤ machine.finals.size + 1 := by
  have covered : machine.star.finals.size ≤ (machine.size :: machine.finals.toList).length := by
    refine StateSet.size_le_length fun state final => ?_
    rw [List.mem_cons, Std.ExtTreeSet.mem_toList]
    exact (mem_finals_star.mp final).symm
  rwa [List.length_cons, Std.ExtTreeSet.length_toList] at covered

theorem size_finals_concatenate_le (machine other : Automaton) :
    (machine.concatenate other).finals.size ≤ other.finals.size := by
  have covered : (other.finals.shift machine.size).size ≤
      (other.finals.toList.map (· + machine.size)).length :=
    StateSet.size_le_length fun state moved => StateSet.mem_ofStates.mp moved
  rwa [List.length_map, Std.ExtTreeSet.length_toList, ← finals_concatenate] at covered

theorem size_finals_union_le (machine other : Automaton) :
    (machine.union other).finals.size ≤ machine.finals.size + other.finals.size := by
  have covered : (machine.union other).finals.size ≤
      (machine.finals.toList ++ other.finals.toList.map (· + machine.size)).length := by
    refine StateSet.size_le_length fun state final => ?_
    rw [List.mem_append, Std.ExtTreeSet.mem_toList]
    exact (mem_finals_union.mp final).imp id StateSet.mem_ofStates.mp
  rwa [List.length_append, List.length_map, Std.ExtTreeSet.length_toList,
    Std.ExtTreeSet.length_toList] at covered

end Automaton

end PatternNfa
