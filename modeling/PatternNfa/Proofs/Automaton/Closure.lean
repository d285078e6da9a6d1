/-
**The search finds what epsilon transitions reach.**

After every round the states found are those of the given set and some that epsilon transitions
reach from it; each of them is pending or has all its targets found; and the rounds and the pending
states together are as many as the states found (`Progress`). One round keeps this
(`Progress.advance`), so the whole search does (`Progress.run`). In a well-formed automaton the
states found are those of the given set and of the automaton, so the rounds are enough for nothing
to be pending at the end.

* `mem_closure`: the closure holds the states that epsilon transitions reach, and no others.
-/

import Mathlib.Data.List.Perm.Subperm
import PatternNfa.Automaton.Closure
import PatternNfa.Proofs.Automaton.Path

namespace PatternNfa

open Relation (ReflTransGen)

namespace StateSet

theorem nodup_toList (states : StateSet) : states.toList.Nodup :=
  Std.ExtTreeSet.distinct_toList.imp fun different same =>
    different (Std.compare_eq_iff_eq.mpr same)

theorem size_insert {states : StateSet} {new : State} (outside : new ∉ states) :
    (states.insert new).size = states.size + 1 := by
  rw [Std.ExtTreeSet.size_insert, if_neg (mt Std.ExtTreeSet.contains_iff_mem.mp outside)]

/-- A set is no larger than a list that holds all its states. -/
theorem size_le_length {states : StateSet} {listed : List State}
    (covers : ∀ state ∈ states, state ∈ listed) : states.size ≤ listed.length := by
  rw [← Std.ExtTreeSet.length_toList]
  exact (states.nodup_toList.subperm fun state inside =>
    covers state (Std.ExtTreeSet.mem_toList.mp inside)).length_le

end StateSet

namespace Search

/-! ### Noting the targets of one state -/

/-- A state is pending once at most, and only if it is found. -/
structure Tidy (search : Search) : Prop where
  nodup : search.pending.Nodup
  found : ∀ state ∈ search.pending, state ∈ search.seen

theorem note_of_mem {search : Search} {state : State} (seen : state ∈ search.seen) :
    search.note state = search := by
  rw [note, if_pos (Std.ExtTreeSet.contains_iff_mem.mpr seen)]

theorem note_of_not_mem {search : Search} {state : State} (new : state ∉ search.seen) :
    search.note state = ⟨search.seen.insert state, state :: search.pending⟩ := by
  rw [note, if_neg fun seen => new (Std.ExtTreeSet.contains_iff_mem.mp seen)]

theorem mem_seen_notes {search : Search} {targets : List State} {state : State} :
    state ∈ (targets.foldl note search).seen ↔ state ∈ search.seen ∨ state ∈ targets := by
  induction targets generalizing search with
  | nil => simp
  | cons target targets ih =>
    rw [List.foldl_cons, ih, List.mem_cons, ← or_assoc]
    refine or_congr_left ?_
    by_cases seen : target ∈ search.seen
    · rw [note_of_mem seen]
      exact ⟨Or.inl, fun both => both.elim id fun same => same ▸ seen⟩
    · rw [note_of_not_mem seen, StateSet.mem_insert, or_comm]

/-- The new ones among the targets become pending. -/
theorem mem_pending_notes {search : Search} {targets : List State} {state : State} :
    state ∈ (targets.foldl note search).pending ↔
      state ∈ search.pending ∨ (state ∈ targets ∧ state ∉ search.seen) := by
  induction targets generalizing search with
  | nil => simp
  | cons target targets ih =>
    rw [List.foldl_cons, ih, List.mem_cons]
    by_cases seen : target ∈ search.seen
    · rw [note_of_mem seen]
      refine or_congr_right (and_congr_left fun new => ?_)
      exact ⟨Or.inr, fun both => both.resolve_left fun same => new (same ▸ seen)⟩
    · rw [note_of_not_mem seen, StateSet.mem_insert, List.mem_cons]
      by_cases same : state = target
      · subst same
        simp [seen]
      · simp [same]

theorem Tidy.notes {search : Search} (tidy : search.Tidy) (targets : List State) :
    (targets.foldl note search).Tidy := by
  induction targets generalizing search with
  | nil => exact tidy
  | cons target targets ih =>
    refine ih ?_
    by_cases seen : target ∈ search.seen
    · rw [note_of_mem seen]
      exact tidy
    · rw [note_of_not_mem seen]
      refine ⟨List.nodup_cons.mpr ⟨fun listed => seen (tidy.found target listed), tidy.nodup⟩, ?_⟩
      intro state listed
      rw [StateSet.mem_insert]
      exact (List.mem_cons.mp listed).imp id (tidy.found state)

/-- Every new state is found and pending, so both grow alike. -/
theorem size_notes (search : Search) (targets : List State) :
    (targets.foldl note search).seen.size + search.pending.length =
      (targets.foldl note search).pending.length + search.seen.size := by
  induction targets generalizing search with
  | nil => exact Nat.add_comm _ _
  | cons target targets ih =>
    have rest := ih (search.note target)
    rw [List.foldl_cons]
    by_cases seen : target ∈ search.seen
    · rw [note_of_mem seen] at rest ⊢
      exact rest
    · rw [note_of_not_mem seen] at rest ⊢
      rw [StateSet.size_insert seen, List.length_cons] at rest
      omega

/-! ### Rounds -/

variable {machine : Automaton} {states : StateSet} {rounds : Nat} {search : Search}

/-- **What holds after some rounds of a search that began at the given states.** -/
structure Progress (machine : Automaton) (states : StateSet) (rounds : Nat) (search : Search) :
    Prop where
  tidy : search.Tidy
  begins : ∀ state ∈ states, state ∈ search.seen
  reached : ∀ state ∈ search.seen, ∃ source ∈ states, ReflTransGen machine.Silent source state
  followed : ∀ state ∈ search.seen, state ∉ search.pending →
    ∀ target, machine.Silent state target → target ∈ search.seen
  counted : rounds + search.pending.length = search.seen.size

theorem mem_silentTargets {state target : State} :
    target ∈ ((machine.destinations state .epsilon).getD ∅).toList ↔
      machine.Silent state target := by
  rw [Std.ExtTreeSet.mem_toList, Automaton.Silent, Automaton.mem_transitions]
  cases machine.destinations state .epsilon <;> simp

theorem Progress.begin (machine : Automaton) (states : StateSet) :
    Progress machine states 0 (begin states) where
  tidy := by
    refine ⟨List.nodup_reverse.mpr states.nodup_toList, fun state listed => ?_⟩
    exact Std.ExtTreeSet.mem_toList.mp (List.mem_reverse.mp listed)
  begins := fun _ inside => inside
  reached := fun state inside => ⟨state, inside, .refl⟩
  followed := by
    intro state inside notPending
    exact absurd (List.mem_reverse.mpr (Std.ExtTreeSet.mem_toList.mpr inside)) notPending
  counted := by
    rw [Nat.zero_add, Search.begin, List.length_reverse, Std.ExtTreeSet.length_toList]

theorem advance_cons (machine : Automaton) (seen : StateSet) (next : State)
    (pending : List State) :
    advance machine ⟨seen, next :: pending⟩ =
      ((machine.destinations next .epsilon).getD ∅).toList.foldl note ⟨seen, pending⟩ := rfl

/-- **One round follows one pending state.** -/
theorem Progress.advance (progress : Progress machine states rounds search)
    (more : search.pending ≠ []) :
    Progress machine states (rounds + 1) (search.advance machine) := by
  obtain ⟨seen, pending⟩ := search
  obtain ⟨tidy, begins, reached, followed, counted⟩ := progress
  cases pending with
  | nil => exact absurd rfl more
  | cons next pending =>
    have nextSeen : next ∈ seen := tidy.found next List.mem_cons_self
    have popped : Tidy ⟨seen, pending⟩ :=
      ⟨(List.nodup_cons.mp tidy.nodup).2, fun state listed =>
        tidy.found state (List.mem_cons_of_mem next listed)⟩
    rw [advance_cons]
    refine ⟨popped.notes _, ?_, ?_, ?_, ?_⟩
    · intro state inside
      exact mem_seen_notes.mpr (Or.inl (begins state inside))
    · intro state inside
      rcases mem_seen_notes.mp inside with old | isTarget
      · exact reached state old
      · obtain ⟨source, begun, silent⟩ := reached next nextSeen
        exact ⟨source, begun, silent.tail (mem_silentTargets.mp isTarget)⟩
    · intro state inside notPending target listed
      rw [mem_pending_notes, not_or] at notPending
      have old : state ∈ seen := by
        rcases mem_seen_notes.mp inside with old | isTarget
        · exact old
        · exact Classical.not_not.mp fun new => notPending.2 ⟨isTarget, new⟩
      refine mem_seen_notes.mpr ?_
      by_cases same : state = next
      · subst same
        exact Or.inr (mem_silentTargets.mpr listed)
      · have done : state ∉ next :: pending := fun waiting =>
          (List.mem_cons.mp waiting).elim same notPending.1
        exact Or.inl (followed state old done target listed)
    · have grown := size_notes ⟨seen, pending⟩
        ((machine.destinations next .epsilon).getD ∅).toList
      simp only [List.length_cons] at counted grown
      omega

/-- **A run of the search** ends with nothing pending, unless its rounds are used up. -/
theorem Progress.run (progress : Progress machine states rounds search) (fuel : Nat) :
    ∃ done, Progress machine states done (search.run machine fuel) ∧
      ((search.run machine fuel).pending = [] ∨ done = rounds + fuel) := by
  induction fuel generalizing rounds search with
  | zero => exact ⟨rounds, progress, Or.inr rfl⟩
  | succ fuel ih =>
    rw [Search.run]
    split
    · rename_i nothing
      exact ⟨rounds, progress, Or.inl (List.isEmpty_iff.mp nothing)⟩
    · rename_i something
      obtain ⟨done, after, finished⟩ :=
        ih (progress.advance fun nothing => something (List.isEmpty_iff.mpr nothing))
      refine ⟨done, after, finished.imp id fun all => ?_⟩
      rw [all, Nat.add_assoc, Nat.add_comm 1]

/-- The states found are those of the given set and of the automaton. -/
theorem Progress.size_seen_le (progress : Progress machine states rounds search)
    (sound : machine.WellFormed) : search.seen.size ≤ states.size + machine.size := by
  have bound : search.seen.size ≤ (states.toList ++ List.range machine.size).length := by
    refine StateSet.size_le_length fun state inside => ?_
    obtain ⟨source, begun, silent⟩ := progress.reached state inside
    rw [List.mem_append, Std.ExtTreeSet.mem_toList, List.mem_range]
    cases silent with
    | refl => exact Or.inl begun
    | tail _ last => exact Or.inr (sound.target_lt _ last)
  rwa [List.length_append, Std.ExtTreeSet.length_toList, List.length_range] at bound

/-- When nothing is pending, everything that can be reached is found. -/
theorem Progress.mem_seen_of_reached (progress : Progress machine states rounds search)
    (nothing : search.pending = []) {source target : State} (begun : source ∈ states)
    (silent : ReflTransGen machine.Silent source target) : target ∈ search.seen := by
  induction silent with
  | refl => exact progress.begins source begun
  | tail _ listed ih =>
    refine progress.followed _ ih (fun pending => ?_) _ listed
    rw [nothing] at pending
    cases pending

/-- **The search for the closure ends with nothing pending.** -/
theorem closure_finished (sound : machine.WellFormed) (states : StateSet) :
    ∃ rounds, Progress machine states rounds
        ((begin states).run machine (states.size + machine.size)) ∧
      ((begin states).run machine (states.size + machine.size)).pending = [] := by
  obtain ⟨done, progress, finished⟩ :=
    (Progress.begin machine states).run (states.size + machine.size)
  refine ⟨done, progress, finished.elim id fun all => List.eq_nil_of_length_eq_zero ?_⟩
  have found := progress.counted
  have bound := progress.size_seen_le sound
  omega

end Search

namespace Automaton

variable {machine : Automaton} {states : StateSet} {target : State}

/-- **The closure holds the states that epsilon transitions reach, and no others.** -/
theorem mem_closure (sound : machine.WellFormed) :
    target ∈ machine.closure states ↔
      ∃ source ∈ states, ReflTransGen machine.Silent source target := by
  obtain ⟨rounds, progress, nothing⟩ := Search.closure_finished sound states
  constructor
  · exact progress.reached target
  · rintro ⟨source, begun, silent⟩
    exact progress.mem_seen_of_reached nothing begun silent

end Automaton

end PatternNfa
