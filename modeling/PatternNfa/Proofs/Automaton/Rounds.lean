/-
**The search for a closure follows each state once.**

After any number of rounds, the states that have been followed and those that are pending are together
the states found, each of them once (`followed_perm`): a round moves the next state from the pending
ones to the followed ones, and whatever it finds becomes pending. So no state is pending twice or
followed twice, even where epsilon transitions go round in circles. The search is over in as many rounds
as the closure has states. It needs no limit for this: the one that `closure` sets is never passed.

* `run_eq_iterate`: a limit on the rounds changes nothing about them;
* `followed_perm`: what holds after any number of rounds;
* `closure_follows_once`: the rounds of the search for a closure.
-/

import PatternNfa.Proofs.Automaton.Acceptance

namespace PatternNfa

/-- A new member makes a set longer by itself. -/
theorem StateSet.toList_insert_perm {states : StateSet} {new : State} (outside : new ∉ states) :
    (states.insert new).toList.Perm (new :: states.toList) := by
  have listed : new ∉ states.toList := mt Std.ExtTreeSet.mem_toList.mp outside
  refine (List.perm_ext_iff_of_nodup (nodup_toList _)
    (List.nodup_cons.mpr ⟨listed, nodup_toList _⟩)).mpr fun state => ?_
  rw [Std.ExtTreeSet.mem_toList, mem_insert, List.mem_cons, Std.ExtTreeSet.mem_toList]

namespace Search

variable {machine : Automaton} {states : StateSet} {search : Search} {done : List State}
  {rounds : Nat}

/-! ### Rounds without a limit -/

/-- The search for the closure of the states, after some rounds. -/
def after (machine : Automaton) (states : StateSet) (rounds : Nat) : Search :=
  (advance machine)^[rounds] (begin states)

/-- The states that the first rounds follow, one after another. A round for which no state is left
follows none. -/
def followed (machine : Automaton) (states : StateSet) (rounds : Nat) : List State :=
  (List.range rounds).filterMap fun round => (after machine states round).pending.head?

theorem after_succ (machine : Automaton) (states : StateSet) (rounds : Nat) :
    after machine states (rounds + 1) = (after machine states rounds).advance machine :=
  Function.iterate_succ_apply' _ _ _

theorem followed_succ (machine : Automaton) (states : StateSet) (rounds : Nat) :
    followed machine states (rounds + 1) =
      followed machine states rounds ++ (after machine states rounds).pending.head?.toList := by
  rw [followed, List.range_succ, List.filterMap_append]
  cases found : (after machine states rounds).pending.head? <;> simp [followed, found]

theorem advance_of_pending_eq_nil (nothing : search.pending = []) :
    search.advance machine = search := by
  rw [advance, nothing]

/-- **A limit on the rounds changes nothing about them**: rounds after the search is over do nothing. -/
theorem run_eq_iterate (machine : Automaton) (limit : Nat) (search : Search) :
    search.run machine limit = (advance machine)^[limit] search := by
  induction limit generalizing search with
  | zero => rfl
  | succ limit ih =>
    rw [run, Function.iterate_succ_apply]
    split
    · rename_i nothing
      have idle : search.advance machine = search :=
        advance_of_pending_eq_nil (List.isEmpty_iff.mp nothing)
      rw [idle, Function.iterate_fixed idle]
    · exact ih (search.advance machine)

theorem closure_eq_seen (machine : Automaton) (states : StateSet) :
    machine.closure states = (after machine states (states.size + machine.size)).seen := by
  rw [Automaton.closure, run_eq_iterate]
  rfl

/-- Once nothing is pending, the search stays as it is. -/
theorem after_add_of_pending_eq_nil (nothing : (after machine states rounds).pending = [])
    (more : Nat) : after machine states (rounds + more) = after machine states rounds := by
  induction more with
  | zero => rfl
  | succ more ih => rw [← Nat.add_assoc, after_succ, ih, advance_of_pending_eq_nil nothing]

/-! ### What is followed -/

/-- Whatever the targets of a state add to the states found becomes pending. -/
theorem notes_perm (all : (done ++ search.pending).Perm search.seen.toList) (targets : List State) :
    (done ++ (targets.foldl note search).pending).Perm (targets.foldl note search).seen.toList := by
  induction targets generalizing search with
  | nil => exact all
  | cons target targets ih =>
    refine ih ?_
    by_cases seen : target ∈ search.seen
    · rw [note_of_mem seen]
      exact all
    · rw [note_of_not_mem seen]
      exact List.perm_middle.trans
        ((all.cons target).trans (StateSet.toList_insert_perm seen).symm)

/-- **One round** puts the next state to those that have been followed. -/
theorem advance_perm (all : (done ++ search.pending).Perm search.seen.toList) :
    (done ++ search.pending.head?.toList ++ (search.advance machine).pending).Perm
      (search.advance machine).seen.toList := by
  obtain ⟨seen, pending⟩ := search
  cases pending with
  | nil => simpa [advance] using all
  | cons next pending =>
    have moved : (done ++ [next] ++ pending).Perm seen.toList := by
      rw [List.append_assoc]
      exact all
    exact @notes_perm ⟨seen, pending⟩ _ moved _

/-- **After any number of rounds**, the states found are those that have been followed and those that
are pending, each of them once. -/
theorem followed_perm (machine : Automaton) (states : StateSet) (rounds : Nat) :
    (followed machine states rounds ++ (after machine states rounds).pending).Perm
      (after machine states rounds).seen.toList := by
  induction rounds with
  | zero => exact List.reverse_perm states.toList
  | succ rounds ih =>
    rw [followed_succ, after_succ]
    exact advance_perm ih

/-- Each round follows one state, as long as there is one. -/
theorem length_followed
    (more : ∀ round < rounds, (after machine states round).pending ≠ []) :
    (followed machine states rounds).length = rounds := by
  induction rounds with
  | zero => rfl
  | succ rounds ih =>
    have earlier := ih fun round before => more round (Nat.lt_succ_of_lt before)
    obtain ⟨next, pending, found⟩ := List.exists_cons_of_ne_nil (more rounds (Nat.lt_succ_self _))
    rw [followed_succ, List.length_append, earlier, found]
    rfl

/-! ### The end of the search -/

/-- Nothing is pending after as many rounds as there may be. -/
theorem pending_at_limit (sound : machine.WellFormed) (states : StateSet) :
    (after machine states (states.size + machine.size)).pending = [] := by
  obtain ⟨_, _, nothing⟩ := closure_finished sound states
  rw [run_eq_iterate] at nothing
  exact nothing

/-- Some round is the first for which no state is left. By then the closure has been found. -/
theorem exists_last_round (sound : machine.WellFormed) (states : StateSet) :
    ∃ last ≤ states.size + machine.size,
      after machine states last = ⟨machine.closure states, []⟩ ∧
        ∀ round < last, (after machine states round).pending ≠ [] := by
  have ends : ∃ rounds, (after machine states rounds).pending = [] :=
    ⟨_, pending_at_limit sound states⟩
  obtain ⟨last, isLast⟩ : ∃ last, Nat.find ends = last := ⟨_, rfl⟩
  obtain ⟨nothing, first⟩ := (Nat.find_eq_iff ends).mp isLast
  have within : last ≤ states.size + machine.size :=
    Nat.le_of_not_lt fun later => first _ later (pending_at_limit sound states)
  refine ⟨last, within, ?_, first⟩
  obtain ⟨later, total⟩ := Nat.exists_eq_add_of_le within
  rw [closure_eq_seen, total, after_add_of_pending_eq_nil nothing, ← nothing]

end Search

namespace Automaton

variable {machine : Automaton}

/-- **The search for a closure follows each state once.** After any number of rounds, no state is
pending twice, none has been followed twice, and none is pending that has been followed. There are
exactly as many rounds as the closure has states: before that some state is pending, and then none is
and the closure has been found. The states that have been followed by then are those of the closure.
There are at most as many of them as the given set and the automaton have together. -/
theorem closure_follows_once (built : machine.Built) (states : StateSet) :
    (∀ rounds, (Search.followed machine states rounds ++
        (Search.after machine states rounds).pending).Nodup) ∧
      (∀ round < (machine.closure states).size, (Search.after machine states round).pending ≠ []) ∧
      Search.after machine states (machine.closure states).size = ⟨machine.closure states, []⟩ ∧
      (Search.followed machine states (machine.closure states).size).Perm
        (machine.closure states).toList ∧
      (machine.closure states).size ≤ states.size + machine.size := by
  obtain ⟨last, within, ended, more⟩ := Search.exists_last_round built.wellFormed states
  have all := Search.followed_perm machine states last
  rw [ended, List.append_nil] at all
  have total : (machine.closure states).size = last := by
    rw [← Std.ExtTreeSet.length_toList, ← all.length_eq, Search.length_followed more]
  rw [total]
  refine ⟨fun rounds => ?_, more, ended, all, within⟩
  exact (Search.followed_perm machine states rounds).nodup_iff.mpr (StateSet.nodup_toList _)

/-- In a repetition of the ring, epsilon transitions lead from state 1 to itself and to state 0, and
there is no state 7. The search from 1 and 7 takes three rounds, and ends with nothing pending. -/
theorem closure_follows_once_ring :
    Search.followed (ofParts .ring).star (.ofStates [1, 7]) 3 = [7, 1, 0] ∧
      (Search.after (ofParts .ring).star (.ofStates [1, 7]) 2).pending ≠ [] ∧
      (Search.after (ofParts .ring).star (.ofStates [1, 7]) 3).pending = [] := by
  have total : ((ofParts .ring).star.closure (.ofStates [1, 7])).size = 3 := by decide +kernel
  obtain ⟨_, more, ended, _⟩ := closure_follows_once (Built.ofParts .ring).star (.ofStates [1, 7])
  rw [total] at more ended
  refine ⟨by decide +kernel, more 2 (by decide), ?_⟩
  rw [ended]

end Automaton

end PatternNfa
