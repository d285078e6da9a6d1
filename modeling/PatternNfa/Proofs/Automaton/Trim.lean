/-
**Trim automata.**

An automaton is trim here if paths lead from its start to every state and from every state to a final
one, and no transition leads back into the start. The operations on automata keep this: each of the
links that they add begins at a state that can be reached, and leads to the start of an automaton
that has a final state to offer. In a trim automaton no way of reading is lost before its time: as
long as a state is active, the input can be completed to one that is accepted.

* `Trim.star`, `Trim.concatenate`, `Trim.union`: what the operations keep;
* `Trim.exists_accepts`: an input that is accepted;
* `Trim.activeAfter_ne_empty_iff`: a state is active as long as the input can be completed.
-/

import PatternNfa.Proofs.Automaton.Embedding
import PatternNfa.Proofs.Automaton.Simulation
import PatternNfa.Proofs.CharClass.Texts

namespace PatternNfa.Automaton

variable {machine other part whole : Automaton} {source middle target state : State}

/-! ### Where paths lead -/

/-- Some path leads from the one state to the other. -/
def Leads (machine : Automaton) (source target : State) : Prop :=
  ∃ symbols, machine.Path source symbols target

namespace Leads

theorem refl (state : State) : machine.Leads state state :=
  ⟨[], .nil state⟩

theorem trans (first : machine.Leads source middle) (second : machine.Leads middle target) :
    machine.Leads source target := by
  obtain ⟨symbols, path⟩ := first
  obtain ⟨others, rest⟩ := second
  exact ⟨symbols ++ others, path.append rest⟩

/-- A transition before what leads on. -/
theorem head {symbol : Symbol} (listed : ⟨source, symbol, middle⟩ ∈ machine.transitions)
    (rest : machine.Leads middle target) : machine.Leads source target := by
  obtain ⟨symbols, path⟩ := rest
  exact ⟨symbol :: symbols, .cons listed path⟩

theorem mono (leads : part.Leads source target)
    (kept : ∀ transition ∈ part.transitions, transition ∈ whole.transitions) :
    whole.Leads source target := by
  obtain ⟨symbols, path⟩ := leads
  exact ⟨symbols, path.mono kept⟩

end Leads

/-- What leads from one state to another in a part does so in the whole. -/
theorem Embeds.leads_add {offset : Nat} (embeds : Embeds part whole offset)
    (leads : part.Leads source target) : whole.Leads (source + offset) (target + offset) := by
  obtain ⟨symbols, path⟩ := leads
  exact ⟨symbols, embeds.path_add path⟩

/-- Some path leads from the state to a final one. -/
def CanEnd (machine : Automaton) (state : State) : Prop :=
  ∃ final ∈ machine.finals, machine.Leads state final

theorem Leads.canEnd (leads : machine.Leads source target) (ends : machine.CanEnd target) :
    machine.CanEnd source := by
  obtain ⟨final, isFinal, rest⟩ := ends
  exact ⟨final, isFinal, leads.trans rest⟩

/-- From a state of a part, the whole can end as the part does. -/
theorem Embeds.canEnd_add {offset : Nat} (embeds : Embeds part whole offset)
    (sound : part.WellFormed) (ends : part.CanEnd state) : whole.CanEnd (state + offset) := by
  obtain ⟨final, isFinal, leads⟩ := ends
  exact ⟨final + offset, (embeds.mem_finals_add final (sound.final_lt final isFinal)).mpr isFinal,
    embeds.leads_add leads⟩

/-! ### Trim automata -/

/-- **A trim automaton.** Paths lead from the start to every state and from every state to a final
one, and no transition leads into the start. -/
structure Trim (machine : Automaton) : Prop extends machine.WellFormed where
  leads : ∀ state < machine.size, machine.Leads machine.start state
  canEnd : ∀ state < machine.size, machine.CanEnd state
  target_ne_start : ∀ transition ∈ machine.transitions, transition.target ≠ machine.start

/-- A state of two automata, the second of which has moved up, is one of either. -/
theorem lt_or_exists_add {first second state : Nat} (inside : state < first + second) :
    state < first ∨ ∃ old < second, old + first = state := by
  by_cases below : state < first
  · exact Or.inl below
  · exact Or.inr ⟨state - first, by omega, by omega⟩

/-! ### Repetition -/

theorem Leads.star (sound : machine.WellFormed) (leads : machine.Leads source target) :
    machine.star.Leads source target :=
  leads.mono fun _ old => (mem_transitions_star sound).mpr (Or.inl old)

/-- The new state leads to the old start, and any word may end in it. -/
theorem Trim.star (trim : machine.Trim) : machine.star.Trim where
  toWellFormed := trim.toWellFormed.star
  leads := by
    have fresh : machine.size ∈ machine.star.finals := mem_finals_star.mpr (Or.inr rfl)
    have entry : ⟨machine.size, .epsilon, machine.start⟩ ∈ machine.star.transitions :=
      (mem_transitions_star trim.toWellFormed).mpr (Or.inr ⟨machine.size, fresh, rfl⟩)
    intro state inside
    rw [size_star] at inside
    rw [start_star]
    rcases Nat.lt_succ_iff_lt_or_eq.mp inside with old | rfl
    · exact .head entry ((trim.leads state old).star trim.toWellFormed)
    · exact .refl machine.size
  canEnd := by
    intro state inside
    rw [size_star] at inside
    rcases Nat.lt_succ_iff_lt_or_eq.mp inside with old | rfl
    · obtain ⟨final, isFinal, leads⟩ := trim.canEnd state old
      exact ⟨final, mem_finals_star.mpr (Or.inl isFinal), leads.star trim.toWellFormed⟩
    · exact ⟨machine.size, mem_finals_star.mpr (Or.inr rfl), .refl machine.size⟩
  target_ne_start := by
    intro transition listed
    rw [start_star]
    rcases (mem_transitions_star trim.toWellFormed).mp listed with old | ⟨_, _, rfl⟩
    · exact Nat.ne_of_lt (trim.target_lt transition old)
    · exact Nat.ne_of_lt trim.start_lt

/-! ### Concatenation -/

theorem Leads.concatenate (sound : machine.WellFormed) (otherSound : other.WellFormed)
    (leads : machine.Leads source target) : (machine.concatenate other).Leads source target :=
  leads.mono fun _ old => (mem_transitions_concatenate sound otherSound).mpr (Or.inl old)

/-- From where the first automaton can end, the start of the second is reached. -/
theorem CanEnd.leads_concatenate (sound : machine.WellFormed) (otherSound : other.WellFormed)
    (ends : machine.CanEnd state) :
    (machine.concatenate other).Leads state (other.start + machine.size) := by
  obtain ⟨exit, isFinal, leads⟩ := ends
  have link : ⟨exit, .epsilon, other.start + machine.size⟩ ∈
      (machine.concatenate other).transitions :=
    (mem_transitions_concatenate sound otherSound).mpr (Or.inr (Or.inr ⟨exit, isFinal, rfl⟩))
  exact (leads.concatenate sound otherSound).trans (.head link (.refl _))

/-- The second automaton is reached because the first can end, and the first can end because the
second can. -/
theorem Trim.concatenate (trim : machine.Trim) (otherTrim : other.Trim) :
    (machine.concatenate other).Trim where
  toWellFormed := trim.toWellFormed.concatenate otherTrim.toWellFormed
  leads := by
    have embeds := embeds_concatenate trim.toWellFormed otherTrim.toWellFormed
    intro state inside
    rw [size_concatenate] at inside
    rw [start_concatenate]
    rcases lt_or_exists_add inside with below | ⟨old, oldInside, rfl⟩
    · exact (trim.leads state below).concatenate trim.toWellFormed otherTrim.toWellFormed
    · have across := (trim.canEnd machine.start trim.start_lt).leads_concatenate
        trim.toWellFormed otherTrim.toWellFormed
      exact across.trans (embeds.leads_add (otherTrim.leads old oldInside))
  canEnd := by
    have embeds := embeds_concatenate trim.toWellFormed otherTrim.toWellFormed
    have second (old : State) (oldInside : old < other.size) :
        (machine.concatenate other).CanEnd (old + machine.size) :=
      embeds.canEnd_add otherTrim.toWellFormed (otherTrim.canEnd old oldInside)
    intro state inside
    rw [size_concatenate] at inside
    rcases lt_or_exists_add inside with below | ⟨old, oldInside, rfl⟩
    · have across := (trim.canEnd state below).leads_concatenate trim.toWellFormed
        otherTrim.toWellFormed
      exact across.canEnd (second other.start otherTrim.start_lt)
    · exact second old oldInside
  target_ne_start := by
    have above (old : State) : old + machine.size ≠ machine.start :=
      Nat.ne_of_gt (Nat.lt_of_lt_of_le trim.start_lt (Nat.le_add_left _ _))
    intro transition listed
    rw [start_concatenate]
    rcases (mem_transitions_concatenate trim.toWellFormed otherTrim.toWellFormed).mp listed with
      old | ⟨moved, _, rfl⟩ | ⟨_, _, rfl⟩
    · exact trim.target_ne_start transition old
    · exact above moved.target
    · exact above other.start

/-! ### Union -/

theorem leads_start_union (sound : machine.WellFormed) (otherSound : other.WellFormed) :
    (machine.union other).Leads (machine.size + other.size) machine.start := by
  have entry : ⟨machine.size + other.size, .epsilon, machine.start⟩ ∈
      (machine.union other).transitions :=
    (mem_transitions_union sound otherSound).mpr (Or.inr (Or.inr (Or.inl rfl)))
  exact .head entry (.refl _)

theorem leads_other_start_union (sound : machine.WellFormed) (otherSound : other.WellFormed) :
    (machine.union other).Leads (machine.size + other.size) (other.start + machine.size) := by
  have entry : ⟨machine.size + other.size, .epsilon, other.start + machine.size⟩ ∈
      (machine.union other).transitions :=
    (mem_transitions_union sound otherSound).mpr (Or.inr (Or.inr (Or.inr rfl)))
  exact .head entry (.refl _)

/-- The new state leads to both old starts, and what each of them could do it still can. -/
theorem Trim.union (trim : machine.Trim) (otherTrim : other.Trim) :
    (machine.union other).Trim where
  toWellFormed := trim.toWellFormed.union otherTrim.toWellFormed
  leads := by
    have left := embeds_union_left trim.toWellFormed otherTrim.toWellFormed
    have right := embeds_union_right trim.toWellFormed otherTrim.toWellFormed
    have first := leads_start_union trim.toWellFormed otherTrim.toWellFormed
    have second := leads_other_start_union trim.toWellFormed otherTrim.toWellFormed
    intro state inside
    rw [size_union] at inside
    rw [start_union]
    rcases Nat.lt_succ_iff_lt_or_eq.mp inside with older | rfl
    · rcases lt_or_exists_add older with below | ⟨old, oldInside, rfl⟩
      · exact first.trans (left.leads_add (trim.leads state below))
      · exact second.trans (right.leads_add (otherTrim.leads old oldInside))
    · exact .refl _
  canEnd := by
    have left := embeds_union_left trim.toWellFormed otherTrim.toWellFormed
    have right := embeds_union_right trim.toWellFormed otherTrim.toWellFormed
    have old (state : State) (below : state < machine.size) : (machine.union other).CanEnd state :=
      left.canEnd_add trim.toWellFormed (trim.canEnd state below)
    intro state inside
    rw [size_union] at inside
    rcases Nat.lt_succ_iff_lt_or_eq.mp inside with older | rfl
    · rcases lt_or_exists_add older with below | ⟨moved, movedInside, rfl⟩
      · exact old state below
      · exact right.canEnd_add otherTrim.toWellFormed (otherTrim.canEnd moved movedInside)
    · have first := leads_start_union trim.toWellFormed otherTrim.toWellFormed
      exact first.canEnd (old machine.start trim.start_lt)
  target_ne_start := by
    intro transition listed
    rw [start_union]
    rcases (mem_transitions_union trim.toWellFormed otherTrim.toWellFormed).mp listed with
      old | ⟨moved, old, rfl⟩ | rfl | rfl
    · exact Nat.ne_of_lt (Nat.lt_add_right _ (trim.target_lt transition old))
    · exact Nat.ne_of_lt (add_size_lt (otherTrim.target_lt moved old))
    · exact Nat.ne_of_lt (Nat.lt_add_right _ trim.start_lt)
    · exact Nat.ne_of_lt (add_size_lt otherTrim.start_lt)

/-! ### Inputs that can be completed -/

/-- From a state that can end, some text is read to a final state. -/
theorem CanEnd.exists_reads (ends : machine.CanEnd state) :
    ∃ text word, CharClass.word? text = some word ∧
      ∃ final ∈ machine.finals, machine.Reads state word final := by
  obtain ⟨final, isFinal, symbols, path⟩ := ends
  obtain ⟨text, classes⟩ := CharClass.exists_word?_eq_some (Symbol.spelled symbols)
  exact ⟨text, _, classes, final, isFinal, symbols, path, rfl⟩

theorem Trim.exists_accepts (trim : machine.Trim) : ∃ input, machine.accepts input = true := by
  obtain ⟨text, accepted⟩ := (trim.canEnd machine.start trim.start_lt).exists_reads
  exact ⟨.ofList text, (accepts_ofList_iff trim.toWellFormed).mpr accepted⟩

/-- **A state is active as long as the input can be completed** to one that is accepted. -/
theorem Trim.activeAfter_ne_empty_iff (trim : machine.Trim) {input : String} :
    machine.activeAfter input.toList ≠ ∅ ↔ ∃ rest, machine.accepts (input ++ rest) = true := by
  constructor
  · intro someActive
    obtain ⟨state, active⟩ := StateSet.exists_mem_of_ne_empty someActive
    obtain ⟨word, classes, reads⟩ := (mem_activeAfter trim.toWellFormed).mp active
    have inside : state < machine.size := reads.target_lt trim.toWellFormed trim.start_lt
    obtain ⟨rest, more, restClasses, final, isFinal, onward⟩ :=
      (trim.canEnd state inside).exists_reads
    refine ⟨.ofList rest, (accepts_iff_mem_texts trim.toWellFormed).mpr ?_⟩
    refine ⟨word ++ more, ?_, final, isFinal, reads.append onward⟩
    rw [String.toList_append, String.toList_ofList]
    exact CharClass.word?_eq_some_append_iff.mpr ⟨_, _, rfl, classes, restClasses⟩
  · rintro ⟨rest, accepted⟩ noneActive
    rw [accepts_append trim.toWellFormed, noneActive, acceptsFrom_empty trim.toWellFormed] at accepted
    cases accepted

end PatternNfa.Automaton
