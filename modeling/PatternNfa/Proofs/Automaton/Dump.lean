/-
**A dump tells which automaton it shows.**

Nothing is escaped in a dump, and its numbers have as many digits as they need. Still it can be read
in one way only: a number ends where there is no further digit, a list goes on as long as there are
commas, and the three symbols have different signs. The first lines give the number of states, the
start and the final states, and every other line gives an entry. So different automata have different
dumps, and comparing dumps is as good as comparing automata.

* `selfDelimiting_statesForms`, `selfDelimiting_entryForms`: where a list or an entry ends;
* `dump_injective`: different automata have different dumps;
* `dump_identifies`: what is the same if the dumps are, and that a dump can be read back.
-/

import PatternNfa.Automaton.Dump
import PatternNfa.Proofs.Automaton.Acceptance
import PatternNfa.Proofs.Automaton.Parts
import PatternNfa.Proofs.Text.Delimited

namespace PatternNfa

open Text

/-! ### Lists of states -/

/-- The rest of a list after some state, up to the words that close it. -/
def moreStatesForms (close : List Char) : List State → Language Char
  | [] => {close}
  | state :: states => {", ".toList} * (decimalForms state * moreStatesForms close states)

/-- The forms of a list of states: numbers with commas between them, and the words that close it. -/
def statesForms (close : List Char) : List State → Language Char
  | [] => {close}
  | state :: states => decimalForms state * moreStatesForms close states

variable {close : List Char}

/-- After a number comes a comma or what closes the list. -/
theorem stopsDigits_of_mem_moreStatesForms (stops : StopsDigits close) {states : List State}
    {text : List Char} (written : text ∈ moreStatesForms close states) : StopsDigits text := by
  cases states with
  | nil =>
    cases written
    exact stops
  | cons state states =>
    obtain ⟨_, rfl, rest, _, rfl⟩ := written
    exact ⟨',', ' ' :: rest, rfl, by decide⟩

/-- A number does not begin as the words that close a list. -/
theorem ne_of_mem_decimalForms (stops : StopsDigits close) {n : Nat} {digits : List Char}
    (written : digits ∈ decimalForms n) (rest otherRest : List Char) :
    digits ++ rest ≠ close ++ otherRest := by
  obtain ⟨first, tail, rfl, notDigit⟩ := stops
  obtain ⟨nonempty, areDigits, _⟩ := written
  obtain ⟨digit, digits, rfl⟩ := List.exists_cons_of_ne_nil nonempty
  intro same
  have isDigit := areDigits digit List.mem_cons_self
  rw [(List.cons.inj same).1, notDigit] at isDigit
  cases isDigit

/-- **It is clear where a list goes on** and where it ends. -/
theorem selfDelimiting_moreStatesForms (stops : StopsDigits close) (notComma : close.head? ≠ some ',') :
    SelfDelimiting (moreStatesForms close) := by
  -- A comma tells a list that goes on from one that ends.
  have closed {state : State} {states : List State} {text rest otherRest : List Char}
      (more : text ∈ moreStatesForms close (state :: states)) : close ++ rest ≠ text ++ otherRest := by
    obtain ⟨first, tail, rfl, _⟩ := stops
    obtain ⟨_, rfl, following, _, rfl⟩ := more
    intro same
    exact notComma (congrArg some (List.cons.inj same).1)
  intro first
  induction first with
  | nil =>
    rintro (_ | ⟨state, states⟩) text other rest otherRest written otherWritten same
    · cases written
      cases otherWritten
      exact ⟨rfl, List.append_cancel_left same⟩
    · cases written
      exact absurd same (closed otherWritten)
  | cons state states ih =>
    rintro (_ | ⟨otherState, others⟩) text other rest otherRest written otherWritten same
    · cases otherWritten
      exact absurd same.symm (closed written)
    · obtain ⟨_, rfl, _, ⟨digits, number, more, moreWritten, rfl⟩, rfl⟩ := written
      obtain ⟨_, rfl, _, ⟨otherDigits, otherNumber, otherMore, otherMoreWritten, rfl⟩, rfl⟩ :=
        otherWritten
      simp only [List.append_assoc, List.append_cancel_left_eq] at same
      obtain ⟨rfl, following⟩ := eq_of_decimalForms number otherNumber
        ((stopsDigits_of_mem_moreStatesForms stops moreWritten).append rest)
        ((stopsDigits_of_mem_moreStatesForms stops otherMoreWritten).append otherRest) same
      obtain ⟨rfl, ends⟩ := ih moreWritten otherMoreWritten following
      exact ⟨rfl, ends⟩

/-- A number may stand before anything that does not begin with a digit. -/
theorem Text.SelfDelimiting.decimal_mul {α : Type} {forms : α → Language Char}
    (delimited : SelfDelimiting forms)
    (stops : ∀ ⦃item text⦄, text ∈ forms item → StopsDigits text) :
    SelfDelimiting fun pair : Nat × α => decimalForms pair.1 * forms pair.2 := by
  rintro ⟨first, next⟩ ⟨second, otherNext⟩ _ _ rest otherRest ⟨digits, number, more, moreWritten, rfl⟩
    ⟨otherDigits, otherNumber, otherMore, otherMoreWritten, rfl⟩ same
  simp only [List.append_assoc] at same
  obtain ⟨rfl, following⟩ := eq_of_decimalForms number otherNumber
    ((stops moreWritten).append rest) ((stops otherMoreWritten).append otherRest) same
  obtain ⟨rfl, ends⟩ := delimited moreWritten otherMoreWritten following
  exact ⟨rfl, ends⟩

/-- **Where a list ends is clear** if the words that close it begin with a sign of their own. -/
theorem selfDelimiting_statesForms (stops : StopsDigits close) (notComma : close.head? ≠ some ',') :
    SelfDelimiting (statesForms close) := by
  rintro (_ | ⟨state, states⟩) (_ | ⟨otherState, others⟩) text other rest otherRest written
    otherWritten same
  · cases written
    cases otherWritten
    exact ⟨rfl, List.append_cancel_left same⟩
  · cases written
    obtain ⟨digits, number, more, _, rfl⟩ := otherWritten
    rw [List.append_assoc] at same
    exact absurd same.symm (ne_of_mem_decimalForms stops number _ _)
  · cases otherWritten
    obtain ⟨digits, number, more, _, rfl⟩ := written
    rw [List.append_assoc] at same
    exact absurd same (ne_of_mem_decimalForms stops number _ _)
  · have nonempty := (selfDelimiting_moreStatesForms stops notComma).decimal_mul
      fun _ _ => stopsDigits_of_mem_moreStatesForms stops
    obtain ⟨equal, ends⟩ := @nonempty (state, states) (otherState, others) text other rest otherRest
      written otherWritten same
    cases equal
    exact ⟨rfl, ends⟩

/-! ### Entries -/

/-- A state, a symbol, and the set of states that it leads to. -/
abbrev Entry := State × Symbol × StateSet

/-- The forms of the line for an entry. -/
def entryForms (entry : Entry) : Language Char :=
  decimalForms entry.1 * ({[' ']} * ({entry.2.1.sign.toList} *
    ({" --> \x7b".toList} * statesForms "\x7d\n".toList entry.2.2.toList)))

theorem StateSet.toList_injective : Function.Injective fun states : StateSet => states.toList :=
  fun _ _ same => Std.ExtTreeSet.ext_toList (.of_eq same)

theorem selfDelimiting_sign : SelfDelimiting fun symbol : Symbol =>
    ({symbol.sign.toList} : Language Char) := by
  refine .of_isPrefix fun first second => ?_
  rcases first with (_ | _) | _ <;> rcases second with (_ | _) | _ <;> decide

theorem selfDelimiting_entryForms : SelfDelimiting entryForms := by
  have targets : SelfDelimiting fun targets : StateSet =>
      statesForms "\x7d\n".toList targets.toList :=
    (selfDelimiting_statesForms ⟨'\x7d', ['\n'], by decide, by decide⟩ (by decide)).of_injective
      StateSet.toList_injective
  have line := (selfDelimiting_sign.mul (targets.word_mul " --> \x7b".toList)).word_mul [' ']
  refine line.decimal_mul ?_
  rintro ⟨symbol, states⟩ _ ⟨_, rfl, rest, _, rfl⟩
  exact ⟨' ', rest, rfl, by decide⟩

theorem nil_not_mem_entryForms (entry : Entry) : [] ∉ entryForms entry := by
  rintro ⟨digits, ⟨nonempty, _⟩, rest, _, same⟩
  exact nonempty (List.append_eq_nil_iff.mp same).1

/-! ### First lines -/

/-- The forms of the first lines, for the number of states, the start and the final states. -/
def headForms (head : Nat × State × StateSet) : Language Char :=
  {"States: (".toList} * (statesForms ")\nStart: ".toList (List.range head.1) *
    (decimalForms head.2.1 *
      ({"\nFinal States: (".toList} * statesForms ")\n".toList head.2.2.toList)))

theorem range_injective : Function.Injective List.range := by
  intro first second same
  rw [← List.length_range (n := first), same, List.length_range]

theorem selfDelimiting_headForms : SelfDelimiting headForms := by
  have states : SelfDelimiting fun size => statesForms ")\nStart: ".toList (List.range size) :=
    (selfDelimiting_statesForms ⟨')', "\nStart: ".toList, by decide, by decide⟩
      (by decide)).of_injective range_injective
  have finals : SelfDelimiting fun finals : StateSet => statesForms ")\n".toList finals.toList :=
    (selfDelimiting_statesForms ⟨')', ['\n'], by decide, by decide⟩ (by decide)).of_injective
      StateSet.toList_injective
  refine (states.mul ((finals.word_mul "\nFinal States: (".toList).decimal_mul ?_)).word_mul _
  rintro states _ ⟨_, rfl, rest, _, rfl⟩
  exact ⟨'\n', "Final States: (".toList ++ rest, rfl, by decide⟩

namespace Automaton

variable {machine other : Automaton}

/-! ### What is written -/

theorem listStates_append_mem_statesForms (close : List Char) (states : List State) :
    (listStates states).toList ++ close ∈ statesForms close states := by
  have more (state : State) (states : List State) :
      (listStates (state :: states)).toList ++ close ∈
        decimalForms state * moreStatesForms close states := by
    induction states generalizing state with
    | nil =>
      rw [listStates, List.map_singleton, String.intercalate_singleton]
      exact Language.append_mem_mul (toString_mem_decimalForms state) rfl
    | cons next states ih =>
      rw [listStates, List.map_cons, List.map_cons, String.intercalate_cons_cons,
        String.toList_append, String.toList_append, List.append_assoc, List.append_assoc]
      exact Language.append_mem_mul (toString_mem_decimalForms state)
        (Language.append_mem_mul rfl (ih next))
  cases states with
  | nil =>
    rw [listStates, List.map_nil, String.intercalate_nil]
    exact Set.mem_singleton _
  | cons state states => exact more state states

theorem entryLine_mem_entryForms (entry : Entry) :
    (entryLine entry.1 entry.2.1 entry.2.2).toList ∈ entryForms entry := by
  have targets := listStates_append_mem_statesForms "\x7d\n".toList entry.2.2.toList
  simp only [entryLine, String.toList_append, List.append_assoc]
  exact Language.append_mem_mul (toString_mem_decimalForms _) (Language.append_mem_mul rfl
    (Language.append_mem_mul rfl (Language.append_mem_mul rfl targets)))

/-- The entries of all rows, in the order in which they are dumped. -/
def entries (machine : Automaton) : List Entry :=
  machine.rows.toList.zipIdx.flatMap fun (row, source) =>
    row.entries.map fun (symbol, targets) => (source, symbol, targets)

theorem mem_entries {source : State} {symbol : Symbol} {targets : StateSet} :
    (source, symbol, targets) ∈ machine.entries ↔
      machine.destinations source symbol = some targets := by
  simp only [entries, destinations, List.mem_flatMap, List.mem_map, Prod.exists, Row.mem_entries,
    List.mem_zipIdx_iff_getElem?, Array.getElem?_toList, Option.bind_eq_some_iff, Prod.mk.injEq]
  constructor
  · rintro ⟨row, _, found, _, _, entry, rfl, rfl, rfl⟩
    exact ⟨row, found, entry⟩
  · rintro ⟨row, found, entry⟩
    exact ⟨row, source, found, symbol, targets, entry, rfl, rfl, rfl⟩

theorem toList_join_rowLines (machine : Automaton) :
    (String.join (machine.rows.toList.zipIdx.map fun (row, source) => rowLines source row)).toList =
      machine.entries.flatMap fun entry => (entryLine entry.1 entry.2.1 entry.2.2).toList := by
  simp only [rowLines, entries, String.toList_join, List.flatMap_map, List.flatMap_assoc]

/-- **A dump is the first lines and a line for each entry.** -/
theorem dump_mem_mul (machine : Automaton) :
    machine.dump.toList ∈ headForms (machine.size, machine.start, machine.finals) *
      (machine.entries.map entryForms).prod := by
  have states := listStates_append_mem_statesForms ")\nStart: ".toList (List.range machine.size)
  have finals := listStates_append_mem_statesForms ")\n".toList machine.finals.toList
  have head := Language.append_mem_mul (Set.mem_singleton "States: (".toList)
    (Language.append_mem_mul states (Language.append_mem_mul
      (toString_mem_decimalForms machine.start) (Language.append_mem_mul
        (Set.mem_singleton "\nFinal States: (".toList) finals)))
  have lines := Language.append_mem_mul head
    (flatMap_mem_prod entryLine_mem_entryForms machine.entries)
  -- By its equation `dump` would be compared with its value letter by letter.
  unfold dump
  simp only [String.toList_append, toList_join_rowLines, List.append_assoc] at lines ⊢
  exact lines

/-! ### What is read back -/

/-- **Different automata have different dumps.** -/
theorem dump_injective : Function.Injective dump := by
  intro machine other same
  obtain ⟨head, headWritten, lines, linesWritten, written⟩ := machine.dump_mem_mul
  obtain ⟨otherHead, otherHeadWritten, otherLines, otherLinesWritten, otherWritten⟩ :=
    other.dump_mem_mul
  have texts : head ++ lines = otherHead ++ otherLines :=
    written.trans ((congrArg String.toList same).trans otherWritten.symm)
  obtain ⟨heads, rfl⟩ := selfDelimiting_headForms headWritten otherHeadWritten texts
  have entries := selfDelimiting_entryForms.eq_of_mem_prod nil_not_mem_entryForms linesWritten
    otherLinesWritten
  obtain ⟨sizes, heads⟩ := Prod.mk.inj heads
  obtain ⟨starts, finals⟩ := Prod.mk.inj heads
  refine ext_destinations sizes starts finals fun state symbol => Option.ext fun targets => ?_
  rw [← mem_entries, ← mem_entries, entries]

/-- **A dump identifies its automaton.** Two automata have the same dump exactly if they have the
same number of states, the same start, the same final states and the same transitions. So there is a
way to get every automaton back from its dump. -/
theorem dump_identifies (built : machine.Built) (otherBuilt : other.Built) :
    (machine.dump = other.dump ↔
        machine.size = other.size ∧ machine.start = other.start ∧ machine.finals = other.finals ∧
          machine.transitions = other.transitions) ∧
      ∃ decode : String → Automaton, ∀ shown : Automaton, decode shown.dump = shown := by
  refine ⟨⟨fun same => ?_, fun parts => ?_⟩, dump_injective.hasLeftInverse⟩
  · obtain rfl := dump_injective same
    exact ⟨rfl, rfl, rfl, rfl⟩
  · obtain ⟨sizes, starts, finals, transitions⟩ := parts
    rw [built.wellFormed.ext otherBuilt.wellFormed sizes starts finals
      fun transition => transitions ▸ Iff.rfl]

/-- The dump of the ring is not that of a single state, and it does not show in which order the
transitions of the ring were given. -/
theorem dump_identifies_ring :
    (ofParts .ring).dump ≠ single.dump ∧
      (ofParts .ring).dump =
        (ofParts { Parts.ring with transitions := Parts.ring.transitions.reverse }).dump := by
  constructor
  · intro same
    obtain ⟨sizes, _⟩ := (dump_identifies (.ofParts .ring) .single).1.mp same
    rw [size_ofParts] at sizes
    cases sizes
  · exact (dump_identifies (.ofParts .ring) (.ofParts _)).1.mpr ⟨rfl, rfl, rfl, rfl⟩

end Automaton

end PatternNfa
