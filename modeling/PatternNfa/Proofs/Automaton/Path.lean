/-
**Paths and languages.**

A path follows transitions from a state to a state. The symbols on it spell a word: those that read
nothing are left out. The words spelled on the paths from the start to a final state are the
language of the automaton.

* `reads_nil_iff`, `reads_cons_iff`: a path that spells nothing is a sequence of epsilon
  transitions, and a path that spells a word splits at the transition that reads its first class;
* `Path.target_lt`: a path in a well-formed automaton stays among its states;
* `Path.mono`: a path stays a path when transitions are added.
-/

import Mathlib.Computability.Language
import Mathlib.Logic.Relation
import PatternNfa.Proofs.Automaton.WellFormed

namespace PatternNfa

/-- The class that a symbol reads, if it reads anything. -/
def Symbol.class? : Symbol → Option CharClass
  | .read cls => some cls
  | .epsilon => none

/-- The word that symbols spell. -/
def Symbol.spelled (symbols : List Symbol) : List CharClass :=
  symbols.filterMap Symbol.class?

theorem Symbol.spelled_append (first second : List Symbol) :
    spelled (first ++ second) = spelled first ++ spelled second :=
  List.filterMap_append

theorem Symbol.spelled_cons (symbol : Symbol) (symbols : List Symbol) :
    spelled (symbol :: symbols) = spelled [symbol] ++ spelled symbols :=
  spelled_append [symbol] symbols

namespace Automaton

open Relation (ReflTransGen)

/-- **A path from a state to a state**, with the symbols on its transitions. -/
inductive Path (machine : Automaton) : State → List Symbol → State → Prop
  | nil (state : State) : Path machine state [] state
  | cons {source middle target : State} {symbol : Symbol} {symbols : List Symbol} :
      ⟨source, symbol, middle⟩ ∈ machine.transitions → Path machine middle symbols target →
        Path machine source (symbol :: symbols) target

/-- Some path between the states spells the word. -/
def Reads (machine : Automaton) (source : State) (word : List CharClass) (target : State) : Prop :=
  ∃ symbols, machine.Path source symbols target ∧ Symbol.spelled symbols = word

/-- The words that are read from a state to a final state. -/
def languageFrom (machine : Automaton) (source : State) : Language CharClass :=
  {word | ∃ final ∈ machine.finals, machine.Reads source word final}

/-- **The words that are read from the start to a final state.** -/
def language (machine : Automaton) : Language CharClass :=
  machine.languageFrom machine.start

/-- An epsilon transition leads from one state to the other. -/
def Silent (machine : Automaton) (source target : State) : Prop :=
  ⟨source, .epsilon, target⟩ ∈ machine.transitions

variable {machine : Automaton} {source middle target : State}

/-! ### Paths -/

namespace Path

variable {symbols more : List Symbol}

theorem append (first : machine.Path source symbols middle)
    (second : machine.Path middle more target) : machine.Path source (symbols ++ more) target := by
  induction first with
  | nil => exact second
  | cons listed _ ih => exact .cons listed (ih second)

/-- A path stays a path when transitions are added. -/
theorem mono {other : Automaton}
    (kept : ∀ transition ∈ machine.transitions, transition ∈ other.transitions)
    (path : machine.Path source symbols target) : other.Path source symbols target := by
  induction path with
  | nil state => exact .nil state
  | cons listed _ ih => exact .cons (kept _ listed) ih

theorem target_lt (sound : machine.WellFormed) (path : machine.Path source symbols target)
    (inside : source < machine.size) : target < machine.size := by
  induction path with
  | nil => exact inside
  | cons listed _ ih => exact ih (sound.target_lt _ listed)

/-- A path that spells nothing follows epsilon transitions only. -/
theorem silent (path : machine.Path source symbols target) (nothing : Symbol.spelled symbols = []) :
    ReflTransGen machine.Silent source target := by
  induction path with
  | nil => exact .refl
  | @cons _ _ _ symbol _ listed _ ih =>
    cases symbol with
    | read cls => cases nothing
    | epsilon => exact .head listed (ih nothing)

/-- A path that spells a word reads its first class on one of the transitions. -/
theorem split {cls : CharClass} {word : List CharClass}
    (path : machine.Path source symbols target) (spells : Symbol.spelled symbols = cls :: word) :
    ∃ before after, ReflTransGen machine.Silent source before ∧
      ⟨before, .read cls, after⟩ ∈ machine.transitions ∧ machine.Reads after word target := by
  induction path with
  | nil => cases spells
  | @cons source middle _ symbol symbols listed rest ih =>
    cases symbol with
    | read _ =>
      cases spells
      exact ⟨source, middle, .refl, listed, symbols, rest, rfl⟩
    | epsilon =>
      obtain ⟨before, after, silent, read, reads⟩ := ih spells
      exact ⟨before, after, .head listed silent, read, reads⟩

end Path

/-! ### Words read between states -/

namespace Reads

variable {word more : List CharClass}

theorem refl (state : State) : machine.Reads state [] state :=
  ⟨[], .nil state, rfl⟩

theorem append (first : machine.Reads source word middle)
    (second : machine.Reads middle more target) : machine.Reads source (word ++ more) target := by
  obtain ⟨symbols, path, rfl⟩ := first
  obtain ⟨others, rest, rfl⟩ := second
  exact ⟨symbols ++ others, path.append rest, Symbol.spelled_append symbols others⟩

/-- A single transition reads what its symbol spells. -/
theorem single {symbol : Symbol} (listed : ⟨source, symbol, target⟩ ∈ machine.transitions) :
    machine.Reads source (Symbol.spelled [symbol]) target :=
  ⟨[symbol], .cons listed (.nil target), rfl⟩

theorem of_silent (silent : ReflTransGen machine.Silent source target) :
    machine.Reads source [] target := by
  induction silent with
  | refl => exact refl source
  | tail _ listed ih => exact ih.append (single listed)

theorem target_lt (sound : machine.WellFormed) (reads : machine.Reads source word target)
    (inside : source < machine.size) : target < machine.size := by
  obtain ⟨_, path, _⟩ := reads
  exact path.target_lt sound inside

/-- A word is still read when transitions are added. -/
theorem mono {other : Automaton}
    (kept : ∀ transition ∈ machine.transitions, transition ∈ other.transitions)
    (reads : machine.Reads source word target) : other.Reads source word target := by
  obtain ⟨symbols, path, spells⟩ := reads
  exact ⟨symbols, path.mono kept, spells⟩

/-- What is read from a state is read from an earlier one, after the word in between. -/
theorem append_mem_languageFrom (first : machine.Reads source word middle)
    (read : more ∈ machine.languageFrom middle) : word ++ more ∈ machine.languageFrom source := by
  obtain ⟨final, inside, reads⟩ := read
  exact ⟨final, inside, first.append reads⟩

end Reads

/-- **Nothing is read on epsilon transitions only.** -/
theorem reads_nil_iff :
    machine.Reads source [] target ↔ ReflTransGen machine.Silent source target := by
  constructor
  · rintro ⟨symbols, path, nothing⟩
    exact path.silent nothing
  · exact Reads.of_silent

/-- **A word is read by reading its first class**, after some epsilon transitions, and then the
rest of it. -/
theorem reads_cons_iff {cls : CharClass} {word : List CharClass} :
    machine.Reads source (cls :: word) target ↔
      ∃ before after, ReflTransGen machine.Silent source before ∧
        ⟨before, .read cls, after⟩ ∈ machine.transitions ∧ machine.Reads after word target := by
  constructor
  · rintro ⟨symbols, path, spells⟩
    exact path.split spells
  · rintro ⟨before, after, silent, listed, reads⟩
    exact (Reads.of_silent silent).append ((Reads.single listed).append reads)

/-! ### Languages -/

theorem nil_mem_languageFrom (final : source ∈ machine.finals) :
    [] ∈ machine.languageFrom source :=
  ⟨source, final, .refl source⟩

/-- What is read from the target of a transition is read from its source, after its symbol. -/
theorem append_mem_languageFrom {symbol : Symbol} {word : List CharClass}
    (listed : ⟨source, symbol, target⟩ ∈ machine.transitions)
    (read : word ∈ machine.languageFrom target) :
    Symbol.spelled [symbol] ++ word ∈ machine.languageFrom source :=
  (Reads.single listed).append_mem_languageFrom read

end Automaton

end PatternNfa
