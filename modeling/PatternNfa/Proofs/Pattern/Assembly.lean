/-
**An automaton is put together along the text.**

Each step by which the automaton of a pattern is built belongs to a stretch of the text: to a literal,
to a group, to two stretches one after the other, or to two texts with a `U` between them. So what
holds of every compiled automaton, also with regard to its text, can be shown one step at a time.

* `Assembled`: the steps, with the texts that they belong to;
* `assembled_of_compile`: every compiled automaton is put together so.
-/

import PatternNfa.Proofs.Pattern.Denotation

namespace PatternNfa

open Automaton (reading)

/-- **The automaton is put together along the text.** A text without a `U` has a sequence of
literals and groups, and no group is inside another one. A `U` with nothing before it, or nothing
after it, leaves the automaton as it is. -/
inductive Assembled : List Char → Automaton → Prop
  | literal (cls : CharClass) : Assembled [cls.patternChar] (reading cls)
  | starred (cls : CharClass) : Assembled [cls.patternChar, '*'] (reading cls).star
  | group {body : List Char} {machine : Automaton} : 'U' ∉ body → '(' ∉ body →
      Assembled body machine → Assembled ('(' :: body ++ [')', '*']) machine.star
  | sequence {first second : List Char} {machine other : Automaton} : 'U' ∉ first → 'U' ∉ second →
      Assembled first machine → Assembled second other →
        Assembled (first ++ second) (machine.concatenate other)
  | alternatives {first second : List Char} {machine other : Automaton} :
      Assembled first machine → Assembled second other →
        Assembled (first ++ 'U' :: second) (machine.union other)
  | emptyBefore {text : List Char} {machine : Automaton} : Assembled text machine →
      Assembled ('U' :: text) machine
  | emptyAfter {text : List Char} {machine : Automaton} : Assembled text machine →
      Assembled (text ++ ['U']) machine

variable {text : List Char} {machine : Automaton}

/-! ### Alternatives -/

theorem Literal.not_mem_text (literal : Literal) : 'U' ∉ literal.text :=
  fun inside => absurd (literal.text_subset inside) (by decide)

theorem Piece.not_mem_text (piece : Piece) : 'U' ∉ piece.text :=
  fun inside => absurd (piece.text_subset inside) (by decide)

/-- Items that are concatenated from left to right are written one after another. -/
theorem Assembled.foldl_concatenate {α : Type} {write : α → List Char} {build : α → Automaton}
    (eachFree : ∀ item, 'U' ∉ write item) (each : ∀ item, Assembled (write item) (build item))
    (items : List α) (free : 'U' ∉ text) (assembled : Assembled text machine) :
    Assembled (text ++ items.flatMap write)
      (items.foldl (fun joined item => joined.concatenate (build item)) machine) := by
  induction items generalizing text machine with
  | nil =>
    rw [List.flatMap_nil, List.append_nil]
    exact assembled
  | cons item items ih =>
    have bothFree : 'U' ∉ text ++ write item :=
      fun inside => (List.mem_append.mp inside).elim free (eachFree item)
    rw [List.flatMap_cons, ← List.append_assoc]
    exact ih bothFree (.sequence free (eachFree item) assembled (each item))

theorem Literal.assembled (literal : Literal) : Assembled literal.text literal.machine := by
  obtain ⟨cls, starred⟩ := literal
  cases starred with
  | false => exact .literal cls
  | true => exact .starred cls

theorem Piece.assembled (piece : Piece) : Assembled piece.text piece.machine := by
  cases piece with
  | literal single => exact single.assembled
  | group first rest =>
    have inner := flatMap_literal_text_subset (first :: rest)
    refine .group (fun inside => absurd (inner inside) (by decide))
      (fun inside => absurd (inner inside) (by decide)) ?_
    exact first.assembled.foldl_concatenate Literal.not_mem_text Literal.assembled rest
      first.not_mem_text

theorem Segment.assembled {segment : Segment} (built : segment.machine? = some machine) :
    Assembled segment.text machine := by
  cases segment with
  | nil => cases built
  | cons piece pieces =>
    cases built
    rw [List.foldl_map]
    exact piece.assembled.foldl_concatenate Piece.not_mem_text Piece.assembled pieces
      piece.not_mem_text

/-! ### Patterns -/

/-- The alternatives after some text are joined to its automaton, apart from the empty ones. -/
theorem Assembled.foldl_union (segments : List Segment) (assembled : Assembled text machine) :
    Assembled (text ++ segments.flatMap fun segment => 'U' :: segment.text)
      ((segments.filterMap Segment.machine?).foldl Automaton.union machine) := by
  induction segments generalizing text machine with
  | nil =>
    rw [List.flatMap_nil, List.append_nil]
    exact assembled
  | cons segment segments ih =>
    rw [List.flatMap_cons, ← List.append_assoc]
    cases built : segment.machine? with
    | none =>
      rw [List.filterMap_cons_none built, Segment.machine?_eq_none_iff.mp built]
      exact ih assembled.emptyAfter
    | some other =>
      rw [List.filterMap_cons_some built]
      exact ih (assembled.alternatives (Segment.assembled built))

theorem Pattern.assembled_of_first {first : Segment} (rest : List Segment) (nonempty : first ≠ [])
    (built : (⟨first, rest⟩ : Pattern).machine? = some machine) :
    Assembled (⟨first, rest⟩ : Pattern).text machine := by
  obtain ⟨other, firstBuilt⟩ := Segment.exists_machine nonempty
  unfold Pattern.machine? Pattern.segments at built
  rw [List.filterMap_cons_some firstBuilt] at built
  cases built
  exact (Segment.assembled firstBuilt).foldl_union rest

/-- **The automaton of a pattern is put together along its text.** -/
theorem Pattern.assembled {pattern : Pattern} (built : pattern.machine? = some machine) :
    Assembled pattern.text machine := by
  obtain ⟨first, rest⟩ := pattern
  -- Only alternatives that are empty come before the first one that has an automaton.
  induction rest generalizing first with
  | nil =>
    cases first with
    | nil => cases built
    | cons piece pieces => exact assembled_of_first [] (List.cons_ne_nil _ _) built
  | cons next more ih =>
    cases first with
    | nil => exact (ih next built).emptyBefore
    | cons piece pieces => exact assembled_of_first (next :: more) (List.cons_ne_nil _ _) built

/-- **A compiled automaton is put together along the text.** -/
theorem assembled_of_compile {source : String} (compiled : compile source = .ok (some machine)) :
    Assembled source.toList machine := by
  obtain ⟨pattern, written, built⟩ := compile_eq_ok_iff.mp compiled
  rw [← written]
  exact Pattern.assembled built

end PatternNfa
