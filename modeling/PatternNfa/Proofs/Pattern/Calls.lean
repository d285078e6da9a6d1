/-
**Compiling by places.**

Reading a pattern cuts off what has been read and goes on with the rest. Here the same is done by
places: a stretch of a text is asked for by where it begins and ends, a character by where it is, and a
part tells by a length how far it goes. Nothing can be cut off wrongly when a text is read from the
front, but a place may be asked for that is not there, a length may be nothing or too much, and a group
calls for its body to be compiled like any other stretch. A compilation by places breaks off when one of
these goes wrong. It also keeps account of the calls it makes, each with the calls that are under way
then.

* `Compilation.stretch`: compiles a stretch of any kind, by places;
* `Compilation.Yields`: a compilation comes to a result, and all its calls are as they should be;
* `Yields.bind_ok`: two compilations, one after the other.
-/

import PatternNfa.Pattern.Machine

namespace PatternNfa

/-- A call, with the stretch of the text that it is about. -/
inductive Call where
  /-- Compiles a stretch of any kind. -/
  | stretch (text : List Char)
  /-- Compiles alternatives. -/
  | alternatives (text : List Char)
  /-- Compiles pieces one after another. -/
  | sequence (text : List Char)
  /-- Compiles the piece at the front. -/
  | piece (text : List Char)
  /-- Compiles the literal at the front. -/
  | literal (text : List Char)
  /-- Compiles the group at the front. -/
  | group (text : List Char)
  deriving DecidableEq

/-- A compilation with its calls. -/
structure Compilation (α : Type) where
  /-- The calls that are made, each with those that are under way then, the latest of these first. -/
  calls : List (Call × List Call)
  /-- What it comes to. There is nothing if the compilation breaks off. -/
  outcome : Option (Except CompileError α)

namespace Compilation

variable {α β : Type}

/-- A result without a call. -/
def done (result : Except CompileError α) : Compilation α :=
  ⟨[], some result⟩

/-- A compilation that breaks off. -/
def broken : Compilation α :=
  ⟨[], none⟩

/-- Goes on with the value, unless there is an error or the first compilation breaks off. -/
def andThen (first : Compilation α) (next : α → Compilation β) : Compilation β :=
  match first.outcome with
  | some (.ok value) => ⟨first.calls ++ (next value).calls, (next value).outcome⟩
  | some (.error error) => ⟨first.calls, some (.error error)⟩
  | none => ⟨first.calls, none⟩

instance : Monad Compilation where
  pure value := done (.ok value)
  bind := andThen

/-! ### Places -/

/-- Takes down a call. -/
def enter (call : Call) (outer : List Call) : Compilation Unit :=
  ⟨[(call, outer)], some (.ok ())⟩

/-- The character at a place. -/
def charAt (text : List Char) (place : Nat) : Compilation Char :=
  match text[place]? with
  | some c => pure c
  | none => broken

/-- The stretch from a place on. -/
def stretchFrom (text : List Char) (first : Nat) : Compilation (List Char) :=
  if first ≤ text.length then pure (text.drop first) else broken

/-- The stretch from one place up to another one. -/
def stretchBetween (text : List Char) (first last : Nat) : Compilation (List Char) :=
  if first ≤ last ∧ last ≤ text.length then pure ((text.take last).drop first) else broken

/-! ### Compiling -/

/-- Compiles the literal at the front. Returns its length as well. -/
def literal (cls : CharClass) (outer : List Call) (text : List Char) :
    Compilation (Automaton × Nat) := do
  enter (.literal text) outer
  if text[1]? = some '*' then
    pure ((Automaton.reading cls).star, 2)
  else
    pure (Automaton.reading cls, 1)

section Nested

-- How a stretch inside of this one is compiled, under which calls and at which position.
variable (compileInner : List Call → List Char → Nat → Compilation (Option Automaton))

/-- Compiles the body of a group that is closed at a place, and looks for the star after it. Returns the
length of the group as well. -/
def closedGroup (outer : List Call) (text : List Char) (position close : Nat) :
    Compilation (Automaton × Nat) := do
  let body ← stretchBetween text 1 close
  match ← compileInner outer body (position + 1) with
  | none => done (.error ⟨position, .emptyGroup⟩)
  | some machine =>
    if text[close + 1]? = some '*' then
      pure (machine.star, close + 2)
    else
      done (.error ⟨position + close + 1, .missingStar⟩)

/-- Compiles the group at the front. Returns its length as well. -/
def group (outer : List Call) (text : List Char) (position : Nat) :
    Compilation (Automaton × Nat) := do
  enter (.group text) outer
  match (text.zipIdx.drop 1).find? fun found => Pattern.isParenthesis found.1 with
  | none => done (.error ⟨position, .unclosedGroup⟩)
  | some ('(', place) => done (.error ⟨position + place, .nestedGroup⟩)
  | some (_, close) => closedGroup compileInner (.group text :: outer) text position close

/-- Compiles the piece at the front. Returns its length as well. -/
def piece (outer : List Call) (text : List Char) (position : Nat) :
    Compilation (Automaton × Nat) := do
  enter (.piece text) outer
  let c ← charAt text 0
  match CharClass.ofPatternChar? c with
  | some cls => literal cls (.piece text :: outer) text
  | none =>
    if c = '(' then
      group compileInner (.piece text :: outer) text position
    else
      done (.error ⟨position, .unexpectedChar c⟩)

/-- Compiles pieces from a place on, and joins them to what there is. Returns the place that is reached
as well. There may be at most `rounds` pieces. -/
def pieces (outer : List Call) (text : List Char) (position : Nat) :
    Nat → Nat → Option Automaton → Compilation (Nat × Option Automaton)
  | 0, place, joined => if place < text.length then broken else pure (place, joined)
  | rounds + 1, place, joined =>
    if place < text.length then do
      let rest ← stretchFrom text place
      let (machine, length) ← piece compileInner outer rest (position + place)
      pieces outer text position rounds (place + length)
        (some (joined.elim machine (·.concatenate machine)))
    else
      pure (place, joined)

/-- Compiles pieces one after another. There are at most as many as there are characters. -/
def sequence (outer : List Call) (text : List Char) (position : Nat) :
    Compilation (Option Automaton) := do
  enter (.sequence text) outer
  let (_, joined) ←
    pieces compileInner (.sequence text :: outer) text position text.length 0 none
  pure joined

/-- Compiles alternatives one after another, and joins them to what there is. -/
def alternatives (outer : List Call) :
    List (List Char) → Nat → Option Automaton → Compilation (Option Automaton)
  | [], _, joined => pure joined
  | text :: texts, position, joined => do
    let next ← compileInner outer text position
    alternatives outer texts (position + text.length + 1)
      (joined.elim next fun machine => some (machine.unionOption next))

end Nested

/-- Compiles a stretch of any kind. Such calls may nest `limit` times. -/
def stretch : Nat → List Call → List Char → Nat → Compilation (Option Automaton)
  | 0, _, _, _ => broken
  | limit + 1, outer, text, position => do
    enter (.stretch text) outer
    let outer := .stretch text :: outer
    if text = [] then
      pure none
    else if 'U' ∈ text then
      enter (.alternatives text) outer
      alternatives (stretch limit) (.alternatives text :: outer) (Text.fields (· == 'U') text)
        position none
    else
      sequence (stretch limit) outer text position

/-! ### Results and calls -/

/-- **The compilation comes to the result**, and all its calls are as they should be. -/
structure Yields (run : Compilation α) (good : Call → List Call → Prop)
    (result : Except CompileError α) : Prop where
  outcome_eq : run.outcome = some result
  calls_good : ∀ call outer, (call, outer) ∈ run.calls → good call outer

variable {good : Call → List Call → Prop} {first : Compilation α} {next : α → Compilation β}
  {value : α} {result : Except CompileError β} {call : Call} {outer : List Call} {text : List Char}

theorem yields_done (result : Except CompileError α) : (done result).Yields good result :=
  ⟨rfl, fun _ _ listed => by cases listed⟩

theorem yields_pure (value : α) : (pure value : Compilation α).Yields good (.ok value) :=
  yields_done (.ok value)

theorem yields_enter (fits : good call outer) : (enter call outer).Yields good (.ok ()) := by
  refine ⟨rfl, fun made under listed => ?_⟩
  obtain ⟨rfl, rfl⟩ := Prod.mk.inj (List.mem_singleton.mp listed)
  exact fits

/-- What is read tells what a compilation comes to. -/
theorem Yields.of_map {run : Compilation β} {read found : Except CompileError α} {value : α → β}
    (yields : run.Yields good (read.map value)) (same : read = found) :
    run.Yields good (found.map value) := by
  rw [← same]
  exact yields

/-- An error of the first compilation is the result. -/
theorem Yields.bind_error {error : CompileError} (yields : first.Yields good (.error error)) :
    (first >>= next).Yields good (.error error) := by
  show (first.andThen next).Yields good _
  unfold andThen
  rw [yields.outcome_eq]
  exact ⟨rfl, yields.calls_good⟩

/-- **Two compilations, one after the other**, of which the first one comes to a value. -/
theorem Yields.bind_ok (yields : first.Yields good (.ok value))
    (rest : (next value).Yields good result) : (first >>= next).Yields good result := by
  show (first.andThen next).Yields good _
  unfold andThen
  rw [yields.outcome_eq]
  refine ⟨rest.outcome_eq, fun call outer listed => ?_⟩
  rcases List.mem_append.mp listed with early | late
  · exact yields.calls_good call outer early
  · exact rest.calls_good call outer late

theorem yields_charAt {place : Nat} {c : Char} (found : text[place]? = some c) :
    (charAt text place).Yields good (.ok c) := by
  rw [charAt, found]
  exact yields_pure c

theorem yields_stretchFrom {place : Nat} (inside : place ≤ text.length) :
    (stretchFrom text place).Yields good (.ok (text.drop place)) := by
  rw [stretchFrom, if_pos inside]
  exact yields_pure _

theorem yields_stretchBetween {start stop : Nat} (ordered : start ≤ stop)
    (inside : stop ≤ text.length) :
    (stretchBetween text start stop).Yields good (.ok ((text.take stop).drop start)) := by
  rw [stretchBetween, if_pos ⟨ordered, inside⟩]
  exact yields_pure _

/-- What comes after the first compilation has come to a value. -/
theorem outcome_bind_eq_ok {final : β} (outcome : (first >>= next).outcome = some (.ok final)) :
    ∃ value, first.outcome = some (.ok value) ∧ (next value).outcome = some (.ok final) := by
  change (first.andThen next).outcome = _ at outcome
  unfold andThen at outcome
  split at outcome
  · rename_i value found
    exact ⟨value, found, outcome⟩
  · cases outcome
  · cases outcome

end Compilation

end PatternNfa
