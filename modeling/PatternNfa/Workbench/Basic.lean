/-
**The workbench.**

A workbench holds automata under names, and the set of states that was computed last. Each
instruction is about one name. It puts a new automaton there, changes the automaton that is there,
or asks about it. Joining a second automaton to it uses that one up, unless it is the same one: then
a copy of it is joined.
-/

import PatternNfa.Pattern.Machine
import PatternNfa.Workbench.Edit
import Std.Data.ExtTreeMap

namespace PatternNfa

/-- Automata under names, and the set of states that was computed last. -/
structure Workbench where
  machines : Std.ExtTreeMap String Automaton
  last : StateSet

/-- Where a new automaton comes from. -/
inductive Origin where
  | single
  | parts (parts : Parts)
  | pattern (text : String)
  | copy (name : String)

/-- A set of states: those in a list, or the set that was computed last. -/
inductive Selection where
  | states (states : List State)
  | last

/-- Two ways to join a second automaton. -/
inductive Join where
  | concatenate
  | union

/-- The change that joins the given automaton. -/
def Join.edit : Join → Option Automaton → Edit
  | .concatenate, other => .concatenate other
  | .union, other => .union other

/-- What can be asked of the workbench under one name. -/
inductive Instruction where
  | define (origin : Origin)
  | edit (edit : Edit)
  /-- Joins the automaton of another name, or none at all. -/
  | join (join : Join) (other : Option String)
  | ask (question : Question)
  | closure (selection : Selection)
  | step (selection : Selection) (symbol : Symbol)

namespace Workbench

/-- The workbench without automata. -/
def empty : Workbench := ⟨∅, ∅⟩

/-- The states that are selected. -/
def select (bench : Workbench) : Selection → StateSet
  | .states states => .ofStates states
  | .last => bench.last

/-- Puts an automaton under a name. -/
def put (bench : Workbench) (name : String) (machine : Automaton) : Workbench :=
  { bench with machines := bench.machines.insert name machine }

/-- Takes the automaton to be joined to that of `name` off the workbench. -/
def take (bench : Workbench) (name : String) :
    Option String → Option (Option Automaton × Workbench)
  | none => some (none, bench)
  | some other =>
    bench.machines[other]?.map fun machine =>
      if other = name then
        (some machine, bench)
      else
        (some machine, { bench with machines := bench.machines.erase other })

/-- Puts a new automaton under a name. When there is none to put there, the workbench stays as it
is. -/
def define (bench : Workbench) (name : String) : Origin → Reply × Workbench
  | .single => (.done, bench.put name .single)
  | .parts parts => (.done, bench.put name (.ofParts parts))
  | .pattern text =>
    match compile text with
    | .error error => (.refused error, bench)
    | .ok none => (.noPattern, bench)
    | .ok (some machine) => (.done, bench.put name machine)
  | .copy source =>
    match bench.machines[source]? with
    | none => (.noMachine, bench)
    | some machine => (.done, bench.put name machine)

/-- Carries out a change to the automaton of a name. -/
def change (bench : Workbench) (name : String) (machine : Automaton) (edit : Edit) :
    Reply × Workbench :=
  let (reply, changed) := edit.apply machine
  (reply, bench.put name changed)

/-- Remembers a computed set of states. -/
def remember (bench : Workbench) (states : StateSet) : Reply × Workbench :=
  (.states states, { bench with last := states })

/-- Carries out an instruction about a name. -/
def perform (bench : Workbench) (name : String) (instruction : Instruction) : Reply × Workbench :=
  match instruction, bench.machines[name]? with
  | .define origin, _ => bench.define name origin
  | _, none => (.noMachine, bench)
  | .edit edit, some machine => bench.change name machine edit
  | .join join other, some machine =>
    match bench.take name other with
    | none => (.noMachine, bench)
    | some (operand, rest) => rest.change name machine (join.edit operand)
  | .ask question, some machine => (question.answer machine, bench)
  | .closure selection, some machine => bench.remember (machine.closure (bench.select selection))
  | .step selection symbol, some machine =>
    bench.remember (machine.step (bench.select selection) symbol)

end Workbench

end PatternNfa
