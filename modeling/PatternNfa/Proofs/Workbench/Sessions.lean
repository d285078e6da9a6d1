/-
**Sessions at a workbench.**

A session gives one instruction after another. The automata that come to be on an empty workbench in
this way are those that can be built: every instruction keeps it so that all of them are, and whichever
automaton can be built is put there by some session. An instruction that fails leaves the workbench as
it is.

* `carriedOut_perform`: what an instruction can do;
* `perform_of_failed`: an instruction that fails changes nothing;
* `AllBuilt.perform`, `AllBuilt.performAll`: what one instruction and a session keep;
* `exists_session`: an automaton that can be built is built without touching other names;
* `built_iff_exists_session`: the automata of all sessions.
-/

import PatternNfa.Proofs.Automaton.Built
import PatternNfa.Workbench.Basic

namespace PatternNfa

/-- An instruction that brings no automaton of its own along. What it joins is on the workbench. -/
def Instruction.Plain : Instruction → Prop
  | .edit change => change.operand? = none
  | _ => True

/-- The instruction has failed. -/
def Reply.Failed : Reply → Prop
  | .noPattern => True
  | .refused _ => True
  | .noMachine => True
  | _ => False

/-- An edit does not fail. -/
theorem Edit.not_failed_apply (edit : Edit) (machine : Automaton) :
    ¬(edit.apply machine).1.Failed := by
  cases edit <;> exact id

/-- A question that can be asked has an answer. -/
theorem Question.not_failed_answer (question : Question) (machine : Automaton) :
    ¬(question.answer machine).Failed := by
  cases question <;> exact id

theorem Join.operand?_edit (join : Join) (other : Option Automaton) :
    (join.edit other).operand? = other := by
  cases join <;> rfl

/-- An edit with an automaton to join is one of the two joins. -/
theorem Edit.exists_join {edit : Edit} {other : Automaton} (joined : edit.operand? = some other) :
    ∃ join : Join, edit = join.edit (some other) := by
  cases edit with
  | concatenate operand => exact ⟨.concatenate, congrArg Edit.concatenate joined⟩
  | union operand => exact ⟨.union, congrArg Edit.union joined⟩
  | _ => cases joined

namespace Workbench

variable {bench rest : Workbench} {name scratch : String} {machine other : Automaton}
  {operand : Option Automaton} {instruction : Instruction}
  {steps others : List (String × Instruction)}

/-- Carries out the instructions of a session. -/
def performAll : List (String × Instruction) → Workbench → Workbench
  | [], bench => bench
  | (name, instruction) :: steps, bench => performAll steps (bench.perform name instruction).2

theorem performAll_append (first second : List (String × Instruction)) (bench : Workbench) :
    performAll (first ++ second) bench = performAll second (performAll first bench) := by
  induction first generalizing bench with
  | nil => rfl
  | cons step first ih => exact ih _

/-! ### What is under a name -/

theorem machines_put (bench : Workbench) (name kept : String) (machine : Automaton) :
    (bench.put name machine).machines[kept]? =
      if name = kept then some machine else bench.machines[kept]? := by
  rw [put, Std.ExtTreeMap.getElem?_insert]
  simp only [Std.LawfulEqCmp.compare_eq_iff_eq]

theorem machines_erase (bench : Workbench) (name kept : String) :
    (bench.machines.erase name)[kept]? = if name = kept then none else bench.machines[kept]? := by
  rw [Std.ExtTreeMap.getElem?_erase]
  simp only [Std.LawfulEqCmp.compare_eq_iff_eq]

/-! ### What an instruction does -/

/-- The automaton that comes from an origin, on a workbench. -/
inductive Offered (bench : Workbench) : Origin → Automaton → Prop
  | single : Offered bench .single .single
  | parts (parts : Parts) : Offered bench (.parts parts) (.ofParts parts)
  | pattern {text : String} {machine : Automaton} : compile text = .ok (some machine) →
      Offered bench (.pattern text) machine
  | copy {source : String} {machine : Automaton} : bench.machines[source]? = some machine →
      Offered bench (.copy source) machine

/-- **What an instruction about a name can do**: fail, put an automaton there, change the one that is
there, or look at it. -/
inductive CarriedOut (bench : Workbench) (name : String) : Instruction → Reply × Workbench → Prop
  | failed {instruction : Instruction} {reply : Reply} :
      reply.Failed → CarriedOut bench name instruction (reply, bench)
  | defined {origin : Origin} {machine : Automaton} : Offered bench origin machine →
      CarriedOut bench name (.define origin) (.done, bench.put name machine)
  | edited {machine : Automaton} (edit : Edit) : bench.machines[name]? = some machine →
      CarriedOut bench name (.edit edit) (bench.change name machine edit)
  | joined {machine : Automaton} {operand : Option Automaton} {rest : Workbench}
      {operand? : Option String} (join : Join) : bench.machines[name]? = some machine →
      bench.take name operand? = some (operand, rest) →
      CarriedOut bench name (.join join operand?) (rest.change name machine (join.edit operand))
  | asked {machine : Automaton} (question : Question) : bench.machines[name]? = some machine →
      CarriedOut bench name (.ask question) (question.answer machine, bench)
  | closed {machine : Automaton} (selection : Selection) : bench.machines[name]? = some machine →
      CarriedOut bench name (.closure selection)
        (bench.remember (machine.closure (bench.select selection)))
  | stepped {machine : Automaton} (selection : Selection) (symbol : Symbol) :
      bench.machines[name]? = some machine →
      CarriedOut bench name (.step selection symbol)
        (bench.remember (machine.step (bench.select selection) symbol))

theorem define_of_offered {origin : Origin} (offered : Offered bench origin machine) (name : String) :
    bench.define name origin = (.done, bench.put name machine) := by
  cases offered with
  | single => rfl
  | parts parts => rfl
  | pattern compiled => simp only [define, compiled]
  | copy found => simp only [define, found]

theorem carriedOut_define (bench : Workbench) (name : String) (origin : Origin) :
    CarriedOut bench name (.define origin) (bench.define name origin) := by
  have given {machine : Automaton} (offered : Offered bench origin machine) :
      CarriedOut bench name (.define origin) (bench.define name origin) := by
    rw [define_of_offered offered]
    exact .defined offered
  cases origin with
  | single => exact given .single
  | parts parts => exact given (.parts parts)
  | pattern text =>
    rcases compiled : compile text with error | _ | machine
    · simp only [define, compiled]
      exact .failed trivial
    · simp only [define, compiled]
      exact .failed trivial
    · exact given (.pattern compiled)
  | copy source =>
    cases found : bench.machines[source]? with
    | none =>
      simp only [define, found]
      exact .failed trivial
    | some machine => exact given (.copy found)

theorem perform_define (bench : Workbench) (name : String) (origin : Origin) :
    bench.perform name (.define origin) = bench.define name origin := by
  rw [perform]

theorem perform_edit (found : bench.machines[name]? = some machine) (edit : Edit) :
    bench.perform name (.edit edit) = bench.change name machine edit := by
  simp only [perform, found]

theorem perform_join (found : bench.machines[name]? = some machine) (join : Join)
    {operand? : Option String} (taken : bench.take name operand? = some (operand, rest)) :
    bench.perform name (.join join operand?) = rest.change name machine (join.edit operand) := by
  simp only [perform, found, taken]

theorem take_some (found : bench.machines[scratch]? = some other) (differs : scratch ≠ name) :
    bench.take name (some scratch) =
      some (some other, { bench with machines := bench.machines.erase scratch }) := by
  rw [take, found, Option.map_some, if_neg differs]

/-- Without an automaton of the name, only a new one can be put there. -/
theorem perform_of_missing (missing : bench.machines[name]? = none)
    (known : ∀ origin, instruction ≠ .define origin) :
    bench.perform name instruction = (.noMachine, bench) := by
  cases instruction with
  | define origin => exact absurd rfl (known origin)
  | _ => simp only [perform, missing]

theorem carriedOut_perform (bench : Workbench) (name : String) (instruction : Instruction) :
    CarriedOut bench name instruction (bench.perform name instruction) := by
  by_cases new : ∃ origin, instruction = .define origin
  · obtain ⟨origin, rfl⟩ := new
    rw [perform_define]
    exact carriedOut_define bench name origin
  · rw [not_exists] at new
    cases found : bench.machines[name]? with
    | none =>
      rw [perform_of_missing found new]
      exact .failed trivial
    | some machine =>
      cases instruction with
      | define origin => exact absurd rfl (new origin)
      | edit edit =>
        rw [perform_edit found]
        exact .edited edit found
      | join join operand? =>
        cases taken : bench.take name operand? with
        | none =>
          simp only [perform, found, taken]
          exact .failed trivial
        | some pair =>
          rw [perform_join found join taken]
          exact .joined join found taken
      | ask question =>
        simp only [perform, found]
        exact .asked question found
      | closure selection =>
        simp only [perform, found]
        exact .closed selection found
      | step selection symbol =>
        simp only [perform, found]
        exact .stepped selection symbol found

/-- **An instruction that fails changes nothing.** -/
theorem perform_of_failed (failed : (bench.perform name instruction).1.Failed) :
    (bench.perform name instruction).2 = bench := by
  have done := carriedOut_perform bench name instruction
  generalize bench.perform name instruction = result at done failed ⊢
  cases done with
  | failed => rfl
  | defined => exact failed.elim
  | edited edit => exact absurd failed (edit.not_failed_apply _)
  | joined join => exact absurd failed ((join.edit _).not_failed_apply _)
  | asked question => exact absurd failed (question.not_failed_answer _)
  | closed => exact failed.elim
  | stepped => exact failed.elim

/-! ### What is kept -/

/-- Every automaton on the workbench has been built. -/
structure AllBuilt (bench : Workbench) : Prop where
  built : ∀ ⦃name : String⦄ ⦃machine : Automaton⦄, bench.machines[name]? = some machine → machine.Built

namespace AllBuilt

theorem empty : Workbench.empty.AllBuilt where
  built name machine found := by
    rw [Workbench.empty, Std.ExtTreeMap.getElem?_empty] at found
    cases found

theorem put (all : bench.AllBuilt) (built : machine.Built) (name : String) :
    (bench.put name machine).AllBuilt where
  built kept found listed := by
    rw [machines_put] at listed
    split at listed
    · cases listed
      exact built
    · exact all.built listed

theorem offered (all : bench.AllBuilt) {origin : Origin} (offered : Offered bench origin machine) :
    machine.Built := by
  cases offered with
  | single => exact .single
  | parts parts => exact .ofParts parts
  | pattern compiled => exact .compiled compiled
  | copy found => exact all.built found

/-- What is taken off has been built, and so has what stays. -/
theorem take (all : bench.AllBuilt) {operand? : Option String}
    (taken : bench.take name operand? = some (operand, rest)) :
    (∀ other, operand = some other → other.Built) ∧ rest.AllBuilt := by
  cases operand? with
  | none =>
    cases taken
    exact ⟨nofun, all⟩
  | some source =>
    obtain ⟨machine, found, left⟩ := Option.map_eq_some_iff.mp taken
    have isBuilt : ∀ other, some machine = some other → other.Built := by
      rintro _ ⟨⟩
      exact all.built found
    split at left
    · cases left
      exact ⟨isBuilt, all⟩
    · cases left
      refine ⟨isBuilt, ⟨fun kept machine listed => ?_⟩⟩
      rw [machines_erase] at listed
      split at listed
      · cases listed
      · exact all.built listed

theorem change (all : bench.AllBuilt) (built : machine.Built) {edit : Edit}
    (operandBuilt : ∀ other, edit.operand? = some other → other.Built) (name : String) :
    (bench.change name machine edit).2.AllBuilt :=
  all.put (.edited edit built operandBuilt) name

/-- **One instruction** keeps it so that all automata have been built. -/
theorem perform (all : bench.AllBuilt) (plain : instruction.Plain) (name : String) :
    (bench.perform name instruction).2.AllBuilt := by
  have done := carriedOut_perform bench name instruction
  generalize bench.perform name instruction = result at done ⊢
  cases done with
  | failed => exact all
  | defined offered => exact all.put (all.offered offered) name
  | edited edit found =>
    -- A plain edit joins nothing.
    refine all.change (all.built found) (fun other joined => ?_) name
    cases plain.symm.trans joined
  | joined join found taken =>
    obtain ⟨operandBuilt, kept⟩ := all.take taken
    refine kept.change (all.built found) (fun other joined => ?_) name
    exact operandBuilt other ((join.operand?_edit _).symm.trans joined)
  | asked => exact all
  | closed => exact ⟨all.built⟩
  | stepped => exact ⟨all.built⟩

/-- **A session** keeps it so that all automata have been built. -/
theorem performAll (all : bench.AllBuilt) (plain : ∀ step ∈ steps, step.2.Plain) :
    (performAll steps bench).AllBuilt := by
  induction steps generalizing bench with
  | nil => exact all
  | cons step steps ih =>
    obtain ⟨isPlain, others⟩ := List.forall_mem_cons.mp plain
    exact ih (all.perform isPlain step.1) others

end AllBuilt

/-! ### What sessions build -/

/-- The session puts an automaton under a name. Other names keep theirs, unless they start with that
name. -/
structure Puts (bench : Workbench) (name : String) (machine : Automaton)
    (steps : List (String × Instruction)) : Prop where
  plain : ∀ step ∈ steps, step.2.Plain
  found : (performAll steps bench).machines[name]? = some machine
  apart : ∀ kept : String, ¬name.toList <+: kept.toList →
    (performAll steps bench).machines[kept]? = bench.machines[kept]?

theorem ne_of_outside {kept : String} (outside : ¬name.toList <+: kept.toList) : name ≠ kept :=
  fun same => outside (same ▸ List.prefix_rfl)

namespace Puts

theorem define {origin : Origin} (offered : Offered bench origin machine) :
    Puts bench name machine [(name, .define origin)] := by
  have done : Workbench.performAll [(name, .define origin)] bench = bench.put name machine := by
    rw [performAll, performAll, perform_define, define_of_offered offered]
  refine ⟨List.forall_mem_singleton.mpr trivial, ?_, fun kept outside => ?_⟩
  · rw [done, machines_put, if_pos rfl]
  · rw [done, machines_put, if_neg (ne_of_outside outside)]

theorem edit (puts : Puts bench name machine steps) {edit : Edit} (alone : edit.operand? = none) :
    Puts bench name (edit.apply machine).2 (steps ++ [(name, .edit edit)]) := by
  have done : Workbench.performAll (steps ++ [(name, .edit edit)]) bench =
      (performAll steps bench).put name (edit.apply machine).2 := by
    rw [performAll_append, performAll, performAll, perform_edit puts.found, change]
  refine ⟨?_, ?_, fun kept outside => ?_⟩
  · exact List.forall_mem_append.mpr ⟨puts.plain, List.forall_mem_singleton.mpr alone⟩
  · rw [done, machines_put, if_pos rfl]
  · rw [done, machines_put, if_neg (ne_of_outside outside), puts.apart kept outside]

/-- The automaton to be joined is put under a longer name, and is taken off again. -/
theorem join (puts : Puts bench name machine steps)
    (second : Puts (performAll steps bench) scratch other others)
    (starts : name.toList <+: scratch.toList) (longer : ¬scratch.toList <+: name.toList) (join : Join) :
    Puts bench name ((join.edit (some other)).apply machine).2
      (steps ++ others ++ [(name, .join join (some scratch))]) := by
  have there : (performAll others (performAll steps bench)).machines[name]? = some machine := by
    rw [second.apart name longer, puts.found]
  have done : Workbench.performAll (steps ++ others ++ [(name, .join join (some scratch))]) bench =
      put { performAll others (performAll steps bench) with
        machines := (performAll others (performAll steps bench)).machines.erase scratch }
        name ((join.edit (some other)).apply machine).2 := by
    rw [performAll_append, performAll_append, performAll, performAll,
      perform_join there join (take_some second.found (ne_of_outside longer)), change]
  refine ⟨?_, ?_, fun kept outside => ?_⟩
  · have plain := List.forall_mem_append.mpr ⟨puts.plain, second.plain⟩
    exact List.forall_mem_append.mpr ⟨plain, List.forall_mem_singleton.mpr trivial⟩
  · rw [done, machines_put, if_pos rfl]
  · have further : ¬scratch.toList <+: kept.toList := fun under => outside (starts.trans under)
    rw [done, machines_put, if_neg (ne_of_outside outside), machines_erase,
      if_neg (ne_of_outside further), second.apart kept further, puts.apart kept outside]

end Puts

/-- **Every automaton that can be built is put under any given name** by some session, on any
workbench. -/
theorem exists_session (built : machine.Built) (bench : Workbench) (name : String) :
    ∃ steps, Puts bench name machine steps := by
  induction built generalizing bench name with
  | single => exact ⟨_, .define .single⟩
  | ofParts parts => exact ⟨_, .define (.parts parts)⟩
  | compiled compiled => exact ⟨_, .define (.pattern compiled)⟩
  | edited edit _ _ ih operandIh =>
    obtain ⟨steps, puts⟩ := ih bench name
    cases joined : edit.operand? with
    | none => exact ⟨_, puts.edit joined⟩
    | some other =>
      obtain ⟨join, rfl⟩ := Edit.exists_join joined
      obtain ⟨others, second⟩ := operandIh other joined (performAll steps bench) (name ++ "'")
      have starts : name.toList <+: (name ++ "'").toList := by
        rw [String.toList_append]
        exact List.prefix_append name.toList _
      have longer : ¬(name ++ "'").toList <+: name.toList := by
        intro shorter
        have bound := shorter.length_le
        rw [String.toList_append, List.length_append] at bound
        exact Nat.not_succ_le_self _ bound
      exact ⟨_, puts.join second starts longer join⟩

/-- **The automata that can be built are those that sessions put on an empty workbench.** -/
theorem built_iff_exists_session :
    machine.Built ↔ ∃ steps : List (String × Instruction), (∀ step ∈ steps, step.2.Plain) ∧
      ∃ name : String, (performAll steps .empty).machines[name]? = some machine := by
  constructor
  · intro built
    obtain ⟨steps, puts⟩ := exists_session built .empty ""
    exact ⟨steps, puts.plain, "", puts.found⟩
  · rintro ⟨steps, plain, name, found⟩
    exact (AllBuilt.empty.performAll plain).built found

end Workbench

end PatternNfa
