/-
**What a command is given.**

A command is given bytes and patterns. Bytes are the text that they encode, if they encode one. A file
that cannot be opened or read gives none. A pattern has an automaton or a fault. Each of these is said
here as an equivalence, so that the proofs about commands need not look into how bytes are decoded or
patterns are compiled.

* `decode_eq_ok_iff`: bytes and the text that they encode;
* `Unreadable`, `fileText_eq_ok_iff`, `fileText_eq_error_iff`: files that give a text, and the others;
* `NoMachine`, `machineOf_eq_ok_iff`, `machineOf_eq_error_iff`: patterns with and without an automaton.
-/

import PatternNfa.CommandLine.Commands

namespace PatternNfa

/-- **Why a pattern has no automaton.** -/
inductive NoMachine (pattern : String) : PatternFault → Prop
  | empty : compile pattern = .ok none → NoMachine pattern .empty
  | invalid {error : CompileError} : compile pattern = .error error →
      NoMachine pattern (.invalid error)

theorem compileRequired_eq_error_iff {pattern : String} {fault : PatternFault} :
    compileRequired pattern = .error fault ↔ NoMachine pattern fault := by
  constructor
  · intro failed
    unfold compileRequired at failed
    cases compiled : compile pattern with
    | error error =>
      rw [compiled] at failed
      cases failed
      exact .invalid compiled
    | ok built =>
      cases built with
      | none =>
        rw [compiled] at failed
        cases failed
        exact .empty compiled
      | some machine =>
        rw [compiled] at failed
        cases failed
  · intro none
    unfold compileRequired
    cases none with
    | empty compiled => rw [compiled]
    | invalid compiled => rw [compiled]

namespace CommandLine

variable {sources : Sources} {name text : String} {bytes : ByteArray} {fault : SourceFault}
  {batch : Batch} {machine : Automaton} {failure : Failure}

/-! ### Bytes -/

/-- **Bytes are read as the text that they encode.** -/
theorem decode_eq_ok_iff : decode bytes = .ok text ↔ bytes = text.toUTF8 := by
  unfold decode String.fromUTF8?
  constructor
  · intro read
    by_cases valid : bytes.IsValidUTF8
    · rw [dif_pos valid] at read
      cases read
      rfl
    · rw [dif_neg valid] at read
      cases read
  · rintro rfl
    rw [String.toUTF8_eq_toByteArray, dif_pos text.isValidUTF8]
    rfl

/-- Bytes that encode no text are refused. -/
theorem decode_eq_error_iff :
    decode bytes = .error fault ↔ (∀ text : String, bytes ≠ text.toUTF8) ∧ fault = .notText := by
  have only {other : SourceFault} (failed : decode bytes = .error other) : other = .notText := by
    unfold decode at failed
    split at failed
    · cases failed
      rfl
    · cases failed
  constructor
  · intro failed
    refine ⟨fun text same => ?_, only failed⟩
    rw [decode_eq_ok_iff.mpr same] at failed
    cases failed
  · rintro ⟨foreign, rfl⟩
    cases read : decode bytes with
    | ok text => exact absurd (decode_eq_ok_iff.mp read) (foreign text)
    | error other => rw [only read]

/-! ### Files -/

/-- **Why a file gives no text.** -/
inductive Unreadable (sources : Sources) (name : String) : SourceFault → Prop
  | opening {error : SystemError} : sources.file name = .error (.opening error) →
      Unreadable sources name (.opening name error)
  | reading {error : SystemError} : sources.file name = .error (.reading error) →
      Unreadable sources name (.reading error)
  | notText {bytes : ByteArray} : sources.file name = .ok bytes →
      (∀ text : String, bytes ≠ text.toUTF8) → Unreadable sources name .notText

/-- **A file gives the text that its bytes encode.** -/
theorem fileText_eq_ok_iff :
    sources.fileText name = .ok text ↔ sources.file name = .ok text.toUTF8 := by
  unfold Sources.fileText
  rcases given : sources.file name with (error | error) | bytes
  · simp
  · simp
  · simp only [decode_eq_ok_iff, Except.ok.injEq]

/-- **A file that gives no text is at fault.** -/
theorem fileText_eq_error_iff :
    sources.fileText name = .error fault ↔ Unreadable sources name fault := by
  constructor
  · intro failed
    unfold Sources.fileText at failed
    rcases given : sources.file name with (error | error) | bytes
    · rw [given] at failed
      cases failed
      exact .opening given
    · rw [given] at failed
      cases failed
      exact .reading given
    · rw [given] at failed
      obtain ⟨foreign, rfl⟩ := decode_eq_error_iff.mp failed
      exact .notText given foreign
  · intro unreadable
    unfold Sources.fileText
    cases unreadable with
    | opening given => rw [given]
    | reading given => rw [given]
    | notText given foreign =>
      rw [given]
      exact decode_eq_error_iff.mpr ⟨foreign, rfl⟩

/-! ### Patterns -/

/-- **A batch has the automaton of its pattern.** -/
theorem machineOf_eq_ok_iff :
    machineOf batch = .ok machine ↔ compile batch.pattern = .ok (some machine) := by
  rw [← compileRequired_eq_ok_iff, machineOf]
  cases compileRequired batch.pattern with
  | ok built =>
    constructor
    · rintro ⟨⟩
      rfl
    · rintro ⟨⟩
      rfl
  | error fault => exact iff_of_false nofun nofun

/-- **A batch without an automaton has a pattern at fault.** -/
theorem machineOf_eq_error_iff :
    machineOf batch = .error failure ↔
      ∃ fault, NoMachine batch.pattern fault ∧ failure = .pattern batch.pattern fault := by
  simp only [← compileRequired_eq_error_iff, machineOf]
  cases compileRequired batch.pattern with
  | ok built => exact iff_of_false nofun nofun
  | error found =>
    constructor
    · intro same
      cases same
      exact ⟨found, rfl, rfl⟩
    · rintro ⟨fault, same, rfl⟩
      cases same
      rfl

end CommandLine

end PatternNfa
