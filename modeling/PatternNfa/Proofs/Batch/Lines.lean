/-
**Verdicts line by line.**

Two texts of verdicts with a newline between them are read as one is read after the other: the verdicts
of the second come after those of the first, and its faults are found as many lines further on. So a
text is read by what its lines hold. A blank line holds nothing and is counted, the first line that is
wrong is reported, and white space at either end of a line makes no difference.

* `ofLines_append`, `parse_append_newline`: one text after another;
* `parse_eq_error_iff`: the fault is that of the first line that is wrong;
* `parse_append_blank_append`: white space next to a newline or to an end of the text;
* `parse_line_by_line`: a single line, texts put together, and what makes no difference.
-/

import Mathlib.Algebra.Ring.Nat
import PatternNfa.Batch.Verdicts
import PatternNfa.Proofs.Text.Padding

namespace PatternNfa.Verdicts

open PatternNfa.Text (Blank IsCore trim_eq_iff isCore_trim isCore_nil_iff)

/-- The fault in a text that begins `offset` lines earlier. -/
def Fault.shift (offset : Nat) (fault : Fault) : Fault :=
  { fault with line := fault.line + offset }

/-- **One reading after another**: the verdicts of both, or the first fault. -/
def andThen (first second : Except Fault (List Bool)) : Except Fault (List Bool) :=
  first.bind fun verdicts => second.map (verdicts ++ ·)

variable {number offset : Nat} {line core gap : List Char} {lines : List (List Char)}
  {verdicts : List Bool} {fault : Fault} {first second text : String}

theorem error_andThen (fault : Fault) (second : Except Fault (List Bool)) :
    andThen (.error fault) second = .error fault := rfl

theorem nil_andThen (second : Except Fault (List Bool)) : andThen (.ok []) second = second := by
  cases second <;> rfl

theorem andThen_assoc (first second third : Except Fault (List Bool)) :
    andThen (andThen first second) third = andThen first (andThen second third) := by
  cases first with
  | error fault => rfl
  | ok verdicts =>
    cases second with
    | error fault => rfl
    | ok more =>
      cases third with
      | error fault => rfl
      | ok last => exact congrArg Except.ok (List.append_assoc verdicts more last)

theorem mapError_shift_andThen (offset : Nat) (first second : Except Fault (List Bool)) :
    (andThen first second).mapError (Fault.shift offset) =
      andThen (first.mapError (Fault.shift offset)) (second.mapError (Fault.shift offset)) := by
  cases first with
  | error fault => rfl
  | ok verdicts => cases second <;> rfl

/-! ### Lines one after another -/

/-- What a line holds is told by its core: nothing if it is empty, else a verdict or a fault. -/
theorem ofLines_singleton (isCore : IsCore core line) (number : Nat) :
    ofLines number [line] =
      if core = [] then .ok []
      else (ofWord? (.ofList core)).elim (.error ⟨number, .ofList core⟩) fun accepted =>
        .ok [accepted] := by
  rw [ofLines, isCore.trim_eq]
  by_cases nothing : core = []
  · simp [nothing, ofLines]
  · have someText : (String.ofList core).isEmpty = false := by simpa using nothing
    simp only [someText, nothing, if_false, Bool.false_eq_true]
    cases ofWord? (.ofList core) <;> rfl

/-- The first line is read by itself, and then the others. -/
theorem ofLines_cons (number : Nat) (line : List Char) (lines : List (List Char)) :
    ofLines number (line :: lines) = andThen (ofLines number [line]) (ofLines (number + 1) lines) := by
  rw [ofLines_singleton (isCore_trim line), ofLines]
  by_cases nothing : Text.trim line = []
  · simp [nothing, nil_andThen]
  · have someText : (String.ofList (Text.trim line)).isEmpty = false := by simpa using nothing
    simp only [someText, nothing, if_false, Bool.false_eq_true]
    cases ofWord? (.ofList (Text.trim line)) <;> rfl

/-- **Some lines are read after others**, and their numbers go on from there. -/
theorem ofLines_append (number : Nat) (lines more : List (List Char)) :
    ofLines number (lines ++ more) =
      andThen (ofLines number lines) (ofLines (number + lines.length) more) := by
  induction lines generalizing number with
  | nil => exact (nil_andThen _).symm
  | cons line lines ih =>
    have numbers : number + 1 + lines.length = number + (line :: lines).length := by
      rw [List.length_cons]
      omega
    rw [List.cons_append, ofLines_cons, ih, ofLines_cons number line lines, andThen_assoc, numbers]

/-- Lines with later numbers have the same verdicts, and their faults are further on. -/
theorem ofLines_add (number offset : Nat) (lines : List (List Char)) :
    ofLines (number + offset) lines = (ofLines number lines).mapError (Fault.shift offset) := by
  induction lines generalizing number with
  | nil => rfl
  | cons line lines ih =>
    have single : ofLines (number + offset) [line] =
        (ofLines number [line]).mapError (Fault.shift offset) := by
      rw [ofLines_singleton (isCore_trim line), ofLines_singleton (isCore_trim line)]
      by_cases nothing : Text.trim line = []
      · rw [if_pos nothing, if_pos nothing]
        rfl
      · rw [if_neg nothing, if_neg nothing]
        cases ofWord? (.ofList (Text.trim line)) <;> rfl
    rw [ofLines_cons, ofLines_cons number, mapError_shift_andThen, single, Nat.add_right_comm, ih]

/-! ### Texts one after another -/

/-- How many newlines a text has. -/
def newlines (text : String) : Nat :=
  text.toList.count '\n'

theorem newlines_append (first second : String) :
    newlines (first ++ second) = newlines first + newlines second := by
  rw [newlines, String.toList_append, List.count_append]
  rfl

/-- **One text after another.** With a newline between two texts, the second is read after the first,
and its lines are numbered from there. -/
theorem parse_append_newline (first second : String) :
    parse (first ++ "\n" ++ second) =
      andThen (parse first) ((parse second).mapError (Fault.shift (newlines first + 1))) := by
  have letters : (first ++ "\n" ++ second).toList = first.toList ++ '\n' :: second.toList := by
    simp
  rw [parse, letters, Text.lines, Text.fields_append_cons, ofLines_append, Text.length_fields,
    ofLines_add]
  rfl

/-- A text without a newline is a single line. -/
theorem parse_of_isCore (free : '\n' ∉ text.toList) (isCore : IsCore core text.toList) :
    parse text =
      if core = [] then .ok []
      else (ofWord? (.ofList core)).elim (.error ⟨1, .ofList core⟩) fun accepted =>
        .ok [accepted] := by
  rw [parse, Text.lines, Text.fields_of_not_mem free, ofLines_singleton isCore]

/-- A text is a single line, or a line before a newline and the rest after it. -/
theorem single_or_first_line (text : String) :
    '\n' ∉ text.toList ∨
      ∃ first rest : String, '\n' ∉ first.toList ∧ text = first ++ "\n" ++ rest := by
  by_cases listed : '\n' ∈ text.toList
  · obtain ⟨first, rest, cut, free⟩ := List.eq_append_cons_of_mem listed
    refine Or.inr ⟨.ofList first, .ofList rest, by simpa using free, String.toList_injective ?_⟩
    simp [cut]
  · exact Or.inl listed

/-- **Induction on the lines of a text.** -/
@[elab_as_elim]
theorem lines_induction {motive : String → Prop}
    (single : ∀ text : String, '\n' ∉ text.toList → motive text)
    (more : ∀ first rest : String, '\n' ∉ first.toList → motive rest → motive (first ++ "\n" ++ rest))
    (text : String) : motive text := by
  induction length : text.toList.length using Nat.strong_induction_on generalizing text with
  | _ length ih =>
    subst length
    rcases single_or_first_line text with free | ⟨first, rest, free, rfl⟩
    · exact single text free
    · have shorter : rest.toList.length < (first ++ "\n" ++ rest).toList.length := by
        simp only [String.toList_append, List.length_append]
        have newline : "\n".toList.length = 1 := rfl
        omega
      exact more first rest free (ih _ shorter rest rfl)

/-! ### Faults and verdicts of two texts -/

theorem parse_append_of_error (failed : parse first = .error fault) (second : String) :
    parse (first ++ "\n" ++ second) = .error fault := by
  rw [parse_append_newline, failed, error_andThen]

theorem parse_append_of_ok {more : List Bool} (read : parse first = .ok verdicts)
    (readMore : parse second = .ok more) : parse (first ++ "\n" ++ second) = .ok (verdicts ++ more) := by
  rw [parse_append_newline, read, readMore]
  rfl

theorem parse_append_of_later_error (read : parse first = .ok verdicts)
    (failed : parse second = .error fault) :
    parse (first ++ "\n" ++ second) = .error (fault.shift (newlines first + 1)) := by
  rw [parse_append_newline, read, failed]
  rfl

/-- A fault is in the first text, or in the second if there is none in the first. -/
theorem fault_of_append (failed : parse (first ++ "\n" ++ second) = .error fault) :
    parse first = .error fault ∨ ∃ verdicts later, parse first = .ok verdicts ∧
      parse second = .error later ∧ fault = later.shift (newlines first + 1) := by
  cases read : parse first with
  | error earlier =>
    rw [parse_append_of_error read] at failed
    exact Or.inl failed
  | ok verdicts =>
    cases readMore : parse second with
    | ok more =>
      rw [parse_append_of_ok read readMore] at failed
      cases failed
    | error later =>
      rw [parse_append_of_later_error read readMore] at failed
      cases failed
      exact Or.inr ⟨verdicts, later, rfl, rfl, rfl⟩

theorem exists_ok_of_append {all : List Bool} (read : parse (first ++ "\n" ++ second) = .ok all) :
    ∃ verdicts, parse first = .ok verdicts := by
  cases alone : parse first with
  | ok verdicts => exact ⟨verdicts, rfl⟩
  | error fault =>
    rw [parse_append_of_error alone] at read
    cases read

/-- The only line of a text is the first one. -/
theorem line_eq_one_of_not_mem (free : '\n' ∉ text.toList) (failed : parse text = .error fault) :
    fault = ⟨1, fault.text⟩ := by
  rw [parse_of_isCore free (isCore_trim _)] at failed
  split at failed
  · cases failed
  · cases found : ofWord? (.ofList (Text.trim text.toList)) with
    | none =>
      rw [found] at failed
      cases failed
      rfl
    | some accepted =>
      rw [found] at failed
      cases failed

/-! ### The first line that is wrong -/

/-- **A line of a text**, with what is before it and after it. -/
structure IsLine (text before line after : String) : Prop where
  text_eq : text = before ++ line ++ after
  free : '\n' ∉ line.toList
  begins : before = "" ∨ ∃ earlier, before = earlier ++ "\n"
  ends : after = "" ∨ ∃ later, after = "\n" ++ later

/-- With another line before the text, the line is further on. -/
theorem IsLine.append_newline {before line after : String} (isLine : IsLine text before line after)
    (first : String) : IsLine (first ++ "\n" ++ text) (first ++ "\n" ++ before) line after where
  text_eq := by
    rw [isLine.text_eq]
    simp only [String.append_assoc]
  free := isLine.free
  begins := by
    rcases isLine.begins with rfl | ⟨earlier, rfl⟩
    · exact Or.inr ⟨first, String.append_empty⟩
    · exact Or.inr ⟨first ++ "\n" ++ earlier, by simp only [String.append_assoc]⟩
  ends := isLine.ends

/-- There is a first line that is wrong. -/
theorem exists_line_of_error (failed : parse text = .error fault) :
    ∃ before line after, IsLine text before line after ∧
      (∃ verdicts, parse before = .ok verdicts) ∧ parse line = .error ⟨1, fault.text⟩ ∧
      fault.line = newlines before + 1 := by
  induction text using lines_induction generalizing fault with
  | single text free =>
    have one := line_eq_one_of_not_mem free failed
    refine ⟨"", text, "", ⟨by simp, free, Or.inl rfl, Or.inl rfl⟩, ⟨[], rfl⟩, one ▸ failed, ?_⟩
    rw [one]
    rfl
  | more first rest free ih =>
    rcases fault_of_append failed with early | ⟨verdicts, later, read, late, rfl⟩
    · have one := line_eq_one_of_not_mem free early
      have isLine : IsLine (first ++ "\n" ++ rest) "" first ("\n" ++ rest) :=
        ⟨by simp [String.append_assoc], free, Or.inl rfl, Or.inr ⟨rest, rfl⟩⟩
      refine ⟨"", first, _, isLine, ⟨[], rfl⟩, one ▸ early, ?_⟩
      rw [one]
      rfl
    · obtain ⟨before, line, after, isLine, ⟨more, readMore⟩, wrong, number⟩ := ih late
      refine ⟨_, line, after, isLine.append_newline first, ⟨_, parse_append_of_ok read readMore⟩,
        wrong, ?_⟩
      have newline : newlines "\n" = 1 := rfl
      show later.line + (newlines first + 1) = newlines (first ++ "\n" ++ before) + 1
      rw [newlines_append, newlines_append, newline, number]
      omega

/-- The first line that is wrong is reported. -/
theorem parse_of_isLine {before line after wrong : String} (isLine : IsLine text before line after)
    (read : parse before = .ok verdicts) (failed : parse line = .error ⟨1, wrong⟩) :
    parse text = .error ⟨newlines before + 1, wrong⟩ := by
  have fromLine : parse (line ++ after) = .error ⟨1, wrong⟩ := by
    rcases isLine.ends with rfl | ⟨later, rfl⟩
    · rw [String.append_empty, failed]
    · rw [← String.append_assoc, parse_append_of_error failed]
  rw [isLine.text_eq, String.append_assoc]
  rcases isLine.begins with rfl | ⟨earlier, rfl⟩
  · rw [String.empty_append, fromLine]
    rfl
  · have whole : earlier ++ "\n" = earlier ++ "\n" ++ "" := String.append_empty.symm
    rw [whole] at read
    obtain ⟨_, readEarlier⟩ := exists_ok_of_append read
    have newline : newlines "\n" = 1 := rfl
    rw [parse_append_of_later_error readEarlier fromLine, newlines_append, newline, Fault.shift,
      Nat.add_comm]

/-- **The fault is that of the first line that is wrong**, with the number of that line. -/
theorem parse_eq_error_iff :
    parse text = .error fault ↔
      ∃ before line after, IsLine text before line after ∧
        (∃ verdicts, parse before = .ok verdicts) ∧ parse line = .error ⟨1, fault.text⟩ ∧
        fault.line = newlines before + 1 := by
  constructor
  · exact exists_line_of_error
  · rintro ⟨before, line, after, isLine, ⟨_, read⟩, failed, number⟩
    rw [parse_of_isLine isLine read failed, ← number]

/-! ### White space at the ends of lines -/

/-- White space in one line: none of it is a newline. -/
def Inline (gap : String) : Prop :=
  Blank gap.toList ∧ '\n' ∉ gap.toList

variable {space : String}

theorem Inline.newlines_eq_zero (inline : Inline space) : newlines space = 0 :=
  List.count_eq_zero.mpr inline.2

/-- Lines with the same core are read alike. -/
theorem parse_congr_core (free : '\n' ∉ first.toList) (otherFree : '\n' ∉ second.toList)
    (isCore : IsCore core first.toList) (otherCore : IsCore core second.toList) :
    parse first = parse second := by
  rw [parse_of_isCore free isCore, parse_of_isCore otherFree otherCore]

theorem Inline.parse_append (inline : Inline space) (text : String) :
    parse (text ++ space) = parse text := by
  induction text using lines_induction with
  | single text free =>
    refine parse_congr_core ?_ free ?_ (isCore_trim _)
    · simpa using ⟨free, inline.2⟩
    · rw [String.toList_append]
      exact (isCore_trim _).append_blank inline.1
  | more first rest _ ih =>
    rw [String.append_assoc, parse_append_newline, ih, ← parse_append_newline]

theorem Inline.append_parse (inline : Inline space) (text : String) :
    parse (space ++ text) = parse text := by
  have single (line : String) (free : '\n' ∉ line.toList) : parse (space ++ line) = parse line := by
    refine parse_congr_core ?_ free ?_ (isCore_trim _)
    · simpa using ⟨inline.2, free⟩
    · rw [String.toList_append]
      exact (isCore_trim _).blank_append inline.1
  rcases single_or_first_line text with free | ⟨first, rest, free, rfl⟩
  · exact single text free
  · have same : newlines (space ++ first) = newlines first := by
      rw [newlines_append, inline.newlines_eq_zero, Nat.zero_add]
    rw [← String.append_assoc, ← String.append_assoc, parse_append_newline, single first free, same,
      ← parse_append_newline]

/-- **White space next to a newline**, or to an end of the text, makes no difference. -/
theorem parse_append_blank_append {before after : String} (inline : Inline space)
    (edge : (before = "" ∨ ∃ earlier, before = earlier ++ "\n") ∨
      after = "" ∨ ∃ later, after = "\n" ++ later) :
    parse (before ++ space ++ after) = parse (before ++ after) := by
  rcases edge with (rfl | ⟨earlier, rfl⟩) | rfl | ⟨later, rfl⟩
  · rw [String.empty_append, String.empty_append, inline.append_parse]
  · rw [String.append_assoc, parse_append_newline, inline.append_parse, ← parse_append_newline]
  · rw [String.append_empty, String.append_empty, inline.parse_append]
  · have same : newlines (before ++ space) = newlines before := by
      rw [newlines_append, inline.newlines_eq_zero, Nat.add_zero]
    rw [← String.append_assoc, ← String.append_assoc, parse_append_newline, inline.parse_append, same,
      ← parse_append_newline]

/-! ### Reading line by line -/

/-- **What a single line holds.** -/
theorem parse_line {core line : String} (free : '\n' ∉ line.toList)
    (isCore : IsCore core.toList line.toList) :
    parse line = if core = "" then .ok [] else if core = "YES" then .ok [true]
      else if core = "NO" then .ok [false] else .error ⟨1, core⟩ := by
  rw [parse_of_isCore free isCore, String.ofList_toList, ofWord?]
  by_cases nothing : core = ""
  · simp [nothing]
  · have letters : core.toList ≠ [] := by simpa using nothing
    rw [if_neg nothing, if_neg letters]
    by_cases yes : core = "YES"
    · simp [yes]
    · by_cases no : core = "NO" <;> simp [yes, no]

/-- **A text is read line by line.** A single line has a core: without one it holds nothing, with `YES`
or `NO` a verdict, and any other core is a fault in line 1. With a newline between two texts, a fault of
the first remains; the verdicts of the second come after those of the first, and a fault of the second
is as many lines further on as the first text has. So the fault of a text is that of the first line
that is wrong, and its number counts the newlines before that line. White space next to a newline or to
an end of the text makes no difference, unless it is itself a newline; in particular a carriage return
before a newline makes none. -/
theorem parse_line_by_line :
    (∀ line : String, '\n' ∉ line.toList → ∃ core : String,
        (∀ other : String, IsCore other.toList line.toList ↔ other = core) ∧
        (core = "" ↔ Blank line.toList) ∧
        parse line = if core = "" then .ok [] else if core = "YES" then .ok [true]
          else if core = "NO" then .ok [false] else .error ⟨1, core⟩) ∧
      (∀ number text, (⟨number, text⟩ : Fault).message =
        "Line " ++ toString number ++ " : expected \"YES\" or \"NO\", got \"" ++ text ++ "\".") ∧
      (∀ first second fault, parse first = .error fault →
        parse (first ++ "\n" ++ second) = .error fault) ∧
      (∀ first second verdicts more, parse first = .ok verdicts → parse second = .ok more →
        parse (first ++ "\n" ++ second) = .ok (verdicts ++ more)) ∧
      (∀ first second verdicts number text, parse first = .ok verdicts →
        parse second = .error ⟨number, text⟩ →
          parse (first ++ "\n" ++ second) =
            .error ⟨number + 1 + first.toList.count '\n', text⟩) ∧
      (∀ text fault, parse text = .error fault ↔ ∃ before line after, IsLine text before line after ∧
        (∃ verdicts, parse before = .ok verdicts) ∧ parse line = .error ⟨1, fault.text⟩ ∧
        fault.line = before.toList.count '\n' + 1) ∧
      (∀ before space after, Inline space →
        (before = "" ∨ ∃ earlier, before = earlier ++ "\n") ∨ after = "" ∨
          (∃ later, after = "\n" ++ later) →
        parse (before ++ space ++ after) = parse (before ++ after)) ∧
      ∀ first second, parse (first ++ "\r\n" ++ second) = parse (first ++ "\n" ++ second) := by
  refine ⟨fun line free => ?_, fun _ _ => rfl, fun first second fault failed =>
    parse_append_of_error failed second, fun first second verdicts more => parse_append_of_ok, ?_,
    fun text fault => parse_eq_error_iff, fun before space after => parse_append_blank_append, ?_⟩
  · have trimmed : IsCore (String.ofList (Text.trim line.toList)).toList line.toList := by
      rw [String.toList_ofList]
      exact isCore_trim _
    refine ⟨_, fun other => ?_, ?_, parse_line free trimmed⟩
    · rw [← trim_eq_iff, ← String.toList_inj, String.toList_ofList, eq_comm]
    · rw [← isCore_nil_iff, ← trim_eq_iff, ← String.toList_inj, String.toList_ofList]
      rfl
  · intro first second verdicts number text read failed
    have further : number + (newlines first + 1) = number + 1 + newlines first := by omega
    rw [parse_append_of_later_error read failed, Fault.shift, further]
    rfl
  · intro first second
    have inline : Inline "\r" := ⟨List.all_eq_true.mp (by decide), by decide⟩
    have ending : "\r\n" = "\r" ++ "\n" := rfl
    have dropped : parse (first ++ "\r" ++ ("\n" ++ second)) = parse (first ++ ("\n" ++ second)) :=
      parse_append_blank_append inline (Or.inr (Or.inr ⟨second, rfl⟩))
    rw [ending, ← String.append_assoc, String.append_assoc, dropped, ← String.append_assoc]

/-- The third line holds the second verdict, in spite of a carriage return, a blank line and white
space. The fourth one is wrong. -/
theorem parse_line_by_line_fourth :
    parse "YES\r\n\n NO " = .ok [true, false] ∧
      parse "YES\r\n\n NO \nyes" = .error ⟨4, "yes"⟩ ∧
      (⟨4, "yes"⟩ : Fault).message = "Line 4 : expected \"YES\" or \"NO\", got \"yes\"." := by
  obtain ⟨single, messages, _, verdicts, faults, _, _, returns⟩ := parse_line_by_line
  have read (line core : String) (free : '\n' ∉ line.toList)
      (trimmed : Text.trim line.toList = core.toList) :
      parse line = if core = "" then .ok [] else if core = "YES" then .ok [true]
        else if core = "NO" then .ok [false] else .error ⟨1, core⟩ := by
    obtain ⟨found, unique, _, reading⟩ := single line free
    rw [(unique core).mp (trim_eq_iff.mp trimmed)]
    exact reading
  have yes : parse "YES" = .ok [true] := read "YES" "YES" (by decide) (by decide)
  have blank : parse "" = .ok [] := read "" "" (by decide) (by decide)
  have no : parse " NO " = .ok [false] := read " NO " "NO" (by decide) (by decide)
  have lower : parse "yes" = .error ⟨1, "yes"⟩ := read "yes" "yes" (by decide) (by decide)
  have two : parse ("YES" ++ "\r\n" ++ "") = .ok [true] := by
    rw [returns]
    exact verdicts "YES" "" [true] [] yes blank
  have three : parse ("YES" ++ "\r\n" ++ "" ++ "\n" ++ " NO ") = .ok [true, false] :=
    verdicts ("YES" ++ "\r\n" ++ "") " NO " [true] [false] two no
  have four := faults ("YES" ++ "\r\n" ++ "" ++ "\n" ++ " NO ") "yes" [true, false] 1 "yes" three lower
  have text : "YES" ++ "\r\n" ++ "" ++ "\n" ++ " NO " = "YES\r\n\n NO " := by decide
  have count : "YES\r\n\n NO ".toList.count '\n' = 2 := by decide
  rw [text] at three four
  rw [count] at four
  exact ⟨three, four, messages 4 "yes"⟩

end PatternNfa.Verdicts
