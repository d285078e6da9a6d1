/-
**White space around a text.**

Every text has one core, with nothing but white space before it and after it. The core neither begins
nor ends with white space, and it is empty if there is nothing but white space. Trimming a text leaves
its core, so more white space at either end makes no difference to what is left.

* `IsCore`: the core of a text;
* `isCore_trim`, `trim_eq_iff`: the core is what trimming leaves;
* `IsCore.blank_append`, `IsCore.append_blank`: more white space around a text.
-/

import Mathlib.Data.List.TakeWhile
import PatternNfa.Proofs.Text.Words

namespace PatternNfa.Text

open PatternNfa.Unicode

/-- No white space at the beginning and none at the end. -/
def Bare (text : List Char) : Prop :=
  (∀ c ∈ text.head?, isWhiteSpace c = false) ∧ ∀ c ∈ text.getLast?, isWhiteSpace c = false

/-- **The core of a text**: what stands between the white space at its beginning and that at its
end. -/
structure IsCore (core text : List Char) : Prop where
  bare : Bare core
  around : ∃ before after, Blank before ∧ Blank after ∧ before ++ (core ++ after) = text

variable {core text gap : List Char}

theorem Blank.append {more : List Char} (blank : Blank gap) (moreBlank : Blank more) :
    Blank (gap ++ more) :=
  List.forall_mem_append.mpr ⟨blank, moreBlank⟩

theorem Blank.reverse (blank : Blank gap) : Blank gap.reverse :=
  fun c inside => blank c (List.mem_reverse.mp inside)

/-! ### Trimming leaves the core -/

/-- White space is dropped, and no more than that. -/
theorem dropWhile_blank_append (blank : Blank gap)
    (joins : ∀ c ∈ text.head?, isWhiteSpace c = false) :
    (gap ++ text).dropWhile isWhiteSpace = text := by
  rw [List.dropWhile_append_of_pos blank]
  cases text with
  | nil => rfl
  | cons c text => rw [List.dropWhile_cons, joins c rfl, if_neg Bool.false_ne_true]

theorem trim_of_blank (blank : Blank text) : trim text = [] := by
  rw [trim, List.dropWhile_eq_nil_iff.mpr blank]
  rfl

theorem IsCore.trim_eq (isCore : IsCore core text) : trim text = core := by
  obtain ⟨before, after, blankBefore, blankAfter, rfl⟩ := isCore.around
  cases core with
  | nil => exact trim_of_blank (blankBefore.append blankAfter)
  | cons first rest =>
    have begins : ∀ c ∈ (first :: rest ++ after).head?, isWhiteSpace c = false := isCore.bare.1
    have ends : ∀ c ∈ (first :: rest).reverse.head?, isWhiteSpace c = false := by
      rw [List.head?_reverse]
      exact isCore.bare.2
    rw [trim, dropWhile_blank_append blankBefore begins, List.reverse_append,
      dropWhile_blank_append blankAfter.reverse ends, List.reverse_reverse]

/-! ### Every text has a core -/

/-- A text is some white space, and then a text that does not begin with any. -/
theorem exists_blank_append_dropWhile (text : List Char) :
    (∃ gap, Blank gap ∧ gap ++ text.dropWhile isWhiteSpace = text) ∧
      ∀ c ∈ (text.dropWhile isWhiteSpace).head?, isWhiteSpace c = false := by
  refine ⟨⟨text.takeWhile isWhiteSpace, fun c inside => List.mem_takeWhile_imp inside,
    List.takeWhile_append_dropWhile⟩, fun c first => ?_⟩
  have stops := List.head?_dropWhile_not isWhiteSpace text
  rw [Option.mem_def.mp first] at stops
  exact stops

/-- **Trimming leaves the core.** -/
theorem isCore_trim (text : List Char) : IsCore (trim text) text := by
  obtain ⟨⟨before, blankBefore, cut⟩, begins⟩ := exists_blank_append_dropWhile text
  obtain ⟨⟨after, blankAfter, rest⟩, ends⟩ :=
    exists_blank_append_dropWhile (text.dropWhile isWhiteSpace).reverse
  have split : trim text ++ after.reverse = text.dropWhile isWhiteSpace := by
    rw [trim, ← List.reverse_append, rest, List.reverse_reverse]
  refine ⟨⟨fun c first => begins c ?_, fun c last => ends c ?_⟩, before, after.reverse, blankBefore,
    blankAfter.reverse, ?_⟩
  · rw [← split, List.head?_append, Option.mem_def.mp first]
    rfl
  · rwa [trim, List.getLast?_reverse] at last
  · rw [split, cut]

/-- **The core of a text is what trimming leaves**, so there is one and only one. -/
theorem trim_eq_iff : trim text = core ↔ IsCore core text := by
  constructor
  · rintro rfl
    exact isCore_trim text
  · exact IsCore.trim_eq

/-- Only white space has an empty core. -/
theorem isCore_nil_iff : IsCore [] text ↔ Blank text := by
  constructor
  · intro isCore
    obtain ⟨before, after, blankBefore, blankAfter, rfl⟩ := isCore.around
    exact blankBefore.append blankAfter
  · intro blank
    exact trim_eq_iff.mp (trim_of_blank blank)

/-! ### More white space around a text -/

theorem IsCore.blank_append (isCore : IsCore core text) (blank : Blank gap) :
    IsCore core (gap ++ text) := by
  obtain ⟨before, after, blankBefore, blankAfter, rfl⟩ := isCore.around
  refine ⟨isCore.bare, gap ++ before, after, blank.append blankBefore, blankAfter, ?_⟩
  rw [List.append_assoc]

theorem IsCore.append_blank (isCore : IsCore core text) (blank : Blank gap) :
    IsCore core (text ++ gap) := by
  obtain ⟨before, after, blankBefore, blankAfter, rfl⟩ := isCore.around
  refine ⟨isCore.bare, before, after ++ gap, blankBefore, blankAfter.append blank, ?_⟩
  simp only [List.append_assoc]

end PatternNfa.Text
