/-
**Words and the text they come from.**

A text is laid out from words if it writes them in their order, with white space between any two of
them and, maybe, before the first and after the last. Every text is laid out from the words that are
read in it, and from no others, so how much white space there is and of which kind makes no difference
to the words.

* `LaidOut`: texts laid out from words;
* `laidOut_lines`: words on lines of their own are laid out;
* `words_eq_iff_laidOut`: the words of a text are those from which it is laid out.
-/

import PatternNfa.Proofs.Text.Fields

namespace PatternNfa.Text

open PatternNfa.Unicode

/-- Nothing but white space. -/
def Blank (text : List Char) : Prop :=
  ∀ c ∈ text, isWhiteSpace c = true

/-- One word: at least one character, and none that is white space. -/
def IsWord (text : List Char) : Prop :=
  text ≠ [] ∧ ∀ c ∈ text, isWhiteSpace c = false

/-- White space comes next, or the end of the text. -/
def Parted (text : List Char) : Prop :=
  ∀ c ∈ text.head?, isWhiteSpace c = true

/-- **A text laid out from words.** There may be white space before each word, and right after it comes
white space or the end. -/
inductive LaidOut : List (List Char) → List Char → Prop
  | blank {gap : List Char} : Blank gap → LaidOut [] gap
  | word {gap word rest : List Char} {words : List (List Char)} : Blank gap → IsWord word →
      Parted rest → LaidOut words rest → LaidOut (word :: words) (gap ++ (word ++ rest))

variable {gap word text : List Char} {listed : List (List Char)} {c : Char}

theorem Blank.cons (white : isWhiteSpace c = true) (blank : Blank gap) : Blank (c :: gap) :=
  List.forall_mem_cons.mpr ⟨white, blank⟩

theorem Blank.parted (blank : Blank gap) : Parted gap :=
  fun _ first => blank _ (List.mem_of_mem_head? first)

/-! ### Reading what is laid out -/

/-- White space before a text adds no word. -/
theorem words_blank_append (blank : Blank gap) (text : List Char) :
    words (gap ++ text) = words text := by
  induction gap with
  | nil => rfl
  | cons c gap ih =>
    have white := blank c List.mem_cons_self
    rw [← ih fun later inside => blank later (List.mem_cons_of_mem c inside)]
    rw [words, List.cons_append, fields, splitWhere_cons_separator white]
    rfl

/-- A word ends where white space or the end of the text comes next. -/
theorem words_append_of_parted (isWord : IsWord word) (parted : Parted text) :
    words (word ++ text) = word :: words text := by
  have nonempty : word.isEmpty = false := List.isEmpty_eq_false_iff.mpr isWord.1
  rw [words, fields, splitWhere_append_of_joins isWord.2]
  cases text with
  | nil => simp [words, fields, nonempty]
  | cons c text =>
    have white := parted c rfl
    simp [words, fields, splitWhere_cons_separator white, nonempty]

/-- The words that are read are those that were laid out. -/
theorem LaidOut.words_eq (laid : LaidOut listed text) : words text = listed := by
  induction laid with
  | @blank gap blank =>
    rw [← List.append_nil gap, words_blank_append blank]
    rfl
  | word blank isWord parted _ ih =>
    rw [words_blank_append blank, words_append_of_parted isWord parted, ih]

/-! ### Every text is laid out -/

/-- More white space before a text leaves its words as they are. -/
theorem LaidOut.cons_white (white : isWhiteSpace c = true) (laid : LaidOut listed text) :
    LaidOut listed (c :: text) := by
  cases laid with
  | blank blank => exact .blank (blank.cons white)
  | @word gap word rest words blank isWord parted laid =>
    rw [← List.cons_append]
    exact .word (blank.cons white) isWord parted laid

/-- Any other character before a text begins a word, or joins the first one if that is next to it. -/
theorem LaidOut.exists_cons (joins : isWhiteSpace c = false) (laid : LaidOut listed text) :
    ∃ words, LaidOut words (c :: text) := by
  have alone : IsWord [c] := by
    refine ⟨List.cons_ne_nil c [], fun only inside => ?_⟩
    rw [List.mem_singleton.mp inside]
    exact joins
  have nothing : Blank [] := fun _ inside => by cases inside
  have beginning {words : List (List Char)} (laid : LaidOut words text) (parted : Parted text) :
      ∃ words, LaidOut words (c :: text) := ⟨_, .word nothing alone parted laid⟩
  cases laid with
  | blank blank => exact beginning (.blank blank) blank.parted
  | @word gap word rest words blank isWord parted laid =>
    cases gap with
    | nil =>
      have longer : IsWord (c :: word) :=
        ⟨List.cons_ne_nil c word, List.forall_mem_cons.mpr ⟨joins, isWord.2⟩⟩
      exact ⟨_, .word nothing longer parted laid⟩
    | cons first gap =>
      refine beginning (.word blank isWord parted laid) fun next isFirst => ?_
      exact blank next (List.mem_of_mem_head? isFirst)

theorem exists_laidOut (text : List Char) : ∃ words, LaidOut words text := by
  induction text with
  | nil => exact ⟨[], .blank fun _ inside => by cases inside⟩
  | cons c text ih =>
    obtain ⟨words, laid⟩ := ih
    cases white : isWhiteSpace c with
    | true => exact ⟨words, laid.cons_white white⟩
    | false => exact laid.exists_cons white

/-! ### One word on each line -/

theorem isWhiteSpace_of_isDigit (digit : c.isDigit = true) : isWhiteSpace c = false := by
  have bounds : 48 ≤ c.toNat ∧ c.toNat ≤ 57 := Char.isDigit_iff_toNat.mp digit
  simp only [isWhiteSpace, whiteSpaceRanges, List.any_cons, List.any_nil, Bool.or_false,
    Bool.or_eq_false_iff, Bool.and_eq_false_iff, decide_eq_false_iff_not]
  omega

/-- A decimal number is a word. -/
theorem isWord_toString (n : Nat) : IsWord (toString n).toList := by
  have digits : (toString n).toList = Nat.toDigits 10 n := Nat.toList_repr
  rw [digits]
  refine ⟨Nat.toDigits_ne_nil, fun c inside => isWhiteSpace_of_isDigit ?_⟩
  exact Nat.isDigit_of_mem_toDigits (by decide) (by decide) inside

/-- Words are laid out if each is on a line of its own. -/
theorem laidOut_lines (words : ∀ word ∈ listed, IsWord word) :
    LaidOut listed (listed.flatMap (· ++ ['\n'])) := by
  induction listed with
  | nil => exact .blank fun _ inside => by cases inside
  | cons word listed ih =>
    obtain ⟨isWord, others⟩ := List.forall_mem_cons.mp words
    have newline : isWhiteSpace '\n' = true := by decide
    have rest := (ih others).cons_white newline
    have parted : Parted ('\n' :: listed.flatMap (· ++ ['\n'])) := by
      intro next isFirst
      cases isFirst
      exact newline
    have nothing : Blank [] := fun _ inside => by cases inside
    rw [List.flatMap_cons, List.append_assoc]
    exact .word nothing isWord parted rest

/-! ### What is read -/

/-- **The words of a text are those from which it is laid out.** -/
theorem words_eq_iff_laidOut : words text = listed ↔ LaidOut listed text := by
  constructor
  · rintro rfl
    obtain ⟨words, laid⟩ := exists_laidOut text
    rw [laid.words_eq]
    exact laid
  · exact LaidOut.words_eq

end PatternNfa.Text
