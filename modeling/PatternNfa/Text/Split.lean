/-
**Cutting a text at separators.**

`splitWhere` cuts a list at every separator and keeps the empty fields, so there is one more field
than there are separators. Words are the nonempty fields between white space, lines the fields
between newlines.

* `splitWhere_cons_separator`, `splitWhere_cons`: a separator opens a field, any other item joins
  the first one;
* `flatten_fields`: the fields hold every item but the separators, in order;
* `not_separator_of_mem_fields`: no field holds a separator.
-/

import PatternNfa.Unicode.WhiteSpace

namespace PatternNfa.Text

open PatternNfa.Unicode

variable {α : Type}

/-- The first field, and the fields after each separator in turn. -/
def splitWhere (isSeparator : α → Bool) (items : List α) : List α × List (List α) :=
  items.foldr
    (fun item fields =>
      if isSeparator item then ([], fields.1 :: fields.2) else (item :: fields.1, fields.2))
    ([], [])

@[simp] theorem splitWhere_nil (isSeparator : α → Bool) :
    splitWhere isSeparator [] = ([], []) := rfl

theorem splitWhere_cons_separator {isSeparator : α → Bool} {item : α}
    (separates : isSeparator item = true) (items : List α) :
    splitWhere isSeparator (item :: items) =
      ([], (splitWhere isSeparator items).1 :: (splitWhere isSeparator items).2) := by
  simp [splitWhere, separates]

theorem splitWhere_cons {isSeparator : α → Bool} {item : α}
    (joins : isSeparator item = false) (items : List α) :
    splitWhere isSeparator (item :: items) =
      (item :: (splitWhere isSeparator items).1, (splitWhere isSeparator items).2) := by
  simp [splitWhere, joins]

/-- All the fields; there is always a first one. -/
def fields (isSeparator : α → Bool) (items : List α) : List (List α) :=
  (splitWhere isSeparator items).1 :: (splitWhere isSeparator items).2

/-- The fields hold every item but the separators, in order. -/
theorem flatten_fields (isSeparator : α → Bool) (items : List α) :
    (fields isSeparator items).flatten = items.filter (fun item => !isSeparator item) := by
  induction items with
  | nil => rfl
  | cons item items ih =>
    cases separates : isSeparator item with
    | true => simpa [fields, splitWhere_cons_separator separates, separates] using ih
    | false => simpa [fields, splitWhere_cons separates, separates] using ih

/-- No field holds a separator. -/
theorem not_separator_of_mem_fields {isSeparator : α → Bool} {items field : List α} {item : α}
    (listed : field ∈ fields isSeparator items) (inside : item ∈ field) :
    isSeparator item = false := by
  have kept : item ∈ (fields isSeparator items).flatten :=
    List.mem_flatten.mpr ⟨field, listed, inside⟩
  rw [flatten_fields] at kept
  simpa using (List.mem_filter.mp kept).2

/-- The maximal runs of characters that are not white space. -/
def words (text : List Char) : List (List Char) :=
  (fields isWhiteSpace text).filter (fun word => !word.isEmpty)

/-- The lines of a text, without their newlines. -/
def lines (text : List Char) : List (List Char) :=
  fields (· == '\n') text

/-- The text without the white space around it. -/
def trim (text : List Char) : List Char :=
  ((text.dropWhile isWhiteSpace).reverse.dropWhile isWhiteSpace).reverse

end PatternNfa.Text
