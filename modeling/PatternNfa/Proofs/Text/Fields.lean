/-
**Fields and the text they come from.**

Cutting a text at one separator and writing the fields with that separator between them undo each
other, as long as no field holds the separator.

* `splitWhere_eq_iff`: the fields of a text are the one way to write it;
* `eq_of_fields_eq`: what is written before a field and after it;
* `mem_fields_iff`: the fields are the maximal stretches without separators.
-/

import PatternNfa.Text.Split

namespace PatternNfa.Text

variable {α : Type} [DecidableEq α] {separator : α} {first items field : List α}
  {rest : List (List α)}

theorem splitWhere_self_cons (separator : α) (items : List α) :
    splitWhere (· == separator) (separator :: items) =
      ([], (splitWhere (· == separator) items).1 :: (splitWhere (· == separator) items).2) := by
  simp [splitWhere]

theorem splitWhere_cons_of_ne {item : α} (joins : item ≠ separator) (items : List α) :
    splitWhere (· == separator) (item :: items) =
      (item :: (splitWhere (· == separator) items).1, (splitWhere (· == separator) items).2) := by
  simp [splitWhere, joins]

/-- The fields, with the separator between them, are the text. -/
theorem join_splitWhere (separator : α) (items : List α) :
    (splitWhere (· == separator) items).1 ++
      (splitWhere (· == separator) items).2.flatMap (separator :: ·) = items := by
  induction items with
  | nil => rfl
  | cons item items ih =>
    by_cases separates : item = separator
    · rw [separates, splitWhere_self_cons, List.nil_append, List.flatMap_cons, List.cons_append, ih]
    · rw [splitWhere_cons_of_ne separates, List.cons_append, ih]

/-- Items before the first separator go to the first field. -/
theorem splitWhere_append_of_joins {α : Type} {isSeparator : α → Bool} {first : List α}
    (joins : ∀ item ∈ first, isSeparator item = false) (items : List α) :
    splitWhere isSeparator (first ++ items) =
      (first ++ (splitWhere isSeparator items).1, (splitWhere isSeparator items).2) := by
  induction first with
  | nil => rfl
  | cons item first ih =>
    rw [List.cons_append, splitWhere_cons (joins item List.mem_cons_self),
      ih fun later inside => joins later (List.mem_cons_of_mem item inside), List.cons_append]

theorem splitWhere_append (free : separator ∉ first) (items : List α) :
    splitWhere (· == separator) (first ++ items) =
      (first ++ (splitWhere (· == separator) items).1, (splitWhere (· == separator) items).2) := by
  refine splitWhere_append_of_joins (fun item inside => ?_) items
  exact beq_eq_false_iff_ne.mpr fun same => free (same ▸ inside)

/-- A text that begins with a separator has an empty first field. -/
theorem splitWhere_flatMap (free : ∀ field ∈ rest, separator ∉ field) :
    splitWhere (· == separator) (rest.flatMap (separator :: ·)) = ([], rest) := by
  induction rest with
  | nil => rfl
  | cons field rest ih =>
    rw [List.flatMap_cons, List.cons_append, splitWhere_self_cons,
      splitWhere_append (free field List.mem_cons_self),
      ih fun later listed => free later (List.mem_cons_of_mem field listed), List.append_nil]

/-- **The fields of a text are the one way to write it** with separators between fields that hold
none. -/
theorem splitWhere_eq_iff :
    splitWhere (· == separator) items = (first, rest) ↔
      first ++ rest.flatMap (separator :: ·) = items ∧ ∀ field ∈ first :: rest, separator ∉ field := by
  constructor
  · intro cut
    have joined := join_splitWhere separator items
    rw [cut] at joined
    refine ⟨joined, fun field listed inside => ?_⟩
    have fieldsEq : fields (· == separator) items = first :: rest := by rw [fields, cut]
    have joins := not_separator_of_mem_fields (fieldsEq ▸ listed) inside
    rw [beq_self_eq_true] at joins
    cases joins
  · rintro ⟨rfl, free⟩
    rw [splitWhere_append (free first List.mem_cons_self),
      splitWhere_flatMap fun field listed => free field (List.mem_cons_of_mem first listed),
      List.append_nil]

/-- It makes no difference whether the separators are written after the fields before a given one or
before those that follow. -/
theorem append_flatMap_eq {α : Type} {separator : α} {first field : List α}
    {rest before after : List (List α)} (listed : first :: rest = before ++ field :: after) :
    first ++ rest.flatMap (separator :: ·) =
      before.flatMap (· ++ [separator]) ++ field ++ after.flatMap (separator :: ·) := by
  induction before generalizing first rest with
  | nil =>
    obtain ⟨rfl, rfl⟩ := List.cons.inj listed
    rfl
  | cons earlier before ih =>
    obtain ⟨rfl, rfl⟩ := List.cons.inj listed
    obtain ⟨next, later, tail⟩ := List.exists_cons_of_ne_nil
      (List.append_ne_nil_of_right_ne_nil before (List.cons_ne_nil field after))
    have joined := ih tail.symm
    show first ++ (before ++ field :: after).flatMap (separator :: ·) = _
    rw [tail, List.flatMap_cons, List.cons_append, joined]
    simp

/-- **The text around a field** is written by the fields before it and after it. -/
theorem eq_of_fields_eq {before after : List (List α)}
    (cut : fields (· == separator) items = before ++ field :: after) :
    items = before.flatMap (· ++ [separator]) ++ field ++ after.flatMap (separator :: ·) :=
  (join_splitWhere separator items).symm.trans (append_flatMap_eq cut)

/-- All the fields are empty if there is nothing but separators. -/
theorem forall_fields_eq_nil_iff :
    (∀ field ∈ fields (· == separator) items, field = []) ↔ ∀ item ∈ items, item = separator := by
  rw [← List.flatten_eq_nil_iff, flatten_fields, List.filter_eq_nil_iff]
  simp

/-- **A maximal stretch without separators**: on both sides of it is a separator or an end. -/
def IsField (separator : α) (items field : List α) : Prop :=
  separator ∉ field ∧ ∃ before after, before ++ field ++ after = items ∧
    (before = [] ∨ before.getLast? = some separator) ∧
    (after = [] ∨ after.head? = some separator)

/-- A text without separators is its only field. -/
theorem fields_of_not_mem (free : separator ∉ items) : fields (· == separator) items = [items] := by
  have cut := splitWhere_append free []
  rw [List.append_nil] at cut
  rw [fields, cut]
  simp

/-- A separator parts the fields before it from those after it. -/
theorem fields_append_cons (separator : α) (before after : List α) :
    fields (· == separator) (before ++ separator :: after) =
      fields (· == separator) before ++ fields (· == separator) after := by
  induction before with
  | nil =>
    rw [List.nil_append, fields, splitWhere_self_cons]
    rfl
  | cons item before ih =>
    rw [List.cons_append]
    by_cases separates : item = separator
    · subst separates
      rw [fields, fields, splitWhere_self_cons, splitWhere_self_cons]
      exact congrArg (List.cons []) ih
    · rw [fields, fields, splitWhere_cons_of_ne separates, splitWhere_cons_of_ne separates]
      obtain ⟨heads, tails⟩ := List.cons.inj ih
      rw [heads, tails]
      rfl

/-- There is one field more than there are separators. -/
theorem length_fields (separator : α) (items : List α) :
    (fields (· == separator) items).length = items.count separator + 1 := by
  induction items with
  | nil => rfl
  | cons item items ih =>
    by_cases separates : item = separator
    · rw [separates, fields, splitWhere_self_cons, List.count_cons_self]
      exact congrArg (· + 1) ih
    · rw [fields, splitWhere_cons_of_ne separates, List.count_cons_of_ne separates]
      exact ih

/-- **The fields are the maximal stretches without separators.** -/
theorem mem_fields_iff : field ∈ fields (· == separator) items ↔ IsField separator items field := by
  constructor
  · intro listed
    have free : separator ∉ field := by
      intro inside
      simpa using not_separator_of_mem_fields listed inside
    have follows (later : List (List α)) : later.flatMap (separator :: ·) = [] ∨
        (later.flatMap (separator :: ·)).head? = some separator := by
      cases later with
      | nil => exact Or.inl rfl
      | cons => exact Or.inr rfl
    have joined := join_splitWhere separator items
    rcases List.mem_cons.mp listed with rfl | later
    · exact ⟨free, [], _, joined, Or.inl rfl, follows _⟩
    · obtain ⟨earlier, rest, cut⟩ := List.append_of_mem later
      have parts : (splitWhere (· == separator) items).1 ++ earlier.flatMap (separator :: ·) ++
          [separator] ++ field ++ rest.flatMap (separator :: ·) = items := by
        rw [cut] at joined
        simpa using joined
      exact ⟨free, _, _, parts, Or.inr List.getLast?_concat, follows rest⟩
  · rintro ⟨free, before, after, rfl, begins, ends⟩
    have stretch : field ∈ fields (· == separator) (field ++ after) := by
      rw [fields, splitWhere_append free]
      rcases ends with rfl | ends
      · simp
      · obtain ⟨rest, rfl⟩ := List.head?_eq_some_iff.mp ends
        simp [splitWhere_self_cons]
    rcases begins with rfl | begins
    · exact stretch
    · obtain ⟨earlier, rfl⟩ := List.getLast?_eq_some_iff.mp begins
      have parts : earlier ++ [separator] ++ field ++ after =
          earlier ++ separator :: (field ++ after) := by simp
      rw [parts, fields_append_cons]
      exact List.mem_append_right _ stretch

end PatternNfa.Text
