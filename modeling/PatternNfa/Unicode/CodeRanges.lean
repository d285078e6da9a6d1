/-
**Sets of code points as sorted ranges.**

A Unicode property is a set of code points, and its table lists the set as inclusive ranges in
ascending order. A table comes with a proof that its ranges ascend, so that a code point can be looked
up by halving the table.

* `pairwise_of_ascendFrom`: in an ascending table every range ends before the later ones begin;
* `contains_iff`: the code points that are found are those in the listed ranges.
-/

namespace PatternNfa.Unicode

/-- Do the ranges ascend, from `least` on? None may be empty, and each must begin after the end of the
one before it. -/
def ascendFrom (least : Nat) : List (Nat × Nat) → Bool
  | [] => true
  | range :: ranges =>
    decide (least ≤ range.1) && decide (range.1 ≤ range.2) && ascendFrom (range.2 + 1) ranges

/-- Inclusive ranges of code points in ascending order, each written `(first, last)`. -/
structure CodeRanges where
  ranges : Array (Nat × Nat)
  ascending : ascendFrom 0 ranges.toList = true

/-- Ascending ranges begin at the least number or later, and none is empty. -/
theorem le_of_ascendFrom {least : Nat} {ranges : List (Nat × Nat)}
    (ascending : ascendFrom least ranges = true) {range : Nat × Nat} (listed : range ∈ ranges) :
    least ≤ range.1 ∧ range.1 ≤ range.2 := by
  induction ranges generalizing least with
  | nil => cases listed
  | cons first ranges ih =>
    simp only [ascendFrom, Bool.and_eq_true, decide_eq_true_eq] at ascending
    obtain ⟨⟨above, nonempty⟩, rest⟩ := ascending
    rcases List.mem_cons.mp listed with rfl | later
    · exact ⟨above, nonempty⟩
    · have after := ih rest later
      omega

/-- **Every range ends before the later ones begin.** -/
theorem pairwise_of_ascendFrom {least : Nat} {ranges : List (Nat × Nat)}
    (ascending : ascendFrom least ranges = true) :
    ranges.Pairwise fun before after => before.2 < after.1 := by
  induction ranges generalizing least with
  | nil => exact .nil
  | cons first ranges ih =>
    simp only [ascendFrom, Bool.and_eq_true] at ascending
    exact .cons (fun later listed => (le_of_ascendFrom ascending.2 listed).1) (ih ascending.2)

namespace CodeRanges

variable {table : CodeRanges} {code : Nat}

theorem first_le_last (table : CodeRanges) {place : Nat} (inside : place < table.ranges.size) :
    table.ranges[place].1 ≤ table.ranges[place].2 :=
  (le_of_ascendFrom table.ascending (Array.getElem_mem_toList inside)).2

theorem last_lt_first (table : CodeRanges) {before after : Nat} (inside : after < table.ranges.size)
    (earlier : before < after) : table.ranges[before].2 < table.ranges[after].1 := by
  have apart := List.pairwise_iff_getElem.mp (pairwise_of_ascendFrom table.ascending)
  exact apart before after (by simpa using Nat.lt_trans earlier inside) (by simpa using inside) earlier

/-- Looks for a range that holds `code` among those numbered from `low` up to, without, `high`. -/
def search (table : CodeRanges) (code low high : Nat) (inside : high ≤ table.ranges.size) : Bool :=
  if nonempty : low < high then
    let middle := (low + high) / 2
    let range := table.ranges[middle]
    if code < range.1 then
      table.search code low middle (by omega)
    else if range.2 < code then
      table.search code (middle + 1) high inside
    else
      true
  else
    false
termination_by high - low

/-- Is `code` in one of the ranges? -/
def contains (table : CodeRanges) (code : Nat) : Bool :=
  table.search code 0 table.ranges.size (Nat.le_refl _)

/-- Does one of the ranges hold the code point? -/
def Lists (table : CodeRanges) (code : Nat) : Prop :=
  ∃ range ∈ table.ranges, range.1 ≤ code ∧ code ≤ range.2

theorem search_sound {low high : Nat} {inside : high ≤ table.ranges.size}
    (found : table.search code low high inside = true) : table.Lists code := by
  fun_induction table.search code low high inside with
  | case1 low high inside nonempty middle range below ih => exact ih found
  | case2 low high inside nonempty middle range notBelow above ih => exact ih found
  | case3 low high inside nonempty middle range notBelow notAbove =>
    exact ⟨range, Array.getElem_mem _, Nat.le_of_not_lt notBelow, Nat.le_of_not_lt notAbove⟩
  | case4 => cases found

theorem search_complete {low high : Nat} {inside : high ≤ table.ranges.size} {place : Nat}
    (fromLow : low ≤ place) (belowHigh : place < high) (first : table.ranges[place].1 ≤ code)
    (last : code ≤ table.ranges[place].2) : table.search code low high inside = true := by
  fun_induction table.search code low high inside with
  | case1 low high inside nonempty middle range below ih =>
    refine ih fromLow ?_ first last
    rcases Nat.lt_trichotomy place middle with before | same | after
    · exact before
    · subst same
      exact absurd below (Nat.not_lt_of_le first)
    · have apart := table.last_lt_first (by omega) after
      have whole := table.first_le_last (by omega : middle < table.ranges.size)
      have listed : code < table.ranges[middle].1 := below
      omega
  | case2 low high inside nonempty middle range notBelow above ih =>
    refine ih ?_ belowHigh first last
    rcases Nat.lt_trichotomy place middle with before | same | after
    · have apart := table.last_lt_first (by omega) before
      have whole := table.first_le_last (by omega : middle < table.ranges.size)
      have listed : table.ranges[middle].2 < code := above
      omega
    · subst same
      exact absurd above (Nat.not_lt_of_le last)
    · exact after
  | case3 => rfl
  | case4 low high inside empty => omega

/-- **The code points that are found** are those in the listed ranges. -/
theorem contains_iff : table.contains code = true ↔ table.Lists code := by
  constructor
  · exact search_sound
  · rintro ⟨range, listed, first, last⟩
    obtain ⟨place, inside, rfl⟩ := Array.mem_iff_getElem.mp listed
    exact search_complete (Nat.zero_le _) inside first last

end CodeRanges

end PatternNfa.Unicode
