/-
**What an error tells about a text.**

The reason of an error and its place describe the text itself: which character stands there, and what
is around it. Apart from a missing star, an error is at a character of the text.

* `exists_union_of_unclosed`, `ne_of_nested`: what is around the parentheses of a faulty group;
* `compile_error_describes`: what each reason says about the text.
-/

import PatternNfa.Proofs.Pattern.Faults

namespace PatternNfa

open CompileError

/-! ### Characters by their places -/

section Places

variable {before stretch rest after : List Char} {i : Nat} {c : Char}

/-- The place of a character is the number of the characters before it. -/
theorem getElem?_length_append (before : List Char) (c : Char) (rest : List Char) :
    (before ++ c :: rest)[before.length]? = some c := by
  rw [List.getElem?_append_right (Nat.le_refl _), Nat.sub_self]
  rfl

/-- A character that is found in the middle stretch of a text belongs to that stretch. -/
theorem mem_of_getElem?_stretch (found : (before ++ (stretch ++ after))[i]? = some c)
    (begins : before.length ≤ i) (ends : i < before.length + stretch.length) : c ∈ stretch := by
  rw [List.getElem?_append_right begins, List.getElem?_append_left (by omega)] at found
  exact List.mem_of_getElem? found

/-- After a group that is never closed, a parenthesis comes only behind a `U`. -/
theorem exists_union_of_unclosed (plain : ∀ c ∈ rest, Pattern.isParenthesis c = false)
    (ended : after = [] ∨ after.head? = some 'U') (later : before.length < i)
    (parenthesis : c = '(' ∨ c = ')') (found : (before ++ '(' :: (rest ++ after))[i]? = some c) :
    ∃ j, before.length < j ∧ j < i ∧ (before ++ '(' :: (rest ++ after))[j]? = some 'U' := by
  have opened : before ++ '(' :: (rest ++ after) = (before ++ ['(']) ++ (rest ++ after) := by simp
  have isParenthesis : Pattern.isParenthesis c = true := by
    rcases parenthesis with rfl | rfl <;> rfl
  rw [opened] at found ⊢
  have beyond : (before ++ ['('] ++ rest).length ≤ i := by
    refine Nat.le_of_not_lt fun within => ?_
    rw [List.length_append] at within
    have inside := mem_of_getElem?_stretch found (by rwa [List.length_append]) within
    cases (plain c inside).symm.trans isParenthesis
  rw [← List.append_assoc] at found ⊢
  rcases ended with rfl | union
  · rw [List.append_nil, List.getElem?_eq_none beyond] at found
    cases found
  · obtain ⟨more, rfl⟩ := List.head?_eq_some_iff.mp union
    have stop := getElem?_length_append (before ++ ['('] ++ rest) 'U' more
    refine ⟨_, by simp, Nat.lt_of_le_of_ne beyond ?_, stop⟩
    rintro rfl
    rw [stop] at found
    cases found
    cases isParenthesis

/-- Between a group and the one that is nested in it are neither parentheses nor `U`s. -/
theorem ne_of_nested {body : List Char} (plain : ∀ c ∈ body, Pattern.isParenthesis c = false)
    (free : 'U' ∉ body) (begins : before.length < i) (ends : i < (before ++ '(' :: body).length)
    (found : (before ++ '(' :: body ++ rest)[i]? = some c) : c ≠ '(' ∧ c ≠ ')' ∧ c ≠ 'U' := by
  have opened : before ++ '(' :: body ++ rest = (before ++ ['(']) ++ (body ++ rest) := by simp
  have inside : c ∈ body := by
    rw [opened] at found
    refine mem_of_getElem?_stretch found (by rwa [List.length_append]) ?_
    simpa [Nat.add_assoc, Nat.add_comm 1] using ends
  have notParenthesis := plain c inside
  refine ⟨?_, ?_, ?_⟩
  · rintro rfl
    cases notParenthesis
  · rintro rfl
    cases notParenthesis
  · rintro rfl
    exact free inside

/-- Where no star follows a group, there is another character or the end of the text. -/
theorem eq_or_ne_of_unstarred (noStar : rest.head? ≠ some '*')
    (ended : after = [] ∨ after.head? = some 'U') :
    before.length = (before ++ (rest ++ after)).length ∨
      ∃ c, (before ++ (rest ++ after))[before.length]? = some c ∧ c ≠ '*' := by
  cases next : rest ++ after with
  | nil => exact Or.inl (by rw [List.append_nil])
  | cons c more =>
    refine Or.inr ⟨c, getElem?_length_append before c more, ?_⟩
    rintro rfl
    rcases List.append_eq_cons_iff.mp next with ⟨rfl, rfl⟩ | ⟨tail, rfl, _⟩
    · rcases ended with nothing | union
      · cases nothing
      · cases union
    · exact noStar rfl

end Places

/-! ### Reasons -/

theorem ofPatternChar?_eq_none_iff {c : Char} :
    CharClass.ofPatternChar? c = none ↔ c ≠ 'a' ∧ c ≠ 'd' := by
  unfold CharClass.ofPatternChar?
  split
  · rename_i letter
    simp [letter]
  · rename_i notLetter
    simp [notLetter]

namespace Piece.Fault

variable {good bad : List Char} {kind : Kind}

theorem of_unexpectedChar {c : Char} (fault : Piece.Fault good bad (.unexpectedChar c)) :
    ∃ rest, bad = c :: rest ∧ c ≠ '(' ∧ CharClass.ofPatternChar? c = none := by
  cases fault with
  | unexpected notOpening noClass => exact ⟨_, rfl, notOpening, noClass⟩
  | inside notOpening noClass => exact ⟨_, rfl, notOpening, noClass⟩

/-- Only a missing star is found behind a faulty piece. -/
theorem kind_of_nil (fault : Piece.Fault good [] kind) : kind = .missingStar := by
  cases fault
  rfl

end Piece.Fault

/-- **What an error tells about the text.** An unexpected character stands at the place of the error,
and no piece begins with it. A group that is never closed begins there, and no parenthesis comes
after it before the next `U`. A nested group begins there, with nothing but other characters between
it and the group that it is in. An empty group begins there and is closed at once. A star is missing
there, right after a closed group. Only a star can be missing after the last character. -/
theorem compile_error_describes {source : String} {error : CompileError}
    (failed : compile source = .error error) :
    (∀ c, error.kind = .unexpectedChar c →
        error.position < source.length ∧ source.toList[error.position]? = some c ∧
          c ≠ 'a' ∧ c ≠ 'd' ∧ c ≠ '(' ∧ c ≠ 'U') ∧
      (error.kind = .unclosedGroup →
        source.toList[error.position]? = some '(' ∧
          ∀ i c, error.position < i → c = '(' ∨ c = ')' → source.toList[i]? = some c →
            ∃ j, error.position < j ∧ j < i ∧ source.toList[j]? = some 'U') ∧
      (error.kind = .nestedGroup →
        source.toList[error.position]? = some '(' ∧
          ∃ m < error.position, source.toList[m]? = some '(' ∧
            ∀ i c, m < i → i < error.position → source.toList[i]? = some c →
              c ≠ '(' ∧ c ≠ ')' ∧ c ≠ 'U') ∧
      (error.kind = .emptyGroup →
        source.toList[error.position]? = some '(' ∧
          source.toList[error.position + 1]? = some ')') ∧
      (error.kind = .missingStar →
        3 ≤ error.position ∧ error.position ≤ source.length ∧
          source.toList[error.position - 1]? = some ')' ∧
            (error.position = source.length ∨
              ∃ c, source.toList[error.position]? = some c ∧ c ≠ '*')) ∧
      (error.position = source.length → error.kind = .missingStar) := by
  obtain ⟨earlier, pieces, good, bad, after, written, place, fault, free, ended⟩ :=
    exists_fault_of_compile_eq_error failed
  generalize Segment.textBefore earlier ++ pieces.text = front at written place
  have stands {c : Char} {rest : List Char} (begins : bad = c :: rest) :
      (front ++ good ++ (bad ++ after))[(front ++ good).length]? = some c := by
    rw [begins]
    exact getElem?_length_append _ c _
  rw [← String.length_toList, written, place]
  refine ⟨fun c kind => ?_, fun kind => ?_, fun kind => ?_, fun kind => ?_, fun kind => ?_,
    fun atEnd => ?_⟩
  · rw [kind] at fault
    obtain ⟨rest, rfl, notOpening, noClass⟩ := fault.of_unexpectedChar
    obtain ⟨notLetter, notDigit⟩ := ofPatternChar?_eq_none_iff.mp noClass
    have notUnion : c ≠ 'U' := by
      rintro rfl
      exact free (List.mem_append_right _ List.mem_cons_self)
    exact ⟨(List.getElem?_eq_some_iff.mp (stands rfl)).1, stands rfl, notLetter, notDigit, notOpening,
      notUnion⟩
  · rw [kind] at fault
    rcases fault with _ | ⟨plain⟩
    exact ⟨stands rfl, fun i c later parenthesis found =>
      exists_union_of_unclosed plain ended later parenthesis found⟩
  · rw [kind] at fault
    rcases fault with _ | _ | ⟨plain⟩
    rename_i body rest
    have bodyFree : 'U' ∉ body := fun inside =>
      free (List.mem_append_left _ (List.mem_cons_of_mem _ inside))
    refine ⟨stands rfl, front.length, by simp, ?_, fun i c begins ends found =>
      ne_of_nested plain bodyFree begins ends found⟩
    rw [List.append_assoc]
    exact getElem?_length_append front '(' _
  · rw [kind] at fault
    cases fault
    exact ⟨stands rfl, by simp⟩
  · rw [kind] at fault
    rcases fault with _ | _ | _ | _ | _ | ⟨noStar⟩
    rename_i first others
    refine ⟨?_, by simp, ?_, eq_or_ne_of_unstarred noStar ended⟩
    · simp [Literal.text]
      omega
    · generalize '(' :: (first :: others).flatMap Literal.text = body
      have closed : front ++ (body ++ [')']) ++ (bad ++ after) =
          front ++ body ++ ')' :: (bad ++ after) := by simp
      have last : (front ++ (body ++ [')'])).length - 1 = (front ++ body).length := by simp
      rw [closed, last]
      exact getElem?_length_append _ ')' _
  · have nothing : bad = [] := by
      have both : bad = [] ∧ after = [] := by simpa using atEnd
      exact both.1
    rw [nothing] at fault
    exact fault.kind_of_nil

/-- The group that begins at the second character is never closed: the parenthesis that would close it
is in the next alternative, behind a `U`. -/
theorem compile_error_describes_unclosed :
    compile "a(dU(a)*" = .error ⟨1, .unclosedGroup⟩ ∧
      ∃ j, 1 < j ∧ j < 4 ∧ "a(dU(a)*".toList[j]? = some 'U' := by
  have failed : compile "a(dU(a)*" = .error ⟨1, .unclosedGroup⟩ := by decide +kernel
  have unclosed := (compile_error_describes failed).2.1 rfl
  exact ⟨failed, unclosed.2 4 '(' (by decide) (Or.inl rfl) (by decide)⟩

end PatternNfa
