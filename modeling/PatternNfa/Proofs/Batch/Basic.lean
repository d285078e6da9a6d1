/-
**What the text of a batch says.**

A text is read as a batch if it has a word for the pattern, a word that is a count, and at least as
many words after these as the count says. The candidates are the first of them.

* `Fault.worded_iff`: what is said about a text that is no batch;
* `parse_eq_ok_iff`: which texts are batches, and of what.
-/

import PatternNfa.Batch.Basic

namespace PatternNfa

/-! ### What is said about faults -/

/-- **The words for what is wrong with a count.** -/
inductive Count.Fault.Worded : Count.Fault → String → Prop
  | invalidDigit : Worded .invalidDigit "invalid digit found in string"
  | tooLarge : Worded .tooLarge "number too large to fit in target type"

theorem Count.Fault.worded_iff {fault : Count.Fault} {text : String} :
    fault.Worded text ↔ fault.message = text := by
  constructor
  · rintro (_ | _) <;> rfl
  · rintro rfl
    cases fault
    · exact .invalidDigit
    · exact .tooLarge

namespace Batch

/-- **The words for what is wrong with a batch.** -/
inductive Fault.Worded : Fault → String → Prop
  | missingPattern : Worded .missingPattern "Expected a pattern."
  | missingCount : Worded .missingCount "Expected the number of candidates."
  | badCount {word : String} {fault : Count.Fault} {text : String} : fault.Worded text →
      Worded (.badCount word fault) ("Bad number of candidates \"" ++ word ++ "\" : " ++ text)
  | missingCandidates {expected found : Nat} : Worded (.missingCandidates expected found)
      ("Expected " ++ toString expected ++ " candidates, found " ++ toString found ++ ".")

/-- **Every fault is told by its words.** -/
theorem Fault.worded_iff {fault : Fault} {text : String} :
    fault.Worded text ↔ fault.message = text := by
  constructor
  · intro worded
    cases worded with
    | missingPattern => rfl
    | missingCount => rfl
    | badCount worded =>
      obtain rfl := Count.Fault.worded_iff.mp worded
      rfl
    | missingCandidates => rfl
  · rintro rfl
    cases fault with
    | missingPattern => exact .missingPattern
    | missingCount => exact .missingCount
    | badCount word fault => exact .badCount (Count.Fault.worded_iff.mpr rfl)
    | missingCandidates expected found => exact .missingCandidates

/-! ### Reading from the words -/

/-- After a count there must be as many words. -/
theorem ofWords_of_count {pattern word : String} {words : List String} {count : Nat}
    (counted : Count.parse word.toList = .ok count) :
    ofWords (pattern :: word :: words) =
      if count ≤ words.length then .ok ⟨pattern, words.take count⟩
      else .error (.missingCandidates count words.length) := by
  by_cases enough : count ≤ words.length
  · simp [ofWords, counted, enough]
  · have found : min count words.length = words.length :=
      Nat.min_eq_right (Nat.le_of_lt (Nat.lt_of_not_le enough))
    have fewer : words.length ≠ count := fun same => enough (Nat.le_of_eq same.symm)
    simp [ofWords, counted, enough, found, fewer]

/-- **A text is a batch** if its second word is a count and that many words or more follow. -/
theorem parse_eq_ok_iff {text : String} {batch : Batch} :
    parse text = .ok batch ↔
      ∃ pattern word words count, Text.words text.toList = pattern :: word :: words ∧
        Count.parse word = .ok count ∧ count ≤ words.length ∧
        batch = ⟨String.ofList pattern, (words.take count).map String.ofList⟩ := by
  constructor
  · intro read
    unfold parse at read
    rcases listed : Text.words text.toList with _ | ⟨pattern, _ | ⟨word, words⟩⟩
    · rw [listed] at read
      cases read
    · rw [listed] at read
      cases read
    · rw [listed, List.map_cons, List.map_cons] at read
      cases counted : Count.parse word with
      | error fault => simp [ofWords, counted] at read
      | ok count =>
        rw [ofWords_of_count (by rw [String.toList_ofList, counted]), List.length_map] at read
        by_cases enough : count ≤ words.length
        · rw [if_pos enough] at read
          cases read
          exact ⟨pattern, word, words, count, rfl, counted, enough, by rw [List.map_take]⟩
        · rw [if_neg enough] at read
          cases read
  · rintro ⟨pattern, word, words, count, listed, counted, enough, rfl⟩
    unfold parse
    rw [listed, List.map_cons, List.map_cons,
      ofWords_of_count (by rw [String.toList_ofList, counted]), List.length_map, if_pos enough,
      List.map_take]

/-- The second word is the number of candidates. -/
theorem count_of_parse {text : String} {batch : Batch} (read : parse text = .ok batch) :
    ∃ word, (Text.words text.toList)[1]? = some word ∧
      Count.parse word = .ok batch.candidates.length := by
  obtain ⟨pattern, word, words, count, listed, counted, enough, rfl⟩ := parse_eq_ok_iff.mp read
  refine ⟨word, by rw [listed]; rfl, counted.trans ?_⟩
  simp [enough]

end Batch

end PatternNfa
