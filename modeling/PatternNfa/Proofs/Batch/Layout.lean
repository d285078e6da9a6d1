/-
**A batch in any layout.**

A text is read as a batch by its words, and by nothing else in it. The first word is the pattern and the
second the count; the candidates are as many of the others as the count says, and those after them do
not matter. What is wrong with a text that is no batch is the first thing that its words show. A batch
that is written with any white space between its words is read back.

* `FirstFault`: what is wrong with words that are no batch;
* `ofWords_eq_error_iff`, `mapError_parse_eq_error_iff`: this one is found, and what is said about it;
* `parse_of_words_take`, `parse_of_laidOut`, `parse_write`: what does not matter, and reading back;
* `parse_reads_words`: which texts are batches, and of what.
-/

import PatternNfa.Proofs.Batch.Basic
import PatternNfa.Proofs.Text.Count
import PatternNfa.Proofs.Text.Words

namespace PatternNfa.Batch

open PatternNfa.Text (IsWord LaidOut words_eq_iff_laidOut)

/-- **The first thing that is wrong** with words that are no batch. -/
inductive FirstFault : List (List Char) → Fault → Prop
  | missingPattern : FirstFault [] .missingPattern
  | missingCount {pattern : List Char} : FirstFault [pattern] .missingCount
  | badCount {pattern word : List Char} {words : List (List Char)} {fault : Count.Fault} :
      (∀ n, ¬Count.Denotes word n) → (fault = .tooLarge ↔ Count.Exceeds word) →
      FirstFault (pattern :: word :: words) (.badCount (.ofList word) fault)
  | missingCandidates {pattern word : List Char} {words : List (List Char)} {n : Nat} :
      Count.Denotes word n → words.length < n →
      FirstFault (pattern :: word :: words) (.missingCandidates n words.length)

variable {text other : String} {batch : Batch} {pattern word : List Char}
  {words more : List (List Char)} {n : Nat}

/-! ### Reading from the words -/

theorem parse_of_words (listed : Text.words text.toList = words) :
    parse text = ofWords (words.map .ofList) := by
  rw [parse, listed]

theorem ofWords_of_denotes (counted : Count.Denotes word n) :
    ofWords ((pattern :: word :: words).map .ofList) =
      if n ≤ words.length then .ok ⟨.ofList pattern, (words.take n).map .ofList⟩
      else .error (.missingCandidates n words.length) := by
  rw [List.map_cons, List.map_cons, ofWords_of_count
    (by rw [String.toList_ofList, Count.parse_eq_ok_iff_denotes]; exact counted),
    List.length_map, List.map_take]

theorem ofWords_of_bad_count {fault : Count.Fault} (spoiled : Count.parse word = .error fault) :
    ofWords ((pattern :: word :: words).map .ofList) = .error (.badCount (.ofList word) fault) := by
  simp [ofWords, spoiled]

/-- **The fault of the words that is found** is the first one. -/
theorem ofWords_eq_error_iff {fault : Fault} :
    ofWords (words.map .ofList) = .error fault ↔ FirstFault words fault := by
  constructor
  · intro read
    rcases words with _ | ⟨pattern, _ | ⟨word, words⟩⟩
    · cases read
      exact .missingPattern
    · cases read
      exact .missingCount
    · cases counted : Count.parse word with
      | error spoiled =>
        rw [ofWords_of_bad_count counted] at read
        cases read
        obtain ⟨none, large⟩ := Count.parse_eq_error_iff.mp counted
        exact .badCount none large
      | ok n =>
        have denotes := Count.parse_eq_ok_iff_denotes.mp counted
        rw [ofWords_of_denotes denotes] at read
        by_cases enough : n ≤ words.length
        · rw [if_pos enough] at read
          cases read
        · rw [if_neg enough] at read
          cases read
          exact .missingCandidates denotes (Nat.lt_of_not_le enough)
  · intro first
    cases first with
    | missingPattern => rfl
    | missingCount => rfl
    | badCount none large => exact ofWords_of_bad_count (Count.parse_eq_error_iff.mpr ⟨none, large⟩)
    | missingCandidates denotes fewer =>
      rw [ofWords_of_denotes denotes, if_neg (Nat.not_le_of_lt fewer)]

/-- **A text is a batch** if its second word denotes a count and that many words or more follow. -/
theorem parse_eq_ok_iff_denotes :
    parse text = .ok batch ↔
      ∃ pattern word words n, Text.words text.toList = pattern :: word :: words ∧
        Count.Denotes word n ∧ n ≤ words.length ∧
        batch = ⟨.ofList pattern, (words.take n).map .ofList⟩ := by
  simp only [parse_eq_ok_iff, Count.parse_eq_ok_iff_denotes]

/-- **What is said about a text that is no batch** are the words for the first thing that is wrong. -/
theorem mapError_parse_eq_error_iff {said : String} :
    (parse text).mapError Fault.message = .error said ↔
      ∃ fault, FirstFault (Text.words text.toList) fault ∧ fault.Worded said := by
  simp only [← ofWords_eq_error_iff, ← parse_of_words rfl, Fault.worded_iff]
  cases parse text <;> simp [Except.mapError]

/-! ### What does not matter -/

/-- Words after the last candidate do not matter: a text with other ones there, or with none, is read as
the same batch. -/
theorem parse_of_words_take (read : parse text = .ok batch)
    (listed : Text.words other.toList =
      (Text.words text.toList).take (batch.candidates.length + 2) ++ more) :
    parse other = .ok batch := by
  obtain ⟨pattern, word, words, n, textWords, denotes, enough, rfl⟩ :=
    parse_eq_ok_iff_denotes.mp read
  have count : ((words.take n).map String.ofList).length = n := by
    rw [List.length_map, List.length_take, Nat.min_eq_left enough]
  have taken : (words.take n).length = n := by rw [List.length_take, Nat.min_eq_left enough]
  rw [textWords, count] at listed
  refine parse_eq_ok_iff_denotes.mpr ⟨pattern, word, words.take n ++ more, n, listed, denotes, ?_, ?_⟩
  · rw [List.length_append, taken]
    exact Nat.le_add_right _ _
  · rw [List.take_append_of_le_length (Nat.le_of_eq taken.symm), List.take_take, Nat.min_self]

/-- **A batch is read back from any layout** of its words. -/
theorem parse_of_laidOut {pattern : String} {candidates : List String}
    (fits : candidates.length < 2 ^ 64)
    (laid : LaidOut (pattern.toList :: (toString candidates.length).toList ::
      candidates.map String.toList) text.toList) :
    parse text = .ok ⟨pattern, candidates⟩ := by
  have denotes : Count.Denotes (toString candidates.length).toList candidates.length :=
    Count.parse_eq_ok_iff_denotes.mp (Count.parse_repr (Count.le_limit_iff.mpr fits))
  refine parse_eq_ok_iff_denotes.mpr ⟨_, _, _, _, words_eq_iff_laidOut.mpr laid, denotes, ?_, ?_⟩
  · exact Nat.le_of_eq (List.length_map String.toList).symm
  · have same : String.ofList ∘ String.toList = id := funext fun text => String.ofList_toList
    rw [← List.map_take, List.take_length, List.map_map, same, List.map_id, String.ofList_toList]

/-- The text of a batch with one word on each line. -/
def write (batch : Batch) : String :=
  String.join ((batch.pattern :: toString batch.candidates.length :: batch.candidates).map (· ++ "\n"))

/-- **A batch that is written word by word is read back.** -/
theorem parse_write (isPattern : IsWord batch.pattern.toList)
    (areCandidates : ∀ candidate ∈ batch.candidates, IsWord candidate.toList)
    (fits : batch.candidates.length < 2 ^ 64) : parse batch.write = .ok batch := by
  have written : batch.write.toList =
      (batch.pattern.toList :: (toString batch.candidates.length).toList ::
        batch.candidates.map String.toList).flatMap (· ++ ['\n']) := by
    simp [write, List.flatMap_map]
  refine parse_of_laidOut fits (written ▸ Text.laidOut_lines fun word listed => ?_)
  rcases List.mem_cons.mp listed with rfl | listed
  · exact isPattern
  rcases List.mem_cons.mp listed with rfl | listed
  · exact Text.isWord_toString _
  · obtain ⟨candidate, inside, rfl⟩ := List.mem_map.mp listed
    exact areCandidates candidate inside

/-- **A text is read by its words.** It is laid out from exactly one sequence of words. It is a batch
if there are two of them or more, the second denotes a count, and at least as many follow; the first
is the pattern then, and the candidates are as many of the following ones as the count says. If it is
no batch, the first thing that is wrong is found, and told in the words for it. White space makes no
difference, and neither do the words after the last candidate. A batch is read back from any text that
is laid out from its pattern, the number of its candidates, and the candidates. -/
theorem parse_reads_words (text : String) :
    ∃ words, (∀ others, LaidOut others text.toList ↔ others = words) ∧
      (∀ batch, parse text = .ok batch ↔
        ∃ pattern word rest n, words = pattern :: word :: rest ∧ Count.Denotes word n ∧
          n ≤ rest.length ∧ batch = ⟨.ofList pattern, (rest.take n).map .ofList⟩) ∧
      (∀ fault, parse text = .error fault ↔ FirstFault words fault) ∧
      (∀ said, (parse text).mapError Fault.message = .error said ↔
        ∃ fault, FirstFault words fault ∧ fault.Worded said) ∧
      (∀ other : String, LaidOut words other.toList → parse other = parse text) ∧
      (∀ batch more, ∀ other : String, parse text = .ok batch →
        LaidOut (words.take (batch.candidates.length + 2) ++ more) other.toList →
          parse other = .ok batch) ∧
      ∀ (pattern : String) (candidates : List String), candidates.length < 2 ^ 64 →
        LaidOut (pattern.toList :: (toString candidates.length).toList ::
          candidates.map String.toList) text.toList →
          parse text = .ok ⟨pattern, candidates⟩ := by
  refine ⟨Text.words text.toList, fun others => ?_, fun batch => parse_eq_ok_iff_denotes,
    fun fault => ofWords_eq_error_iff, fun said => mapError_parse_eq_error_iff,
    fun other laid => ?_,
    fun batch more other read laid => ?_, fun pattern candidates => parse_of_laidOut⟩
  · rw [← words_eq_iff_laidOut, eq_comm]
  · rw [parse_of_words (words_eq_iff_laidOut.mpr laid), parse_of_words rfl]
  · exact parse_of_words_take read (words_eq_iff_laidOut.mpr laid)

/-- A signed count with a zero before it, after a no-break space: both candidates are read, and still
are when another word follows them. With the count 3 there is one candidate too few, and without a
count this is what is said. -/
theorem parse_reads_words_signed :
    parse " ad\u00a0+02\tb1\nx" = .ok ⟨"ad", ["b1", "x"]⟩ ∧
      parse "ad 2 b1 x" = .ok ⟨"ad", ["b1", "x"]⟩ ∧
      parse "ad 2 b1 x y" = .ok ⟨"ad", ["b1", "x"]⟩ ∧
      parse "ad 3 b1 x" = .error (.missingCandidates 3 2) ∧
      (parse "ad").mapError Fault.message = .error "Expected the number of candidates." := by
  have signed : Count.Denotes ['+', '0', '2'] 2 :=
    ⟨['0', '2'], Or.inr rfl, by decide, List.all_eq_true.mp rfl, by decide, by decide⟩
  have three : Count.Denotes ['3'] 3 :=
    ⟨['3'], Or.inl rfl, by decide, List.all_eq_true.mp rfl, by decide, by decide⟩
  obtain ⟨words, unique, isBatch, _⟩ := parse_reads_words " ad\u00a0+02\tb1\nx"
  obtain ⟨plain, plainUnique, _, _, _, _, extended, readBack⟩ := parse_reads_words "ad 2 b1 x"
  obtain ⟨fewer, fewerUnique, _, isFault, _⟩ := parse_reads_words "ad 3 b1 x"
  obtain ⟨lone, loneUnique, _, _, isSaid, _⟩ := parse_reads_words "ad"
  have listed : [['a', 'd'], ['+', '0', '2'], ['b', '1'], ['x']] = words :=
    (unique _).mp (words_eq_iff_laidOut.mp (by decide +kernel))
  have plainLaid : LaidOut [['a', 'd'], ['2'], ['b', '1'], ['x']] "ad 2 b1 x".toList :=
    words_eq_iff_laidOut.mp (by decide +kernel)
  have plainRead : parse "ad 2 b1 x" = .ok ⟨"ad", ["b1", "x"]⟩ :=
    readBack "ad" ["b1", "x"] (by decide) plainLaid
  have fewerListed : [['a', 'd'], ['3'], ['b', '1'], ['x']] = fewer :=
    (fewerUnique _).mp (words_eq_iff_laidOut.mp (by decide +kernel))
  have loneListed : [['a', 'd']] = lone :=
    (loneUnique _).mp (words_eq_iff_laidOut.mp (by decide +kernel))
  refine ⟨(isBatch _).mpr ⟨_, _, _, 2, listed.symm, signed, by decide, rfl⟩, plainRead,
    extended _ [['y']] _ plainRead ?_, (isFault _).mpr ?_,
    (isSaid _).mpr ⟨.missingCount, loneListed ▸ .missingCount, .missingCount⟩⟩
  · rw [← (plainUnique _).mp plainLaid]
    exact words_eq_iff_laidOut.mp (by decide +kernel)
  · rw [← fewerListed]
    exact .missingCandidates three (by decide)

end PatternNfa.Batch
