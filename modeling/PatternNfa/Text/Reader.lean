/-
**Readers.**

A reader takes characters from the beginning of a text and gives what they stand for, with the text
that is left, or it fails. Fixed words, numbers and lists are read as they stand in the text of a
program, once white space is removed: lists have commas between their items, and a comma may stand
before a closing bracket.

* `run_word_eq_some_iff`: a word is read where it stands;
* `run_decimal_append`: digits are read back;
* `run_list_append`: a list is read back if its items are.
-/

namespace PatternNfa.Text

/-- Takes characters from the beginning of a text, or fails. -/
abbrev Reader (α : Type) := StateT (List Char) Option α

namespace Reader

variable {α β : Type}

/-- Takes a fixed word. -/
def word (expected : List Char) : Reader Unit := fun text =>
  if expected.isPrefixOf text then some ((), text.drop expected.length) else none

/-- Takes decimal digits, as many as there are, and one at least. -/
def decimal : Reader Nat := fun text =>
  let digits := text.takeWhile Char.isDigit
  if digits.isEmpty then none
  else some (Nat.ofDigitChars 10 digits 0, text.dropWhile Char.isDigit)

/-- Takes a closing bracket, with or without a comma before it. -/
def close (bracket : Char) : Reader Unit :=
  word [bracket] <|> word [',', bracket]

/-- Takes the rest of a list after some item, of which no more than `limit` items are taken. -/
def more (item : Reader α) : Nat → Reader (List α)
  | 0 => failure
  | limit + 1 =>
    (do word [',']
        let next ← item
        let others ← more item limit
        return next :: others) <|>
    (do close ']'
        return [])

/-- Takes the rest of a list. There is a comma before every item, so there are no more items than
characters. -/
def others (item : Reader α) : Reader (List α) := fun text =>
  (more item text.length).run text

/-- Takes a list. -/
def list (item : Reader α) : Reader (List α) := do
  word ['&', '[']
  (do let first ← item
      let others ← others item
      return first :: others) <|>
  (do word [']']
      return [])

theorem run_orElse (first second : Reader α) (text : List Char) :
    (first <|> second).run text = (first.run text <|> second.run text) := rfl

/-- **What comes after a value is read from the text that is left.** -/
theorem run_bind_of_some {reader : Reader α} {next : α → Reader β} {text rest : List Char} {value : α}
    (read : reader.run text = some (value, rest)) :
    (reader >>= next).run text = (next value).run rest := by
  rw [StateT.run_bind, read]
  rfl

/-! ### Words and numbers -/

/-- **A word is read where it stands.** -/
theorem run_word_eq_some_iff {expected text rest : List Char} {done : Unit} :
    (word expected).run text = some (done, rest) ↔ expected ++ rest = text := by
  show (if expected.isPrefixOf text then _ else _) = _ ↔ _
  by_cases stands : expected.isPrefixOf text = true
  · obtain ⟨left, rfl⟩ := List.isPrefixOf_iff_prefix.mp stands
    simpa using eq_comm
  · rw [if_neg stands]
    refine ⟨nofun, ?_⟩
    rintro rfl
    exact absurd (List.isPrefixOf_iff_prefix.mpr (List.prefix_append _ _)) stands

@[simp] theorem run_word_append (expected rest : List Char) :
    (word expected).run (expected ++ rest) = some ((), rest) :=
  run_word_eq_some_iff.mpr rfl

/-- A word is not read where another one stands, if neither begins with the other. -/
theorem run_word_append_of_not_prefix {expected written : List Char}
    (shorter : ¬expected <+: written) (longer : ¬written <+: expected) (rest : List Char) :
    (word expected).run (written ++ rest) = none := by
  refine Option.eq_none_iff_forall_ne_some.mpr fun result read => ?_
  have same : expected ++ result.2 = written ++ rest := run_word_eq_some_iff.mp read
  rcases List.prefix_or_prefix_of_prefix (List.prefix_append expected result.2)
    (same.symm ▸ List.prefix_append written rest) with before | after
  · exact shorter before
  · exact longer after

theorem run_decimal (text : List Char) :
    decimal.run text =
      if (text.takeWhile Char.isDigit).isEmpty then none
      else some (Nat.ofDigitChars 10 (text.takeWhile Char.isDigit) 0, text.dropWhile Char.isDigit) :=
  rfl

/-- **Digits are read back** if something else comes after them. -/
theorem run_decimal_append {digits : List Char} {next : Char} (nonempty : digits ≠ [])
    (areDigits : ∀ c ∈ digits, c.isDigit = true) (stops : next.isDigit = false) (rest : List Char) :
    decimal.run (digits ++ next :: rest) =
      some (Nat.ofDigitChars 10 digits 0, next :: rest) := by
  have stretch : (digits ++ next :: rest).takeWhile Char.isDigit = digits := by
    rw [List.takeWhile_append_of_pos areDigits, List.takeWhile_cons_of_neg (by simp [stops]),
      List.append_nil]
  have left : (digits ++ next :: rest).dropWhile Char.isDigit = next :: rest := by
    rw [List.dropWhile_append_of_pos areDigits, List.dropWhile_cons_of_neg (by simp [stops])]
  rw [run_decimal, stretch, left, if_neg (by simpa using nonempty)]

/-! ### Lists -/

variable {item : Reader α} {write : α → List Char}

theorem run_close_cons {bracket : Char} (rest : List Char) :
    (close bracket).run (bracket :: rest) = some ((), rest) := by
  rw [close, run_orElse, run_word_eq_some_iff.mpr List.singleton_append]
  rfl

/-- The rest of a list is read back. -/
theorem run_more_append (reads : ∀ value rest, item.run (write value ++ rest) = some (value, rest))
    {items : List α} {limit : Nat} (few : items.length < limit) (rest : List Char) :
    (more item limit).run (items.flatMap (fun value => ',' :: write value) ++ ']' :: rest) =
      some (items, rest) := by
  induction items generalizing limit with
  | nil =>
    obtain ⟨limit, rfl⟩ := Nat.exists_eq_succ_of_ne_zero (Nat.ne_zero_of_lt few)
    have noComma : (word [',']).run ([']'] ++ rest) = none :=
      run_word_append_of_not_prefix (by decide) (by decide) rest
    rw [List.singleton_append] at noComma
    simp [more, run_orElse, noComma, run_close_cons]
  | cons value items ih =>
    obtain ⟨limit, rfl⟩ := Nat.exists_eq_succ_of_ne_zero (Nat.ne_zero_of_lt few)
    have others := ih (Nat.lt_of_succ_lt_succ few)
    have comma (text : List Char) : (word [',']).run (',' :: text) = some ((), text) :=
      run_word_append [','] text
    simp [more, run_orElse, comma, reads, others]

theorem intercalate_comma_cons (write : α → List Char) (first : α) (others : List α) :
    [','].intercalate ((first :: others).map write) =
      write first ++ others.flatMap fun value => ',' :: write value := by
  induction others generalizing first with
  | nil => simp
  | cons next others ih =>
    rw [List.map_cons, List.map_cons, List.intercalate_cons_cons, ← List.map_cons, ih next]
    simp

theorem run_others_append
    (reads : ∀ value rest, item.run (write value ++ rest) = some (value, rest)) (items : List α)
    (rest : List Char) :
    (others item).run (items.flatMap (fun value => ',' :: write value) ++ ']' :: rest) =
      some (items, rest) := by
  have few : items.length <
      (items.flatMap (fun value => ',' :: write value) ++ ']' :: rest).length := by
    induction items with
    | nil => simp
    | cons next items ih =>
      simp only [List.flatMap_cons, List.length_cons, List.length_append] at ih ⊢
      omega
  exact run_more_append reads few rest

/-- **A list is read back** if its items are, and none of them begins with the closing bracket. -/
theorem run_list_append (reads : ∀ value rest, item.run (write value ++ rest) = some (value, rest))
    (opens : ∀ rest, item.run (']' :: rest) = none) (items : List α) (rest : List Char) :
    (list item).run (['&', '['] ++ [','].intercalate (items.map write) ++ ']' :: rest) =
      some (items, rest) := by
  rw [List.append_assoc, list, run_bind_of_some (run_word_append _ _)]
  cases items with
  | nil =>
    have closes : (word [']']).run (']' :: rest) = some ((), rest) := run_word_append [']'] rest
    simp [run_orElse, opens, closes]
  | cons first items =>
    rw [intercalate_comma_cons, List.append_assoc, run_orElse, run_bind_of_some (reads _ _),
      run_bind_of_some (run_others_append reads _ _)]
    rfl

end Reader

end PatternNfa.Text
