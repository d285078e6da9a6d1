/-
**What readers read.**

A reader reads the forms of some values if it gives a value exactly where a form of it begins the
text, and leaves what comes after. Readers that are put together read forms that are put together.

* `Reads`: the forms that a reader reads, for the values that meet a condition;
* `Reads.word_bind`, `Reads.bind`, `Reads.bind_pure`: one thing after another;
* `Reads.more`, `Reads.list`: lists of items with commas between them.
-/

import Mathlib.Computability.Language
import PatternNfa.Text.Reader

namespace PatternNfa.Text

variable {α β : Type}

/-! ### Forms -/

/-- How a list ends: a comma may stand before the closing bracket. -/
def closeForms (close : Char) : Language Char :=
  {[close]} + {[',', close]}

/-- The rest of a list after some item: a comma stands before every further item. -/
def moreForms (forms : α → Language Char) : List α → Language Char
  | [] => closeForms ']'
  | item :: items => {[',']} * (forms item * moreForms forms items)

/-- **The forms of lists**: items between brackets, separated by commas. -/
def listForms (forms : α → Language Char) : List α → Language Char
  | [] => {['&', '[']} * {[']']}
  | item :: items => {['&', '[']} * (forms item * moreForms forms items)

theorem length_lt_of_mem_moreForms {forms : α → Language Char} {items : List α} {text : List Char}
    (written : text ∈ moreForms forms items) : items.length < text.length := by
  induction items generalizing text with
  | nil => rcases written with rfl | rfl <;> exact Nat.succ_pos _
  | cons item items ih =>
    obtain ⟨_, rfl, _, ⟨next, _, others, othersWritten, rfl⟩, rfl⟩ := written
    have shorter := ih othersWritten
    simp only [List.length_append, List.length_cons]
    omega

/-! ### Readers one after another -/

/-- **A reader reads the forms of the values that meet a condition** if it gives such a value exactly
where one of its forms begins the text. It leaves the text after that form. -/
def Reads (reader : Reader α) (meets : α → Prop) (forms : α → Language Char) : Prop :=
  ∀ ⦃text : List Char⦄ ⦃value : α⦄ ⦃rest : List Char⦄, reader.run text = some (value, rest) ↔
    meets value ∧ ∃ taken ∈ forms value, taken ++ rest = text

/-- A reader that reads the forms of every value. -/
abbrev ReadsAll (reader : Reader α) (forms : α → Language Char) : Prop :=
  Reads reader (fun _ => True) forms

open Reader

theorem run_bind_eq_some_iff {reader : Reader α} {next : α → Reader β} {text rest : List Char}
    {result : β} :
    (reader >>= next).run text = some (result, rest) ↔
      ∃ value left, reader.run text = some (value, left) ∧
        (next value).run left = some (result, rest) := by
  rw [StateT.run_bind, Option.bind_eq_bind, Option.bind_eq_some_iff, Prod.exists]

namespace Reads

variable {reader : Reader α} {meets : α → Prop} {forms : α → Language Char}

theorem run_eq_some_iff (reads : Reads reader meets forms) {text rest : List Char} {value : α} :
    reader.run text = some (value, rest) ↔ meets value ∧ ∃ taken ∈ forms value, taken ++ rest = text :=
  @reads text value rest

/-- The condition may be put in other words. -/
theorem congr (reads : Reads reader meets forms) {others : α → Prop}
    (same : ∀ value, meets value ↔ others value) : Reads reader others forms := by
  intro text value rest
  rw [reads.run_eq_some_iff, same]

/-- A word before a form. -/
theorem word_bind (reads : Reads reader meets forms) (expected : List Char) :
    Reads (word expected >>= fun _ => reader) meets fun value => {expected} * forms value := by
  intro text value rest
  simp only [run_bind_eq_some_iff, run_word_eq_some_iff, reads.run_eq_some_iff]
  constructor
  · rintro ⟨_, _, rfl, met, taken, written, rfl⟩
    exact ⟨met, expected ++ taken, Language.append_mem_mul rfl written, List.append_assoc _ _ _⟩
  · rintro ⟨met, _, ⟨_, rfl, taken, written, rfl⟩, rfl⟩
    exact ⟨(), taken ++ rest, (List.append_assoc _ _ _).symm, met, taken, written, rfl⟩

/-- **A part of a value and then what is left of it.** -/
theorem bind (reads : ReadsAll reader forms) {part : β → α} {next : α → Reader β}
    {meets : β → Prop} {others : β → Language Char}
    (continues : ∀ value, Reads (next value) (fun result => part result = value ∧ meets result)
      others) :
    Reads (reader >>= next) meets fun result => forms (part result) * others result := by
  intro text result rest
  simp only [run_bind_eq_some_iff, reads.run_eq_some_iff, (continues _).run_eq_some_iff, true_and]
  constructor
  · rintro ⟨_, _, ⟨first, firstWritten, rfl⟩, ⟨rfl, met⟩, second, secondWritten, rfl⟩
    exact ⟨met, first ++ second, Language.append_mem_mul firstWritten secondWritten,
      List.append_assoc _ _ _⟩
  · rintro ⟨met, _, ⟨first, firstWritten, second, secondWritten, rfl⟩, rfl⟩
    exact ⟨part result, second ++ rest, ⟨first, firstWritten, (List.append_assoc _ _ _).symm⟩,
      ⟨rfl, met⟩, second, secondWritten, rfl⟩

end Reads

/-! ### Brackets and lists -/

theorem run_orElse_eq_some_iff {first second : Reader α} {text : List Char}
    {result : α × List Char} :
    (first <|> second).run text = some result ↔
      first.run text = some result ∨ (first.run text = none ∧ second.run text = some result) := by
  rw [run_orElse, Option.orElse_eq_orElse, Option.orElse_eq_or, Option.or_eq_some_iff]

theorem readsAll_word (expected : List Char) : ReadsAll (word expected) fun _ => {expected} := by
  intro text value rest
  rw [run_word_eq_some_iff, true_and]
  constructor
  · rintro rfl
    exact ⟨expected, rfl, rfl⟩
  · rintro ⟨_, rfl, rfl⟩
    rfl

/-- A closing bracket, with or without a comma before it. -/
theorem readsAll_close {bracket : Char} (notComma : bracket ≠ ',') :
    ReadsAll (close bracket) fun _ => closeForms bracket := by
  intro text value rest
  rw [close, run_orElse_eq_some_iff, run_word_eq_some_iff, run_word_eq_some_iff, true_and]
  constructor
  · rintro (rfl | ⟨_, rfl⟩)
    · exact ⟨_, Or.inl rfl, rfl⟩
    · exact ⟨_, Or.inr rfl, rfl⟩
  · rintro ⟨_, rfl | rfl, rfl⟩
    · exact Or.inl rfl
    · have comma : (word [bracket]).run ([','] ++ ([bracket] ++ rest)) = none :=
        run_word_append_of_not_prefix (by simpa using notComma) (by simpa using notComma.symm) _
      exact Or.inr ⟨comma, rfl⟩

/-- The first reader of some that succeeds. -/
theorem exists_of_run_firstM {read : α → Reader β} {items : List α} {text : List Char}
    {result : β × List Char} (succeeds : (items.firstM read).run text = some result) :
    ∃ item ∈ items, (read item).run text = some result := by
  induction items with
  | nil => cases succeeds
  | cons item items ih =>
    rcases run_orElse_eq_some_iff.mp succeeds with first | ⟨_, later⟩
    · exact ⟨item, List.mem_cons_self, first⟩
    · obtain ⟨found, listed, read⟩ := ih later
      exact ⟨found, List.mem_cons_of_mem item listed, read⟩

namespace Reads

variable {reader : Reader Unit} {item : Reader α} {forms : α → Language Char}

/-- A value that is known before the last thing is read. -/
theorem bind_pure {endings : Language Char} (reads : ReadsAll reader fun _ => endings) (known : α) :
    Reads (reader >>= fun _ => pure known) (· = known) fun _ => endings := by
  intro text value rest
  simp only [run_bind_eq_some_iff, reads.run_eq_some_iff, true_and, StateT.run_pure,
    Option.pure_def, Option.some.injEq, Prod.mk.injEq]
  constructor
  · rintro ⟨_, _, taken, rfl, rfl⟩
    exact ⟨rfl, taken⟩
  · rintro ⟨rfl, taken⟩
    exact ⟨(), rest, taken, rfl, rfl⟩

/-- A first item and then others. -/
theorem cons (reads : ReadsAll item forms) {rest : Reader (List α)} {meets : List α → Prop}
    {others : List α → Language Char} (restReads : Reads rest meets others)
    {text left : List Char} {items : List α} :
    (item >>= fun first => rest >>= fun items => pure (first :: items)).run text =
        some (items, left) ↔
      ∃ first more, items = first :: more ∧ meets more ∧
        ∃ taken ∈ forms first * others more, taken ++ left = text := by
  simp only [run_bind_eq_some_iff, reads.run_eq_some_iff, restReads.run_eq_some_iff, true_and,
    StateT.run_pure, Option.pure_def, Option.some.injEq, Prod.mk.injEq]
  constructor
  · rintro ⟨first, _, ⟨taken, written, rfl⟩, more, _, ⟨met, others, othersWritten, rfl⟩, rfl, rfl⟩
    exact ⟨first, more, rfl, met, taken ++ others, Language.append_mem_mul written othersWritten,
      List.append_assoc _ _ _⟩
  · rintro ⟨first, more, rfl, met, _, ⟨taken, written, others, othersWritten, rfl⟩, rfl⟩
    exact ⟨first, others ++ left, ⟨taken, written, (List.append_assoc _ _ _).symm⟩, more, left,
      ⟨met, others, othersWritten, rfl⟩, rfl, rfl⟩

/-- At the end of a list there is no further item: neither the bracket itself nor a comma before it can
be taken for one. -/
theorem run_further_of_close (opens : ∀ rest, item.run (']' :: rest) = none)
    (next : α → Reader β) {taken : List Char} (closing : taken ∈ closeForms ']') (rest : List Char) :
    (word [','] >>= fun _ => item >>= next).run (taken ++ rest) = none := by
  rcases closing with rfl | rfl
  · have noComma : (word [',']).run ([']'] ++ rest) = none :=
      run_word_append_of_not_prefix (by decide) (by decide) rest
    rw [StateT.run_bind, noComma]
    rfl
  · have comma : (word [',']).run ([',', ']'] ++ rest) = some ((), ']' :: rest) := rfl
    rw [run_bind_of_some comma, StateT.run_bind, opens]
    rfl

/-- **The rest of a list**, if no item begins with the closing bracket. There are fewer items than the
limit. -/
theorem more (reads : ReadsAll item forms) (opens : ∀ rest, item.run (']' :: rest) = none)
    (limit : Nat) : Reads (Reader.more item limit) (·.length < limit) (moreForms forms) := by
  induction limit with
  | zero =>
    intro text value rest
    exact iff_of_false nofun fun read => Nat.not_lt_zero _ read.1
  | succ limit ih =>
    have ending := bind_pure (readsAll_close (by decide : ']' ≠ ',')) ([] : List α)
    intro text items rest
    rw [Reader.more, run_orElse_eq_some_iff, ending.run_eq_some_iff]
    cases items with
    | nil =>
      constructor
      · rintro (read | ⟨_, _, taken⟩)
        · obtain ⟨_, _, _, further⟩ := run_bind_eq_some_iff.mp read
          obtain ⟨_, _, nonempty, _⟩ := (reads.cons ih).mp further
          cases nonempty
        · exact ⟨Nat.succ_pos limit, taken⟩
      · rintro ⟨_, taken, closing, rfl⟩
        exact Or.inr ⟨run_further_of_close opens _ closing rest, rfl, taken, closing, rfl⟩
    | cons next others =>
      constructor
      · rintro (read | ⟨_, ⟨⟩, _⟩)
        obtain ⟨_, _, comma, further⟩ := run_bind_eq_some_iff.mp read
        obtain ⟨_, _, same, few, taken, written, rfl⟩ := (reads.cons ih).mp further
        cases same
        rw [← run_word_eq_some_iff.mp comma]
        refine ⟨Nat.succ_lt_succ few, [','] ++ taken, ?_, rfl⟩
        exact Language.append_mem_mul (Set.mem_singleton _) written
      · rintro ⟨few, _, ⟨_, rfl, taken, written, rfl⟩, rfl⟩
        refine Or.inl (run_bind_eq_some_iff.mpr ⟨(), taken ++ rest, rfl, ?_⟩)
        exact (reads.cons ih).mpr
          ⟨next, others, rfl, Nat.lt_of_succ_lt_succ few, taken, written, rfl⟩

/-- There is no limit to how long a list is. -/
theorem others (reads : ReadsAll item forms) (opens : ∀ rest, item.run (']' :: rest) = none) :
    ReadsAll (Reader.others item) (moreForms forms) := by
  intro text items rest
  have limited : (Reader.others item).run text = (Reader.more item text.length).run text := rfl
  rw [limited, (more reads opens _).run_eq_some_iff, true_and, and_iff_right_iff_imp]
  rintro ⟨taken, written, rfl⟩
  have few := length_lt_of_mem_moreForms written
  rw [List.length_append]
  omega

/-- **A list**, if no item begins with the closing bracket. -/
theorem list (reads : ReadsAll item forms) (opens : ∀ rest, item.run (']' :: rest) = none) :
    ReadsAll (Reader.list item) (listForms forms) := by
  have ending := bind_pure (readsAll_word [']']) ([] : List α)
  have more := others reads opens
  intro text items rest
  rw [Reader.list, run_bind_eq_some_iff]
  simp only [run_word_eq_some_iff, run_orElse_eq_some_iff, reads.cons more, ending.run_eq_some_iff,
    true_and]
  cases items with
  | nil =>
    constructor
    · rintro ⟨_, _, rfl, ⟨_, _, ⟨⟩, _⟩ | ⟨_, _, _, rfl, rfl⟩⟩
      exact ⟨['&', '['] ++ [']'], Language.append_mem_mul (Set.mem_singleton _)
        (Set.mem_singleton _), rfl⟩
    · rintro ⟨_, ⟨_, rfl, _, rfl, rfl⟩, rfl⟩
      refine ⟨(), ']' :: rest, rfl, Or.inr ⟨?_, rfl, _, rfl, rfl⟩⟩
      rw [StateT.run_bind, opens]
      rfl
  | cons first others =>
    constructor
    · rintro ⟨_, _, rfl, ⟨_, _, ⟨⟩, taken, written, rfl⟩ | ⟨_, ⟨⟩, _⟩⟩
      exact ⟨['&', '['] ++ taken, Language.append_mem_mul rfl written, rfl⟩
    · rintro ⟨_, ⟨_, rfl, taken, written, rfl⟩, rfl⟩
      exact ⟨(), taken ++ rest, rfl, Or.inl ⟨first, others, rfl, taken, written, rfl⟩⟩

end Reads

end PatternNfa.Text
