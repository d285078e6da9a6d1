/-
**Which texts are patterns.**

The written forms of patterns, described without any pattern: as a regular language for each kind of
part. A text is compiled if every maximal stretch of it without a `U` is the form of an alternative,
and what is missing otherwise is an error. There is no automaton only for a text of nothing but `U`.

* `mem_literalForms_iff`, `mem_pieceForms_iff`, `mem_segmentForms_iff`: the forms are what is written;
* `exists_compiled_iff`: a text is compiled if its stretches are forms of alternatives;
* `compile_eq_ok_none_iff`: the texts without an automaton;
* `compile_result_iff`: the three results of a compilation.
-/

import PatternNfa.Proofs.Pattern.Denotation

namespace PatternNfa

open scoped Computability

/-! ### The forms of the parts -/

/-- The forms of literals: an `a` or a `d`, and at most one star after it. -/
def literalForms : Language Char :=
  ({['a']} + {['d']}) * (1 + {['*']})

/-- The forms of pieces: a literal, or at least one of them between parentheses, before a star. -/
def pieceForms : Language Char :=
  literalForms + {['(']} * (literalForms * literalForms∗) * {[')', '*']}

/-- **The forms of alternatives**: any number of pieces, one after another. -/
def segmentForms : Language Char :=
  pieceForms∗

/-! ### The forms are what is written -/

section Written

variable {α : Type} {write : α → List Char} {forms : Language Char} {text : List Char}

theorem exists_map_eq_iff {parts : List (List Char)} :
    (∃ items : List α, items.map write = parts) ↔ ∀ part ∈ parts, ∃ item, write item = part :=
  Set.ext_iff.mp (Set.range_list_map write) parts

/-- Repeated forms are the texts in which any number of items is written. -/
theorem mem_kstar_forms_iff (written : ∀ text, text ∈ forms ↔ ∃ item, write item = text) :
    text ∈ forms∗ ↔ ∃ items : List α, items.flatMap write = text := by
  rw [Language.mem_kstar]
  simp only [written, ← exists_map_eq_iff, List.flatMap_def]
  constructor
  · rintro ⟨_, rfl, items, rfl⟩
    exact ⟨items, rfl⟩
  · rintro ⟨items, rfl⟩
    exact ⟨_, rfl, items, rfl⟩

end Written

variable {text : List Char}

theorem mem_literalForms_iff : text ∈ literalForms ↔ ∃ literal : Literal, literal.text = text := by
  constructor
  · rintro ⟨_, rfl | rfl, _, rfl | rfl, rfl⟩
    · exact ⟨⟨.letter, false⟩, rfl⟩
    · exact ⟨⟨.letter, true⟩, rfl⟩
    · exact ⟨⟨.digit, false⟩, rfl⟩
    · exact ⟨⟨.digit, true⟩, rfl⟩
  · rintro ⟨⟨cls, starred⟩, rfl⟩
    refine ⟨[cls.patternChar], ?_, if starred then ['*'] else [], ?_, rfl⟩
    · cases cls
      · exact Or.inl rfl
      · exact Or.inr rfl
    · cases starred
      · exact Or.inl rfl
      · exact Or.inr rfl

theorem mem_pieceForms_iff : text ∈ pieceForms ↔ ∃ piece : Piece, piece.text = text := by
  constructor
  · rintro (single | ⟨_, ⟨_, rfl, _, ⟨first, firstForm, rest, restForm, rfl⟩, rfl⟩, _, rfl, rfl⟩)
    · obtain ⟨literal, rfl⟩ := mem_literalForms_iff.mp single
      exact ⟨.literal literal, rfl⟩
    · obtain ⟨literal, rfl⟩ := mem_literalForms_iff.mp firstForm
      obtain ⟨literals, rfl⟩ := (mem_kstar_forms_iff fun _ => mem_literalForms_iff).mp restForm
      exact ⟨.group literal literals, rfl⟩
  · rintro ⟨single | ⟨first, rest⟩, rfl⟩
    · exact Or.inl (mem_literalForms_iff.mpr ⟨single, rfl⟩)
    · have firstForm := mem_literalForms_iff.mpr ⟨first, rfl⟩
      have restForm := (mem_kstar_forms_iff fun _ => mem_literalForms_iff).mpr ⟨rest, rfl⟩
      have body := Language.append_mem_mul firstForm restForm
      have opening : ['('] ∈ ({['(']} : Language Char) := rfl
      have closing : [')', '*'] ∈ ({[')', '*']} : Language Char) := rfl
      exact Or.inr (Language.append_mem_mul (Language.append_mem_mul opening body) closing)

theorem mem_segmentForms_iff : text ∈ segmentForms ↔ ∃ segment : Segment, segment.text = text :=
  mem_kstar_forms_iff fun _ => mem_pieceForms_iff

/-! ### Patterns and their alternatives -/

/-- The stretches of the text of a pattern are the texts of its alternatives. -/
theorem Pattern.fields_text (pattern : Pattern) :
    Text.fields (· == 'U') pattern.text = pattern.segments.map Segment.text := by
  rw [Text.fields, Pattern.parse_eq_ok_iff_splitWhere.mp (Pattern.parse_eq_ok_iff.mpr rfl)]
  rfl

/-- **A text is that of a pattern if its stretches are forms of alternatives.** -/
theorem Pattern.exists_text_iff :
    (∃ pattern : Pattern, pattern.text = text) ↔
      ∀ field, Text.IsField 'U' text field → field ∈ segmentForms := by
  simp only [← Text.mem_fields_iff, mem_segmentForms_iff]
  rw [← exists_map_eq_iff]
  constructor
  · rintro ⟨pattern, rfl⟩
    exact ⟨pattern.segments, pattern.fields_text.symm⟩
  · rintro ⟨segments, cut⟩
    cases segments with
    | nil => cases cut
    | cons first rest =>
      obtain ⟨heads, tails⟩ := List.cons.inj cut
      have read : Pattern.parse text = .ok ⟨first, rest⟩ :=
        Pattern.parse_eq_ok_iff_splitWhere.mpr (Prod.ext heads.symm tails.symm)
      exact ⟨⟨first, rest⟩, Pattern.parse_eq_ok_iff.mp read⟩

theorem Automaton.joinAll_eq_none_iff {join : Automaton → Automaton → Automaton}
    {machines : List Automaton} : joinAll join machines = none ↔ machines = [] := by
  cases machines <;> simp [joinAll]

/-- **A pattern has no automaton if nothing but `U` is written.** -/
theorem Pattern.machine?_eq_none_iff {pattern : Pattern} :
    pattern.machine? = none ↔ ∀ c ∈ pattern.text, c = 'U' := by
  rw [← Text.forall_fields_eq_nil_iff, pattern.fields_text, Pattern.machine?,
    Automaton.joinAll_eq_none_iff, List.filterMap_eq_nil_iff, List.forall_mem_map]
  simp only [Segment.machine?_eq_none_iff, Segment.text_eq_nil_iff]

/-! ### Results -/

variable {source : String}

/-- **A text is compiled if its stretches are forms of alternatives.** -/
theorem exists_compiled_iff :
    (∃ built, compile source = .ok built) ↔
      ∀ field, Text.IsField 'U' source.toList field → field ∈ segmentForms := by
  rw [← Pattern.exists_text_iff]
  simp only [compile_eq_ok_iff]
  constructor
  · rintro ⟨_, pattern, written, _⟩
    exact ⟨pattern, written⟩
  · rintro ⟨pattern, written⟩
    exact ⟨_, pattern, written, rfl⟩

/-- **Only a text of nothing but `U` is compiled to no automaton.** -/
theorem compile_eq_ok_none_iff :
    compile source = .ok none ↔ ∀ c ∈ source.toList, c = 'U' := by
  rw [compile_eq_ok_iff]
  constructor
  · rintro ⟨pattern, written, unbuilt⟩
    rw [← written]
    exact Pattern.machine?_eq_none_iff.mp unbuilt
  · intro onlyUnions
    have forms (field : List Char) (stretch : Text.IsField 'U' source.toList field) :
        field ∈ segmentForms := by
      rw [Text.forall_fields_eq_nil_iff.mpr onlyUnions field (Text.mem_fields_iff.mpr stretch)]
      exact Language.nil_mem_kstar _
    obtain ⟨pattern, written⟩ := Pattern.exists_text_iff.mpr forms
    rw [← written] at onlyUnions
    exact ⟨pattern, written, Pattern.machine?_eq_none_iff.mpr onlyUnions⟩

/-- **The three results of a compilation.** A text of nothing but `U` has no automaton. Any other
text has one if every stretch of it without a `U`, which goes on to a `U` or to an end on both sides,
is the form of an alternative. If one of them is not, the text is refused. -/
theorem compile_result_iff (source : String) :
    (compile source = .ok none ↔ ∀ c ∈ source.toList, c = 'U') ∧
      ((∃ machine, compile source = .ok (some machine)) ↔
        (¬ ∀ c ∈ source.toList, c = 'U') ∧
          ∀ field, Text.IsField 'U' source.toList field → field ∈ segmentForms) ∧
      ((∃ error, compile source = .error error) ↔
        ∃ field, Text.IsField 'U' source.toList field ∧ field ∉ segmentForms) := by
  refine ⟨compile_eq_ok_none_iff, ?_, ?_⟩
  · rw [← compile_eq_ok_none_iff, ← exists_compiled_iff]
    constructor
    · rintro ⟨machine, compiled⟩
      refine ⟨fun unbuilt => ?_, _, compiled⟩
      rw [compiled] at unbuilt
      cases unbuilt
    · rintro ⟨someBuilt, built, compiled⟩
      obtain ⟨machine, rfl⟩ := Option.ne_none_iff_exists'.mp fun none => someBuilt (none ▸ compiled)
      exact ⟨machine, compiled⟩
  · have refused : (∃ error, compile source = .error error) ↔ ¬ ∃ built, compile source = .ok built := by
      cases compile source <;> simp
    rw [refused, exists_compiled_iff]
    push Not
    rfl

end PatternNfa
