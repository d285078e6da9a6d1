/-
**An alternative is compiled piece by piece.**

An alternative can be cut in two wherever no star is cut off from what it belongs to. The first part
is then read as it is by itself, the second part as by itself but further on, and the automaton is
the concatenation of the automata of the parts: by associativity it makes no difference that it was
put together one piece at a time. A group is compiled as its literals are by themselves, one
character further on, and then repeated.

* `readSegment_text_append`: what is read where a part has been read before;
* `Segment.machine?_append`: the automaton of two parts;
* `readSegment_eq_readLiterals`: an alternative without parentheses is read as literals;
* `compile_append_and_group`: results and errors of two parts, and of a group.
-/

import PatternNfa.Proofs.Automaton.Representation
import PatternNfa.Proofs.Pattern.Alternatives

namespace PatternNfa

/-! ### Two parts of an alternative -/

/-- Nothing that follows a starred piece belongs to it. -/
theorem Piece.ends_of_getLast?_text {piece : Piece} (starred : piece.text.getLast? = some '*')
    (after : List Char) : piece.Ends after := by
  cases piece with
  | literal single =>
    obtain ⟨cls, _ | _⟩ := single
    · cases cls <;> cases starred
    · exact fun unstarred => by cases unstarred
  | group first rest => exact trivial

/-- What follows the alternative does not belong to its last piece. -/
def Segment.Ends (segment : Segment) (after : List Char) : Prop :=
  ∀ piece ∈ segment.getLast?, piece.Ends after

/-- **An alternative ends** before anything but a star, and before anything if it ends with a
star. -/
theorem Segment.ends_of_parted {segment : Segment} {after : List Char}
    (parted : after.head? ≠ some '*' ∨ segment.text.getLast? = some '*') : segment.Ends after := by
  intro piece last
  rcases parted with noStar | starred
  · exact piece.ends_of_head?_ne noStar
  · obtain ⟨earlier, rfl⟩ := List.getLast?_eq_some_iff.mp last
    refine piece.ends_of_getLast?_text ?_ after
    rw [Segment.text, List.flatMap_append, List.flatMap_singleton,
      List.getLast?_append_of_ne_nil _ piece.text_ne_nil] at starred
    exact starred

/-- No piece but the last one of an alternative is followed by what follows the alternative. -/
theorem Segment.Ends.tail {piece : Piece} {pieces : Segment} {after : List Char}
    (ends : Segment.Ends (piece :: pieces) after) :
    piece.Ends (pieces.text ++ after) ∧ pieces.Ends after := by
  cases pieces with
  | nil => exact ⟨ends piece rfl, fun _ last => by cases last⟩
  | cons next more =>
    refine ⟨piece.ends_of_head?_ne ?_, fun last isLast => ends last ?_⟩
    · have begins := Segment.head?_text (next :: more)
      have nonempty : Segment.text (next :: more) ≠ [] :=
        fun isEmpty => List.cons_ne_nil _ _ (Segment.text_eq_nil_iff.mp isEmpty)
      rwa [List.head?_append_of_ne_nil _ nonempty]
    · rwa [List.getLast?_cons_cons]

namespace Pattern

/-- **What is read after a part of an alternative** is read as it is by itself, further on. -/
theorem readSegment_text_append (position : Nat) {segment : Segment} {after : List Char}
    (ends : segment.Ends after) :
    readSegment position (segment.text ++ after) =
      (readSegment (position + segment.text.length) after).map (segment ++ ·) := by
  induction segment generalizing position with
  | nil =>
    show readSegment position after = (readSegment position after).map id
    cases readSegment position after <;> rfl
  | cons piece pieces ih =>
    obtain ⟨pieceEnds, piecesEnd⟩ := ends.tail
    have written : Segment.text (piece :: pieces) = piece.text ++ Segment.text pieces := rfl
    rw [written, List.append_assoc, readSegment_append pieceEnds, ih _ piecesEnd, List.length_append,
      Nat.add_assoc]
    cases readSegment (position + (piece.text.length + (Segment.text pieces).length)) after <;> rfl

end Pattern

/-- **The automaton of two parts** is the concatenation of their automata. -/
theorem Segment.machine?_append {segment pieces : Segment} {machine other : Automaton}
    (built : segment.machine? = some machine) (otherBuilt : pieces.machine? = some other) :
    (segment ++ pieces).machine? = some (machine.concatenate other) := by
  have sound := (Segment.realizes built).wellFormed
  have each : ∀ joined ∈ pieces.map Piece.machine, joined.WellFormed := by
    intro _ listed
    obtain ⟨piece, _, rfl⟩ := List.mem_map.mp listed
    exact piece.realizes.wellFormed
  cases segment with
  | nil => cases built
  | cons first rest =>
    cases pieces with
    | nil => cases otherBuilt
    | cons next more =>
      cases built
      cases otherBuilt
      rw [List.map_cons, List.forall_mem_cons] at each
      rw [← Automaton.foldl_concatenate sound each.1 each.2]
      simp [Segment.machine?, Automaton.joinAll]

/-! ### Groups -/

namespace Pattern

/-- An alternative without parentheses is read as literals. -/
theorem readSegment_eq_readLiterals (position : Nat) {text : List Char} (plain : '(' ∉ text) :
    readSegment position text = (readLiterals position text).map (List.map .literal) := by
  have piece (position : Nat) {c : Char} {rest : List Char} (plain : '(' ∉ c :: rest) :
      readPiece position c rest =
        (readLiteral position c rest).map fun read => (.literal read.1, read.2) := by
    have notOpening : c ≠ '(' := by
      rintro rfl
      exact plain List.mem_cons_self
    exact if_neg notOpening
  fun_induction readLiterals position text with
  | case1 => rw [readSegment]; rfl
  | case2 position c rest error failed =>
    refine readSegment_eq_error ?_
    rw [piece position plain, failed]
    rfl
  | case3 position c rest literal after read ih =>
    have written : c :: rest = literal.text ++ after := (readLiteral_eq_ok_iff.mp read).1
    have later : '(' ∉ after := fun inside => plain (written ▸ List.mem_append_right _ inside)
    rw [readSegment_eq_bind, piece position plain, read]
    show (readSegment (position + literal.text.length) after).map _ = _
    rw [ih later]
    cases readLiterals (position + literal.text.length) after <;> rfl

/-- **A group is refused for the first error in its literals**, one character further on. -/
theorem readSegment_group_eq_error {body : List Char} {error : CompileError}
    (plain : ∀ c ∈ body, isParenthesis c = false) (failed : readLiterals 0 body = .error error)
    (after : List Char) :
    readSegment 0 ('(' :: (body ++ ')' :: after)) = .error (error.shift 1) := by
  have literals : readLiterals 1 body = .error (error.shift 1) := by
    rw [← Nat.zero_add 1, readLiterals_add, failed]
    rfl
  have group : readPiece 0 '(' (body ++ ')' :: after) = .error (error.shift 1) := by
    show readGroup 0 (body ++ ')' :: after) = _
    rw [readGroup_append plain]
    unfold readBody
    rw [literals]
  exact readSegment_eq_error group

end Pattern

/-! ### Results and errors -/

variable {source first second : String} {machine : Automaton}

theorem toList_group (source : String) :
    ("(" ++ source ++ ")*").toList = '(' :: (source.toList ++ [')', '*']) := by
  rw [String.toList_append, String.toList_append]
  rfl

theorem not_mem_group (free : 'U' ∉ source.toList) : 'U' ∉ ("(" ++ source ++ ")*").toList := by
  rw [toList_group]
  simp [free]

/-- **A group has the automaton of its literals, repeated.** -/
theorem compile_group (free : 'U' ∉ source.toList) (opened : '(' ∉ source.toList)
    (compiled : compile source = .ok (some machine)) :
    compile ("(" ++ source ++ ")*") = .ok (some machine.star) := by
  rw [compile_of_not_mem free, Pattern.readSegment_eq_readLiterals 0 opened] at compiled
  obtain ⟨_, pieces, built⟩ := map_eq_ok_iff.mp compiled
  obtain ⟨literals, read, rfl⟩ := map_eq_ok_iff.mp pieces
  have written : source.toList = literals.flatMap Literal.text :=
    Pattern.readLiterals_eq_ok_iff.mp read
  cases literals with
  | nil => cases built
  | cons literal others =>
    refine (compile_eq_ok_iff_of_not_mem (not_mem_group free)).mpr
      ⟨[.group literal others], ?_, ?_⟩
    · rw [toList_group, written]
      simp [Segment.text, Piece.text]
    · cases built
      simp [Segment.machine?, Automaton.joinAll, Piece.machine, List.foldl_map]

/-- **A group is refused for the errors of its literals**, one character further on. -/
theorem compile_group_eq_error (free : 'U' ∉ source.toList) (opened : '(' ∉ source.toList)
    (closed : ')' ∉ source.toList) {error : CompileError} (failed : compile source = .error error) :
    compile ("(" ++ source ++ ")*") = .error (error.shift 1) := by
  rw [compile_eq_error_iff_of_not_mem free, Pattern.readSegment_eq_readLiterals 0 opened,
    map_eq_error_iff] at failed
  have plain : ∀ c ∈ source.toList, Pattern.isParenthesis c = false := by
    intro c inside
    have notOpening : c ≠ '(' := fun same => opened (same ▸ inside)
    have notClosing : c ≠ ')' := fun same => closed (same ▸ inside)
    simp [Pattern.isParenthesis, notOpening, notClosing]
  rw [compile_eq_error_iff_of_not_mem (not_mem_group free), toList_group]
  exact Pattern.readSegment_group_eq_error plain failed ['*']

/-- **Two parts are compiled by themselves**, unless the first is nothing or a star is cut off: the
errors of the second are found further on, and the automata are joined. -/
theorem compile_append (free : 'U' ∉ first.toList) (secondFree : 'U' ∉ second.toList)
    (compiled : compile first = .ok (some machine))
    (parted : second.toList.head? ≠ some '*' ∨ first.toList.getLast? = some '*') :
    compile (first ++ second) =
      ((compile second).mapError (.shift first.length)).map fun other =>
        some (machine.concatenateOption other) := by
  obtain ⟨segment, written, built⟩ := (compile_eq_ok_iff_of_not_mem free).mp compiled
  have bothFree : 'U' ∉ (first ++ second).toList := by
    simp [free, secondFree]
  rw [written] at parted
  rw [compile_of_not_mem bothFree, compile_of_not_mem secondFree, String.toList_append, written,
    Pattern.readSegment_text_append 0 (Segment.ends_of_parted parted), Nat.zero_add, ← written,
    String.length_toList, Pattern.readSegment_eq_mapError]
  cases Pattern.readSegment 0 second.toList with
  | error error => rfl
  | ok pieces =>
    show Except.ok (segment ++ pieces).machine? =
      .ok (some (machine.concatenateOption pieces.machine?))
    cases otherBuilt : pieces.machine? with
    | none =>
      rw [Segment.machine?_eq_none_iff.mp otherBuilt, List.append_nil, built]
      rfl
    | some other =>
      rw [Segment.machine?_append built otherBuilt]
      rfl

/-- **An alternative has the results and the errors of its parts, and a group those of its
literals.** A text without a `U` that is compiled to an automaton can be put before another one,
unless a star would then belong to it: the automata are concatenated, and the errors of the second
text are further on by the first. A text without parentheses can be put between them, with a star
behind: its automaton is repeated, and its errors are one character further on. -/
theorem compile_append_and_group :
    (∀ (first second : String) (machine : Automaton),
        'U' ∉ first.toList → 'U' ∉ second.toList → compile first = .ok (some machine) →
        second.toList.head? ≠ some '*' ∨ first.toList.getLast? = some '*' →
          (∀ other, compile second = .ok (some other) →
            compile (first ++ second) = .ok (some (machine.concatenate other))) ∧
          (compile second = .ok none → compile (first ++ second) = .ok (some machine)) ∧
          ∀ error, compile second = .error error →
            compile (first ++ second) = .error ⟨error.position + first.length, error.kind⟩) ∧
      ∀ body : String, 'U' ∉ body.toList → '(' ∉ body.toList → ')' ∉ body.toList →
        (∀ machine, compile body = .ok (some machine) →
          compile ("(" ++ body ++ ")*") = .ok (some machine.star)) ∧
        ∀ error, compile body = .error error →
          compile ("(" ++ body ++ ")*") = .error ⟨error.position + 1, error.kind⟩ := by
  constructor
  · intro first second machine free secondFree compiled parted
    have joined := compile_append free secondFree compiled parted
    refine ⟨fun other otherCompiled => ?_, fun nothing => ?_, fun error failed => ?_⟩
    · rw [joined, otherCompiled]
      rfl
    · rw [joined, nothing]
      rfl
    · rw [joined, failed]
      rfl
  · intro body free opened closed
    exact ⟨fun machine compiled => compile_group free opened compiled,
      fun error failed => compile_group_eq_error free opened closed failed⟩

/-- A star after the starred group `(a)*`, a sequence in two parts, nothing after a group, and two
texts that are put between parentheses. -/
theorem compile_append_and_group_letters :
    compile ("(a)*" ++ "*d") = .error ⟨4, .unexpectedChar '*'⟩ ∧
      compile ("a" ++ "da*") =
        .ok (some ((Automaton.reading .letter).concatenate
          ((Automaton.reading .digit).concatenate (Automaton.reading .letter).star))) ∧
      compile ("(a)*" ++ "") = .ok (some (Automaton.reading .letter).star) ∧
      compile ("(" ++ "da*" ++ ")*") =
        .ok (some ((Automaton.reading .digit).concatenate (Automaton.reading .letter).star).star) ∧
      compile ("(" ++ "é" ++ ")*") = .error ⟨1, .unexpectedChar 'é'⟩ := by
  have letter : compile "a" = .ok (some (Automaton.reading .letter)) :=
    compile_ofList_text [.literal ⟨.letter, false⟩]
  have group : compile "(a)*" = .ok (some (Automaton.reading .letter).star) :=
    compile_ofList_text [.group ⟨.letter, false⟩ []]
  have sequence : compile "da*" =
      .ok (some ((Automaton.reading .digit).concatenate (Automaton.reading .letter).star)) :=
    compile_ofList_text [.literal ⟨.digit, false⟩, .literal ⟨.letter, true⟩]
  have nothing : compile "" = .ok none := compile_ofList_text []
  have star : compile "*d" = .error ⟨0, .unexpectedChar '*'⟩ :=
    (compile_eq_error_iff_of_not_mem (by decide)).mpr (Pattern.readSegment_eq_error rfl)
  have accent : compile "é" = .error ⟨0, .unexpectedChar 'é'⟩ :=
    (compile_eq_error_iff_of_not_mem (by decide)).mpr (Pattern.readSegment_eq_error rfl)
  obtain ⟨sequences, groups⟩ := compile_append_and_group
  refine ⟨?_, ?_, ?_, ?_, ?_⟩
  · exact (sequences "(a)*" "*d" _ (by decide) (by decide) group (by decide)).2.2 _ star
  · exact (sequences "a" "da*" _ (by decide) (by decide) letter (by decide)).1 _ sequence
  · exact (sequences "(a)*" "" _ (by decide) (by decide) group (by decide)).2.1 nothing
  · exact (groups "da*" (by decide) (by decide) (by decide)).1 _ sequence
  · exact (groups "é" (by decide) (by decide) (by decide)).2 _ accent

end PatternNfa
