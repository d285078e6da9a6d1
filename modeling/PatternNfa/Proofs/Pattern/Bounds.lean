/-
**No place is missed.**

Compiling by places comes to the same result as `compile`, so it never breaks off: no place is asked for
that is not there, and the calls do not nest more deeply than they may. A part that has been compiled
tells a length of one at least, and no more than there is; so the parts of a stretch are laid end to
end, and the last one ends where the stretch ends. The body of a group holds no parenthesis and no `U`,
for the text has been cut at every `U` before. So alternatives and groups are never met inside of a
group, and there is a bound on the depth of the calls that holds for all texts.

* `Call.Proper`: a call as it should be, under the calls that are under way;
* `yields_piece`, `yields_pieces`, `yields_stretch`: parts, when bodies are compiled as they are read;
* `yields_body`, `yields_alternative`, `yields_compile`: from the bodies of groups up to a pattern;
* `length_of_piece`, `place_of_pieces`: how far parts go;
* `compile_by_places`: every text is compiled by places.
-/

import PatternNfa.Proofs.Pattern.Calls
import PatternNfa.Proofs.Pattern.Faults
import PatternNfa.Proofs.Pattern.Sequences

namespace PatternNfa

/-! ### Calls as they should be -/

/-- **A call as it should be**, under the calls that are under way. -/
structure Call.Proper (call : Call) (outer : List Call) : Prop where
  /-- There is a bound on the depth. -/
  shallow : outer.length < 10
  /-- A piece has a first character. -/
  piece_ne_nil : ∀ text, call = .piece text → text ≠ []
  /-- What a group has compiled is all that is between its parentheses, and is plain. -/
  body : ∀ text body more, outer = .group text :: more → call = .stretch body →
    ∃ close, 1 ≤ close ∧ close < text.length ∧ (text.take close).drop 1 = body ∧
      text[close]? = some ')' ∧ '(' ∉ body ∧ ')' ∉ body ∧ 'U' ∉ body
  /-- There are no alternatives and no groups inside of a group. -/
  flat : ∀ text, .group text ∈ outer →
    (∀ inner, call ≠ .alternatives inner) ∧ ∀ inner, call ≠ .group inner

namespace Call

variable {text : List Char} {outer : List Call}

theorem proper_sequence (shallow : outer.length < 10) : (sequence text).Proper outer := by
  constructor <;> simp [shallow]

theorem proper_literal (shallow : outer.length < 10) : (literal text).Proper outer := by
  constructor <;> simp [shallow]

theorem proper_piece (shallow : outer.length < 10) (nonempty : text ≠ []) :
    (piece text).Proper outer := by
  constructor <;> simp [shallow, nonempty]

/-- Where no group is under way, only the depth of a call matters, and that a piece is not nothing. -/
theorem proper_outside {call : Call} (shallow : outer.length < 10)
    (free : ∀ other, .group other ∉ outer) (nonempty : ∀ text, call = .piece text → text ≠ []) :
    call.Proper outer where
  shallow := shallow
  piece_ne_nil := nonempty
  body := by
    rintro other _ _ rfl
    exact absurd List.mem_cons_self (free other)
  flat := fun other inside => absurd inside (free other)

/-- A group has its body compiled. -/
theorem proper_body {body after : List Char} (shallow : outer.length + 1 < 10)
    (plain : ∀ c ∈ body, Pattern.isParenthesis c = false) (free : 'U' ∉ body) :
    (stretch body).Proper (.group ('(' :: (body ++ ')' :: after)) :: outer) where
  shallow := shallow
  piece_ne_nil := fun _ same => by cases same
  body := by
    intro text inner more under same
    cases under
    cases same
    refine ⟨body.length + 1, by simp, by simp, by simp, by simp, ?_, ?_, free⟩
    · exact fun inside => by cases plain _ inside
    · exact fun inside => by cases plain _ inside
  flat := fun _ _ => ⟨nofun, nofun⟩

end Call

namespace Compilation

open Pattern

variable {compileInner : List Call → List Char → Nat → Compilation (Option Automaton)}
  {outer : List Call} {c : Char} {text rest : List Char} {position limit : Nat}

/-! ### Parts as they are read -/

/-- A part that has been read, as it is compiled: its automaton and its length. -/
def ofPiece (read : Piece × List Char) : Automaton × Nat :=
  (read.1.machine, read.1.text.length)

/-- A stretch is compiled as it is read. -/
abbrev YieldsSegment (run : Compilation (Option Automaton)) (position : Nat) (text : List Char) :
    Prop :=
  run.Yields Call.Proper ((readSegment position text).map Segment.machine?)

/-- A piece is compiled as it is read. -/
abbrev YieldsPiece (run : Compilation (Automaton × Nat)) (position : Nat) (c : Char)
    (rest : List Char) : Prop :=
  run.Yields Call.Proper ((readPiece position c rest).map ofPiece)

/-! ### A piece -/

theorem yields_literal {cls : CharClass} (classified : CharClass.ofPatternChar? c = some cls)
    (shallow : outer.length < 10) :
    (literal cls outer (c :: rest)).Yields Call.Proper
      ((readLiteral position c rest).map fun read => ofPiece (.literal read.1, read.2)) := by
  obtain rfl := CharClass.ofPatternChar?_eq_some_iff.mp classified
  refine (yields_enter (Call.proper_literal shallow)).bind_ok ?_
  have next : (cls.patternChar :: rest)[1]? = rest.head? := List.head?_eq_getElem?.symm
  rw [next]
  by_cases star : rest.head? = some '*'
  · obtain ⟨more, rfl⟩ := List.head?_eq_some_iff.mp star
    rw [if_pos star, readLiteral_starred]
    exact yields_pure _
  · rw [if_neg star, readLiteral_unstarred position cls star]
    exact yields_pure _

/-- What the scan of a group passes over. -/
theorem find?_zipIdx_of_plain {body : List Char} (plain : ∀ c ∈ body, isParenthesis c = false)
    (first : Nat) : ((body.zipIdx first).find? fun found => isParenthesis found.1) = none := by
  refine List.find?_eq_none.mpr fun found listed => ?_
  rw [plain found.1 (List.fst_mem_of_mem_zipIdx listed)]
  exact Bool.false_ne_true

/-- The scan of a group stops at the first parenthesis. -/
theorem find?_parenthesis {body after : List Char} {parenthesis : Char}
    (plain : ∀ c ∈ body, isParenthesis c = false) (stops : isParenthesis parenthesis = true) :
    ((('(' :: (body ++ parenthesis :: after)).zipIdx.drop 1).find? fun found =>
      isParenthesis found.1) = some (parenthesis, body.length + 1) := by
  rw [List.zipIdx_cons, List.drop_one, List.tail_cons, List.zipIdx_append, List.find?_append,
    find?_zipIdx_of_plain plain]
  simp [stops, Nat.add_comm]

theorem yields_between_parentheses (body after : List Char) :
    (stretchBetween ('(' :: (body ++ ')' :: after)) 1 (body.length + 1)).Yields Call.Proper
      (.ok body) := by
  have written : (('(' :: (body ++ ')' :: after)).take (body.length + 1)).drop 1 = body := by simp
  have stretch : (stretchBetween ('(' :: (body ++ ')' :: after)) 1 (body.length + 1)).Yields
      Call.Proper (.ok _) := yields_stretchBetween (Nat.le_add_left 1 body.length) (by simp)
  rwa [written] at stretch

theorem getElem?_after_parenthesis (body after : List Char) :
    ('(' :: (body ++ ')' :: after))[body.length + 1 + 1]? = after.head? := by
  rw [List.getElem?_cons_succ, List.getElem?_append_right (Nat.le_succ _),
    Nat.succ_sub (Nat.le_refl _), Nat.sub_self, List.getElem?_cons_succ, List.head?_eq_getElem?]

/-- A group repeats what its literals are joined to. -/
theorem exists_machine_group (first : Literal) (others : List Literal) :
    ∃ machine, Segment.machine? ((first :: others).map .literal) = some machine ∧
      (Piece.group first others).machine = machine.star := by
  refine ⟨_, rfl, ?_⟩
  rw [Piece.machine, List.map_map, List.foldl_map]
  rfl

/-- The rest of a group, when its body is compiled as it is read. -/
theorem yields_closedGroup {body after : List Char} (opening : '(' ∉ body)
    (inner : (compileInner outer body (position + 1)).YieldsSegment (position + 1) body) :
    (closedGroup compileInner outer ('(' :: (body ++ ')' :: after)) position
        (body.length + 1)).Yields Call.Proper
      ((readBody position body after).map ofPiece) := by
  refine (yields_between_parentheses body after).bind_ok ?_
  have asLiterals := inner.of_map (readSegment_eq_readLiterals (position + 1) opening)
  cases read : readLiterals (position + 1) body with
  | error error =>
    rw [read] at asLiterals
    unfold readBody
    rw [read]
    exact asLiterals.bind_error
  | ok literals =>
    rw [read] at asLiterals
    cases literals with
    | nil =>
      unfold readBody
      rw [read]
      exact asLiterals.bind_ok (yields_done _)
    | cons first others =>
      have written : body = (first :: others).flatMap Literal.text := readLiterals_eq_ok_iff.mp read
      obtain ⟨machine, joined, repeated⟩ := exists_machine_group first others
      have compiled : (compileInner outer body (position + 1)).Yields Call.Proper
          (.ok (some machine)) := by
        rw [← joined]
        exact asLiterals
      refine compiled.bind_ok ?_
      dsimp only
      rw [getElem?_after_parenthesis]
      by_cases star : after.head? = some '*'
      · obtain ⟨more, rfl⟩ := List.head?_eq_some_iff.mp star
        have length : (Piece.group first others).text.length = body.length + 1 + 2 := by
          simp [Piece.text, written, Nat.add_assoc]
        have value : ofPiece (.group first others, more) = (machine.star, body.length + 1 + 2) := by
          rw [ofPiece, repeated, length]
        rw [if_pos star, readBody_eq_ok_iff.mpr ⟨first, others, rfl, written, rfl⟩, Except.map, value]
        exact yields_pure _
      · rw [if_neg star, readBody_unstarred read star]
        exact yields_done _

/-- **A group**, when its body is compiled as it is read. -/
theorem yields_group (shallow : outer.length < 10) (free : ∀ other, .group other ∉ outer)
    (inner : ∀ body after, rest = body ++ ')' :: after → (∀ c ∈ body, isParenthesis c = false) →
      (compileInner (.group ('(' :: rest) :: outer) body (position + 1)).YieldsSegment
        (position + 1) body) :
    (group compileInner outer ('(' :: rest) position).Yields Call.Proper
      ((readGroup position rest).map ofPiece) := by
  have proper : (Call.group ('(' :: rest)).Proper outer := Call.proper_outside shallow free nofun
  refine (yields_enter proper).bind_ok ?_
  rcases exists_parenthesis rest with plain | ⟨body, parenthesis, after, rfl, plain, rfl | rfl⟩
  · rw [readGroup_of_plain plain]
    have nothing : ((('(' :: rest).zipIdx.drop 1).find? fun found => isParenthesis found.1) = none :=
      find?_zipIdx_of_plain plain 1
    rw [nothing]
    exact yields_done _
  · rw [find?_parenthesis plain rfl, readGroup_nested plain, Nat.add_assoc position, Nat.add_comm 1]
    exact yields_done _
  · rw [find?_parenthesis plain rfl, readGroup_append plain]
    exact yields_closedGroup (fun inside => by cases plain _ inside) (inner body after rfl plain)

/-- **A piece**, when the body of a group is compiled as it is read. -/
theorem yields_piece (shallow : outer.length + 1 < 10)
    (free : c = '(' → ∀ other, .group other ∉ outer)
    (inner : c = '(' → ∀ body after, rest = body ++ ')' :: after →
      (∀ c ∈ body, isParenthesis c = false) →
      (compileInner (.group (c :: rest) :: .piece (c :: rest) :: outer) body
        (position + 1)).YieldsSegment (position + 1) body) :
    (piece compileInner outer (c :: rest) position).YieldsPiece position c rest := by
  have proper := Call.proper_piece (Nat.lt_of_succ_lt shallow) (List.cons_ne_nil c rest)
  refine (yields_enter proper).bind_ok ((yields_charAt List.getElem?_cons_zero).bind_ok ?_)
  unfold readPiece
  by_cases opening : c = '('
  · obtain rfl := opening
    rw [if_pos rfl, if_pos rfl]
    refine yields_group shallow (fun other => ?_) (inner rfl)
    simpa using free rfl other
  · rw [if_neg opening, if_neg opening]
    cases classified : CharClass.ofPatternChar? c with
    | none =>
      have refused : readLiteral position c rest = .error ⟨position, .unexpectedChar c⟩ := by
        unfold readLiteral
        rw [classified]
      rw [refused]
      exact yields_done _
    | some cls =>
      have compiled : (literal cls (.piece (c :: rest) :: outer) (c :: rest)).Yields Call.Proper
          ((readLiteral position c rest).map fun read => ofPiece (.literal read.1, read.2)) :=
        yields_literal classified shallow
      cases read : readLiteral position c rest <;> exact compiled.of_map read

/-! ### Pieces one after another -/

/-- **Pieces one after another**, when each of them is compiled as it is read. The last one ends where
the stretch ends. -/
theorem yields_pieces
    (each : ∀ place c rest, text.drop place = c :: rest →
      (piece compileInner outer (c :: rest) (position + place)).YieldsPiece (position + place)
        c rest)
    {rounds place : Nat} (inside : place ≤ text.length) (enough : text.length ≤ place + rounds)
    (joined : Option Automaton) :
    (pieces compileInner outer text position rounds place joined).Yields Call.Proper
      ((readSegment (position + place) (text.drop place)).map fun segment =>
        (text.length, (segment.map Piece.machine).foldl
          (fun joined machine => some (joined.elim machine (·.concatenate machine))) joined)) := by
  induction rounds generalizing place joined with
  | zero =>
    obtain rfl := Nat.le_antisymm inside enough
    rw [pieces, if_neg (Nat.lt_irrefl _), List.drop_length, readSegment]
    exact yields_pure _
  | succ rounds ih =>
    rw [pieces]
    by_cases more : place < text.length
    · rw [if_pos more]
      refine (yields_stretchFrom inside).bind_ok ?_
      obtain ⟨c, rest, cut⟩ :=
        List.exists_cons_of_ne_nil (mt List.drop_eq_nil_iff.mp (Nat.not_le.mpr more))
      have compiled := each place c rest cut
      rw [cut, readSegment_eq_bind]
      cases read : readPiece (position + place) c rest with
      | error error => exact (compiled.of_map read).bind_error
      | ok found =>
        obtain ⟨part, after⟩ := found
        have written : c :: rest = part.text ++ after := (readPiece_eq_ok_iff.mp read).1
        have later : text.drop (place + part.text.length) = after := by
          rw [← List.drop_drop, cut, written, List.drop_left]
        have some_text := List.length_pos_iff.mpr part.text_ne_nil
        have lengths : text.length - place = part.text.length + after.length := by
          rw [← List.length_drop, cut, written, List.length_append]
        have forward : place + part.text.length ≤ text.length := by omega
        have others := ih forward (by omega)
          (some (joined.elim part.machine (·.concatenate part.machine)))
        rw [later] at others
        refine (compiled.of_map read).bind_ok ?_
        show Yields _ _ (((readSegment (position + place + part.text.length) after).map
          (part :: ·)).map _)
        rw [Nat.add_assoc]
        cases rest : readSegment (position + (place + part.text.length)) after <;>
          exact others.of_map rest
    · obtain rfl := Nat.le_antisymm inside (Nat.not_lt.mp more)
      rw [if_neg more, List.drop_length, readSegment]
      exact yields_pure _

/-- **A sequence**, when each of its pieces is compiled as it is read. -/
theorem yields_sequence (shallow : outer.length < 10)
    (each : ∀ place c rest, text.drop place = c :: rest →
      (piece compileInner (.sequence text :: outer) (c :: rest) (position + place)).YieldsPiece
        (position + place) c rest) :
    (sequence compileInner outer text position).YieldsSegment position text := by
  have compiled := yields_pieces each (Nat.zero_le _) (Nat.le_add_left _ 0) none
  rw [List.drop_zero, Nat.add_zero] at compiled
  refine (yields_enter (Call.proper_sequence shallow)).bind_ok ?_
  cases read : readSegment position text with
  | error error => exact (compiled.of_map read).bind_error
  | ok segment =>
    refine (compiled.of_map read).bind_ok ?_
    dsimp only [Except.map]
    rw [Segment.machine?, Automaton.joinAll_eq_foldl]
    exact yields_pure _

/-- **A stretch without a `U`**, when each of its pieces is compiled as it is read. -/
theorem yields_stretch (proper : (Call.stretch text).Proper outer)
    (shallow : outer.length + 1 < 10) (free : 'U' ∉ text)
    (each : ∀ place c rest, text.drop place = c :: rest →
      (piece (stretch limit) (.sequence text :: .stretch text :: outer) (c :: rest)
        (position + place)).YieldsPiece (position + place) c rest) :
    (stretch (limit + 1) outer text position).YieldsSegment position text := by
  refine (yields_enter proper).bind_ok ?_
  dsimp only
  by_cases nothing : text = []
  · rw [if_pos nothing, nothing, readSegment]
    exact yields_pure _
  · rw [if_neg nothing, if_neg free]
    exact yields_sequence shallow each

/-! ### Bodies, alternatives, patterns -/

/-- **The body of a group.** There is no group in it. -/
theorem yields_body (proper : (Call.stretch text).Proper outer) (shallow : outer.length + 3 < 10)
    (plain : ∀ c ∈ text, isParenthesis c = false) (free : 'U' ∉ text) :
    (stretch (limit + 1) outer text position).YieldsSegment position text := by
  refine yields_stretch proper (by omega) free fun place c rest cut => ?_
  have notOpening : c ≠ '(' := by
    rintro rfl
    cases plain _ (List.mem_of_mem_drop (cut ▸ List.mem_cons_self))
  exact yields_piece shallow (fun opening => absurd opening notOpening)
    fun opening => absurd opening notOpening

/-- **An alternative.** Its groups have bodies without a `U`, since it has none itself. -/
theorem yields_alternative (shallow : outer.length ≤ 2) (free : ∀ other, .group other ∉ outer)
    (alone : 'U' ∉ text) :
    (stretch (limit + 2) outer text position).YieldsSegment position text := by
  have proper : (Call.stretch text).Proper outer := Call.proper_outside (by omega) free nofun
  refine yields_stretch proper (by omega) alone fun place c rest cut => ?_
  refine yields_piece (by simp; omega) (fun _ other => by simpa using free other) ?_
  rintro rfl body after rfl plain
  have inside : 'U' ∉ body := by
    intro member
    have listed : 'U' ∈ text.drop place := by
      rw [cut]
      exact List.mem_cons_of_mem _ (List.mem_append_left _ member)
    exact alone (List.mem_of_mem_drop listed)
  exact yields_body (Call.proper_body (by simp; omega) plain inside) (by simp; omega) plain inside

/-- **Alternatives one after another.** -/
theorem yields_alternatives {texts : List (List Char)} (shallow : outer.length ≤ 2)
    (free : ∀ other, .group other ∉ outer) (alone : ∀ text ∈ texts, 'U' ∉ text)
    (joined : Option Automaton) :
    (alternatives (stretch (limit + 2)) outer texts position joined).Yields Call.Proper
      ((readSegments position texts).map fun segments =>
        (segments.filterMap Segment.machine?).foldl
          (fun joined machine => some (joined.elim machine (·.union machine))) joined) := by
  induction texts generalizing position joined with
  | nil => exact yields_pure _
  | cons text texts ih =>
    have compiled : (stretch (limit + 2) outer text position).YieldsSegment position text :=
      yields_alternative shallow free (alone text List.mem_cons_self)
    rw [readSegments]
    cases read : readSegment position text with
    | error error => exact (compiled.of_map read).bind_error
    | ok segment =>
      refine (compiled.of_map read).bind_ok ?_
      have others := @ih (position + text.length + 1)
        (fun other listed => alone other (List.mem_cons_of_mem text listed))
        (joined.elim segment.machine? fun machine => some (machine.unionOption segment.machine?))
      cases rest : readSegments (position + text.length + 1) texts with
      | error error => exact others.of_map rest
      | ok segments =>
        rw [rest] at others
        dsimp only [Except.map] at others ⊢
        cases built : segment.machine? <;> cases joined <;>
          rw [built] at others <;> simpa [built, Automaton.unionOption] using others

/-- **A pattern** comes to what it is compiled to. -/
theorem yields_compile (source : String) (limit : Nat) :
    (stretch (limit + 3) [] source.toList 0).Yields Call.Proper (compile source) := by
  have free : ∀ other, Call.group other ∉ ([] : List Call) := fun _ => List.not_mem_nil
  by_cases several : 'U' ∈ source.toList
  · have proper : (Call.stretch source.toList).Proper [] :=
      Call.proper_outside (by simp) free nofun
    have inner : (Call.alternatives source.toList).Proper [.stretch source.toList] :=
      Call.proper_outside (by simp) (by simp) nofun
    refine (yields_enter proper).bind_ok ?_
    dsimp only
    rw [if_neg (List.ne_nil_of_mem several), if_pos several, compile_eq_map_readSegments]
    refine (yields_enter inner).bind_ok ?_
    simp only [Automaton.joinAll_eq_foldl]
    refine yields_alternatives (by simp) (by simp) (fun text listed member => ?_) none
    cases Text.not_separator_of_mem_fields listed member
  · rw [compile_of_not_mem several]
    exact yields_alternative (Nat.zero_le 2) free several

/-! ### Lengths -/

section Lengths

variable {machine : Automaton} {length : Nat}

theorem length_of_literal {cls : CharClass} (nonempty : text ≠ [])
    (compiled : (literal cls outer text).outcome = some (.ok (machine, length))) :
    1 ≤ length ∧ length ≤ text.length := by
  obtain ⟨_, _, compiled⟩ := outcome_bind_eq_ok compiled
  split at compiled
  · rename_i star
    obtain ⟨inside, _⟩ := List.getElem?_eq_some_iff.mp star
    cases compiled
    exact ⟨Nat.le_succ 1, inside⟩
  · cases compiled
    exact ⟨Nat.le_refl 1, List.length_pos_iff.mpr nonempty⟩

/-- A group goes on to the star. -/
theorem length_of_group
    (compiled : (group compileInner outer text position).outcome = some (.ok (machine, length))) :
    1 ≤ length ∧ length ≤ text.length := by
  obtain ⟨_, _, compiled⟩ := outcome_bind_eq_ok compiled
  split at compiled
  · cases compiled
  · cases compiled
  · obtain ⟨_, _, compiled⟩ := outcome_bind_eq_ok compiled
    obtain ⟨inner, _, compiled⟩ := outcome_bind_eq_ok compiled
    cases inner with
    | none => cases compiled
    | some machine =>
      dsimp only at compiled
      split at compiled
      · rename_i star
        obtain ⟨inside, _⟩ := List.getElem?_eq_some_iff.mp star
        cases compiled
        exact ⟨Nat.le_add_left 1 _, inside⟩
      · cases compiled

/-- **A piece is not nothing, and no more than there is.** -/
theorem length_of_piece
    (compiled : (piece compileInner outer text position).outcome = some (.ok (machine, length))) :
    1 ≤ length ∧ length ≤ text.length := by
  obtain ⟨_, _, compiled⟩ := outcome_bind_eq_ok compiled
  obtain ⟨c, front, compiled⟩ := outcome_bind_eq_ok compiled
  have nonempty : text ≠ [] := by
    rintro rfl
    cases front
  split at compiled
  · exact length_of_literal nonempty compiled
  · split at compiled
    · exact length_of_group compiled
    · cases compiled

/-- **The pieces end where the stretch ends.** -/
theorem place_of_pieces {rounds place last : Nat} {joined final : Option Automaton}
    (inside : place ≤ text.length)
    (compiled : (pieces compileInner outer text position rounds place joined).outcome =
      some (.ok (last, final))) : last = text.length := by
  induction rounds generalizing place joined with
  | zero =>
    rw [pieces] at compiled
    split at compiled
    · cases compiled
    · rename_i reached
      cases compiled
      exact Nat.le_antisymm inside (Nat.not_lt.mp reached)
  | succ rounds ih =>
    rw [pieces] at compiled
    split at compiled
    · obtain ⟨rest, cut, onwards⟩ := outcome_bind_eq_ok compiled
      rw [stretchFrom, if_pos inside] at cut
      cases cut
      obtain ⟨⟨machine, length⟩, found, others⟩ := outcome_bind_eq_ok onwards
      have lengths := (length_of_piece found).2
      rw [List.length_drop] at lengths
      exact ih (by omega) others
    · rename_i reached
      cases compiled
      exact Nat.le_antisymm inside (Nat.not_lt.mp reached)

end Lengths

end Compilation

/-- **Compiling by places never breaks off, and its calls are as they should be.** Every text comes to
what it is compiled to, so no place is asked for that is not there, and calls for a stretch do not nest
more than three times. No call is made under ten others; a piece has a first character; what a group has
compiled is what is between its parentheses, and there are no alternatives and no groups in it. A piece
that has been compiled is not nothing, and no more than there is; so the pieces of a stretch end where
the stretch ends. -/
theorem compile_by_places (source : String) (limit : Nat) :
    (Compilation.stretch (limit + 3) [] source.toList 0).outcome = some (compile source) ∧
      (∀ call outer,
        (call, outer) ∈ (Compilation.stretch (limit + 3) [] source.toList 0).calls →
        call.Proper outer) ∧
      (∀ compileInner outer text position machine length,
        (Compilation.piece compileInner outer text position).outcome =
          some (.ok (machine, length)) →
        1 ≤ length ∧ length ≤ text.length) ∧
      ∀ compileInner outer text position last joined,
        (Compilation.pieces compileInner outer text position text.length 0 none).outcome =
          some (.ok (last, joined)) →
        last = text.length := by
  obtain ⟨outcome, calls⟩ := Compilation.yields_compile source limit
  refine ⟨outcome, calls, fun _ _ _ _ _ _ compiled => ?_, fun _ _ _ _ _ _ compiled => ?_⟩
  · exact Compilation.length_of_piece compiled
  · exact Compilation.place_of_pieces (Nat.zero_le _) compiled

/-- In the pattern `(ad)*Ua` the literal `d` is compiled under nine other calls. The group takes five
characters, and the two pieces of `ad*` take three. -/
theorem compile_by_places_group :
    (Compilation.stretch 3 [] "(ad)*Ua".toList 0).outcome = some (compile "(ad)*Ua") ∧
      (∃ made ∈ (Compilation.stretch 3 [] "(ad)*Ua".toList 0).calls,
        made.1 = .literal ['d'] ∧ made.2.length = 9 ∧ made.1.Proper made.2) ∧
      (∃ machine, (Compilation.piece (Compilation.stretch 1) [] "(ad)*Ua".toList 0).outcome =
          some (.ok (machine, 5)) ∧
        1 ≤ 5 ∧ 5 ≤ "(ad)*Ua".toList.length) ∧
      ∃ last joined,
        (Compilation.pieces (Compilation.stretch 1) [] "ad*".toList 0 3 0 none).outcome =
          some (.ok (last, joined)) ∧
        last = 3 := by
  obtain ⟨outcome, calls, lengths, places⟩ := compile_by_places "(ad)*Ua" 0
  have deep : ∃ made ∈ (Compilation.stretch 3 [] "(ad)*Ua".toList 0).calls,
      made.1 = .literal ['d'] ∧ made.2.length = 9 := by decide
  obtain ⟨⟨call, outer⟩, listed, literal, depth⟩ := deep
  obtain ⟨machine, group⟩ : ∃ machine,
      (Compilation.piece (Compilation.stretch 1) [] "(ad)*Ua".toList 0).outcome =
        some (.ok (machine, 5)) := ⟨_, rfl⟩
  obtain ⟨last, joined, pieces⟩ : ∃ last joined,
      (Compilation.pieces (Compilation.stretch 1) [] "ad*".toList 0 3 0 none).outcome =
        some (.ok (last, joined)) := ⟨_, _, rfl⟩
  exact ⟨outcome, ⟨_, listed, literal, depth, calls call outer listed⟩,
    ⟨machine, group, lengths _ _ _ _ _ _ group⟩, ⟨last, joined, pieces, places _ _ _ _ _ _ pieces⟩⟩

end PatternNfa
