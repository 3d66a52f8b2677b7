import Mathlib
import Vernacular.Syntax.Lexer
/-!
# Trivia

What the scanner skips between tokens, as a language of its own (`Trivia`):
blanks, line comments running up to their newline or the end of the text, and
block comments closed by the first `*/` after their `/*`. The scanner's count
of skipped characters, `triviaLength`, skips exactly a prefix in this language
(`trivia_take_triviaLength`), and skips a whole text exactly when the text is
trivia (`trivia_iff_triviaLength`, `trivia_iff_drop_eq_nil`).
-/

set_option autoImplicit false

namespace Vernacular

/-- Text the scanner skips between tokens: blanks, line comments running to
the end of their line, and block comments closed by the first `*/` after their
`/*`. A line comment stops before its newline, which is a blank of its own. -/
inductive Trivia : List Char → Prop
  | nil : Trivia []
  | blank {c : Char} {rest : List Char} : isBlankChar c → Trivia rest → Trivia (c :: rest)
  | lastLine {body : List Char} : '\n' ∉ body → Trivia ('/' :: '/' :: body)
  | line {body rest : List Char} : '\n' ∉ body → Trivia ('\n' :: rest) →
      Trivia ('/' :: '/' :: (body ++ '\n' :: rest))
  | block {body rest : List Char} : ¬ ['*', '/'] <:+: body → Trivia rest →
      Trivia ('/' :: '*' :: (body ++ '*' :: '/' :: rest))

/-! ## Where a block comment closes -/

/-- `findCommentEnd` finds the first `*/`. -/
theorem findCommentEnd_eq_some {body : List Char} {at_ : Nat} (found : findCommentEnd body = some at_) :
    ∃ pre post, body = pre ++ '*' :: '/' :: post ∧ pre.length = at_ ∧ ¬ ['*', '/'] <:+: pre := by
  induction body using findCommentEnd.induct generalizing at_ with
  | case1 => simp [findCommentEnd] at found
  | case2 => simp [findCommentEnd] at found
  | case3 a b rest close =>
    simp only [Bool.and_eq_true, beq_iff_eq] at close
    obtain ⟨rfl, rfl⟩ := close
    simp only [findCommentEnd, beq_self_eq_true, Bool.and_self, if_true, Option.some.injEq] at found
    exact ⟨[], rest, rfl, found, by simp⟩
  | case4 a b rest open_ ih =>
    rw [findCommentEnd, if_neg open_] at found
    obtain ⟨at', found', rfl⟩ := Option.map_eq_some_iff.mp found
    obtain ⟨pre, post, split, length, clean⟩ := ih found'
    refine ⟨a :: pre, post, by rw [List.cons_append, ← split], by simp [length], ?_⟩
    rw [List.infix_cons_iff, not_or]
    refine ⟨fun leading => open_ ?_, clean⟩
    -- a `*/` at the head would have to be `a` followed by `b`
    obtain ⟨tail, whole⟩ := leading
    cases pre with
    | nil => simp at whole
    | cons p pre =>
      simp only [List.cons_append, List.cons.injEq] at whole split
      have first : a = '*' := whole.1.symm
      have second : b = '/' := split.1.trans whole.2.1.symm
      simp [first, second]

/-- A block comment whose body holds no `*/` closes at the first `*/` after it. -/
theorem findCommentEnd_append {body : List Char} (rest : List Char) (open_ : ¬ ['*', '/'] <:+: body) :
    findCommentEnd (body ++ '*' :: '/' :: rest) = some body.length := by
  induction body with
  | nil => simp [findCommentEnd]
  | cons a body ih =>
    have inner : ¬ ['*', '/'] <:+: body := fun h => open_ (h.trans (List.suffix_cons a body).isInfix)
    cases body with
    | nil =>
      simp [findCommentEnd]
    | cons b body =>
      have notClose : ¬ (a == '*' && b == '/') = true := by
        simp only [Bool.and_eq_true, beq_iff_eq]
        rintro ⟨rfl, rfl⟩
        exact open_ (List.infix_cons_iff.mpr (.inl ⟨body, rfl⟩))
      rw [List.cons_append, List.cons_append, findCommentEnd, if_neg notClose, ← List.cons_append,
        ih inner]
      simp

/-! ## The trivia the scanner skips -/

theorem triviaLength_blank {c : Char} (rest : List Char) (blank : isBlankChar c) :
    triviaLength (c :: rest) = triviaLength rest + 1 := by
  rw [triviaLength.eq_def]
  simp only [blank, if_true]

theorem triviaLength_line (body : List Char) :
    triviaLength ('/' :: '/' :: body) =
      let tail := body.dropWhile (· != '\n')
      (body.length - tail.length + 2) + triviaLength tail := by
  rw [triviaLength.eq_def]
  rfl

theorem triviaLength_block (body : List Char) :
    triviaLength ('/' :: '*' :: body) =
      match findCommentEnd body with
      | some at_ => at_ + 4 + triviaLength (body.drop (at_ + 2))
      | none => 0 := by
  rw [triviaLength.eq_def]
  rfl

/-- A line comment's body runs up to the first newline, or to the end. -/
theorem line_split (body : List Char) :
    ∃ pre, '\n' ∉ pre ∧ body = pre ++ body.dropWhile (· != '\n') ∧
      (body.dropWhile (· != '\n') = [] ∨ ∃ after, body.dropWhile (· != '\n') = '\n' :: after) := by
  induction body with
  | nil => exact ⟨[], by simp, rfl, .inl rfl⟩
  | cons x body ih =>
    by_cases newline : x = '\n'
    · subst newline
      exact ⟨[], by simp, by simp, .inr ⟨body, by simp⟩⟩
    · obtain ⟨pre, clean, split, ends⟩ := ih
      have skip : (x :: body).dropWhile (· != '\n') = body.dropWhile (· != '\n') :=
        List.dropWhile_cons_of_pos (by simpa using newline)
      rw [skip]
      refine ⟨x :: pre, ?_, by rw [List.cons_append, ← split], ends⟩
      simp [clean, Ne.symm newline]

/-- What the scanner skips is trivia. -/
theorem trivia_take_triviaLength (cs : List Char) : Trivia (cs.take (triviaLength cs)) := by
  induction cs using triviaLength.induct with
  | case1 =>
    rw [List.take_nil]
    exact .nil
  | case2 c rest blank ih =>
    rw [triviaLength_blank rest blank, List.take_succ_cons]
    exact .blank blank ih
  | case3 c notBlank slash body tail ih =>
    obtain rfl : c = '/' := by simpa using slash
    obtain ⟨pre, clean, split, ends⟩ := line_split body
    change body = pre ++ tail at split
    change tail = [] ∨ ∃ after, tail = '\n' :: after at ends
    rw [triviaLength_line]
    change Trivia (List.take (body.length - tail.length + 2 + triviaLength tail) ('/' :: '/' :: body))
    clear_value tail
    subst split
    rw [List.length_append, show pre.length + tail.length - tail.length + 2 + triviaLength tail =
      pre.length + triviaLength tail + 1 + 1 by omega, List.take_succ_cons, List.take_succ_cons,
      List.take_length_add_append]
    rcases ends with rfl | ⟨after, rfl⟩
    · rw [List.take_nil, List.append_nil]
      exact .lastLine clean
    · rw [triviaLength_blank after (by decide), List.take_succ_cons] at ih ⊢
      exact .line clean ih
  | case4 c notBlank slash body at_ found ih =>
    obtain rfl : c = '/' := by simpa using slash
    obtain ⟨pre, post, split, length, clean⟩ := findCommentEnd_eq_some found
    have after : body.drop (at_ + 2) = post := by
      rw [split, ← length]
      simp
    rw [triviaLength_block, found]
    dsimp only
    rw [after] at ih ⊢
    rw [show at_ + 4 + triviaLength post = pre.length + (triviaLength post + 1 + 1) + 1 + 1 by omega,
      List.take_succ_cons, List.take_succ_cons, split, List.take_length_add_append,
      List.take_succ_cons, List.take_succ_cons]
    exact .block clean ih
  | case5 c notBlank slash body missing =>
    obtain rfl : c = '/' := by simpa using slash
    rw [triviaLength_block, missing, List.take_zero]
    exact .nil
  | case6 c rest notBlank slash notLine notBlock =>
    rw [triviaLength.eq_def]
    simp only [notBlank, slash, Bool.false_eq_true, if_false, if_true, List.take_zero]
    exact .nil
  | case7 c rest notBlank notSlash =>
    rw [triviaLength.eq_def]
    simp only [notBlank, notSlash, Bool.false_eq_true, if_false, List.take_zero]
    exact .nil

/-- Trivia is skipped whole. -/
theorem triviaLength_of_trivia {cs : List Char} (trivia : Trivia cs) : triviaLength cs = cs.length := by
  induction trivia with
  | nil => simp [triviaLength]
  | blank blank _ ih => rw [triviaLength_blank _ blank, ih, List.length_cons]
  | @lastLine body clean =>
    have tail : body.dropWhile (· != '\n') = [] :=
      List.dropWhile_eq_nil_iff.mpr fun c mem => by simpa using ne_of_mem_of_not_mem mem clean
    rw [triviaLength_line]
    simp [tail, triviaLength]
  | @line body rest clean _ ih =>
    have tail : (body ++ '\n' :: rest).dropWhile (· != '\n') = '\n' :: rest := by
      rw [List.dropWhile_append_of_pos fun c mem => by simpa using ne_of_mem_of_not_mem mem clean]
      simp
    rw [triviaLength_line]
    simp only [tail, ih, List.length_cons, List.length_append]
    omega
  | @block body rest clean _ ih =>
    have after : (body ++ '*' :: '/' :: rest).drop (body.length + 2) = rest := by simp
    rw [triviaLength_block, findCommentEnd_append rest clean]
    show body.length + 4 + triviaLength ((body ++ '*' :: '/' :: rest).drop (body.length + 2)) = _
    rw [after, ih]
    simp only [List.length_cons, List.length_append]
    omega

/-- Text is trivia exactly when the scanner skips all of it. -/
theorem trivia_iff_triviaLength {cs : List Char} : Trivia cs ↔ triviaLength cs = cs.length := by
  constructor
  · exact triviaLength_of_trivia
  · intro whole
    have skipped := trivia_take_triviaLength cs
    rwa [whole, List.take_length] at skipped

/-- Text is trivia exactly when nothing is left after the skipped part. -/
theorem trivia_iff_drop_eq_nil {cs : List Char} : Trivia cs ↔ cs.drop (triviaLength cs) = [] := by
  constructor
  · intro trivia
    rw [triviaLength_of_trivia trivia, List.drop_length]
  · intro rest
    have skipped := trivia_take_triviaLength cs
    rwa [List.take_of_length_le (List.drop_eq_nil_iff.mp rest)] at skipped

end Vernacular
