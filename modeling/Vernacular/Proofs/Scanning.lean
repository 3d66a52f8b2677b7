import Mathlib
import Vernacular.Proofs.Validation
import Vernacular.Syntax.Parser
import Vernacular.Syntax.Printer
/-!
# Scanning

The scanner's two loops, `triviaLength` and `Lexicon.scanFrom`, recurse on the
length of the remaining text. Each has a twin that recurses on a bound of that
length instead (`triviaLengthWithin`, `Lexicon.scanWithin`); the twins are equal
to the originals for every bound past the length, and the kernel can evaluate
them. Together with the insertion-sort form of `Dialect.symbols` this gives a
form of `Program.parse` that evaluates on concrete sources.
-/

set_option autoImplicit false

namespace Vernacular

/-- The scanner's symbols, longest first and stable: insertion sort by length. -/
theorem Dialect.symbols_eq_insertionSort (d : Dialect) :
    d.symbols = (Role.symbolOrder.map fun role =>
      ({ spelling := d.spelling role, role,
         isWord := ((d.spelling role).toList.head?.map isLetterChar).getD false } : Symbol)).insertionSort
      (fun a b => b.spelling.utf8ByteSize ≤ a.spelling.utf8ByteSize) := by
  rw [Dialect.symbols]
  exact mergeSort_eq_insertionSort_of_total
    (fun a b : Symbol => b.spelling.utf8ByteSize ≤ a.spelling.utf8ByteSize)
    (fun _ _ _ first second => Nat.le_trans second first) (fun a b => Nat.le_total _ _) _

/-! ## Structural twins of the scanner -/

/-- `triviaLength` with a bound on the length of the text. -/
def triviaLengthWithin : Nat → List Char → Nat
  | 0, _ => 0
  | _ + 1, [] => 0
  | n + 1, c :: rest =>
    if isBlankChar c then triviaLengthWithin n rest + 1
    else if c == '/' then
      match rest with
      | '/' :: body =>
        let tail := body.dropWhile (· != '\n')
        (body.length - tail.length + 2) + triviaLengthWithin n tail
      | '*' :: body =>
        match findCommentEnd body with
        | some at_ => at_ + 4 + triviaLengthWithin n (body.drop (at_ + 2))
        | none => 0
      | _ => 0
    else 0

theorem triviaLength_eq_within (cs : List Char) (n : Nat) (bound : cs.length < n) :
    triviaLength cs = triviaLengthWithin n cs := by
  induction cs using triviaLength.induct generalizing n with
  | case1 => cases n <;> simp [triviaLength.eq_def, triviaLengthWithin]
  | case2 c rest blank ih =>
    obtain ⟨n, rfl⟩ : ∃ m, n = m + 1 := ⟨n - 1, by simp at bound; omega⟩
    rw [triviaLength.eq_def, triviaLengthWithin.eq_def]
    simp only [blank, if_true, ih n (by simpa using bound)]
  | case3 c notBlank slash body tail ih =>
    obtain ⟨n, rfl⟩ : ∃ m, n = m + 1 := ⟨n - 1, by simp at bound; omega⟩
    rw [triviaLength.eq_def, triviaLengthWithin.eq_def]
    have shorter := (List.dropWhile_suffix (· != '\n') : body.dropWhile _ <:+ body).length_le
    have step : triviaLength tail = triviaLengthWithin n tail := ih n (by simp [tail] at bound ⊢; omega)
    simp only [notBlank, slash, Bool.false_eq_true, if_false, if_true]
    exact congrArg _ step
  | case4 c notBlank slash body at_ found ih =>
    obtain ⟨n, rfl⟩ : ∃ m, n = m + 1 := ⟨n - 1, by simp at bound; omega⟩
    rw [triviaLength.eq_def, triviaLengthWithin.eq_def]
    simp only [notBlank, slash, Bool.false_eq_true, if_false, if_true, found, ih n (by simp at bound ⊢; omega)]
  | case5 c notBlank slash body missing =>
    obtain ⟨n, rfl⟩ : ∃ m, n = m + 1 := ⟨n - 1, by simp at bound; omega⟩
    rw [triviaLength.eq_def, triviaLengthWithin.eq_def]
    simp only [notBlank, slash, Bool.false_eq_true, if_false, if_true, missing]
  | case6 c rest notBlank slash notLine notBlock =>
    obtain ⟨n, rfl⟩ : ∃ m, n = m + 1 := ⟨n - 1, by simp at bound; omega⟩
    rw [triviaLength.eq_def, triviaLengthWithin.eq_def]
    simp only [notBlank, slash, Bool.false_eq_true, if_false, if_true]
  | case7 c rest notBlank notSlash =>
    obtain ⟨n, rfl⟩ : ∃ m, n = m + 1 := ⟨n - 1, by simp at bound; omega⟩
    rw [triviaLength.eq_def, triviaLengthWithin.eq_def]
    simp only [notBlank, notSlash, Bool.false_eq_true, if_false]

/-- `Lexicon.scanFrom` with a bound on the length of the text. -/
def Lexicon.scanWithin (lex : Lexicon) : Nat → List Char → Nat → Bool → Array Token → Scan
  | 0, _, _, _, done => ⟨done.toList, none⟩
  | n + 1, cs, offset, afterDot, done =>
    let skipped := triviaLengthWithin (cs.length + 1) cs
    let start := offset + byteLength (cs.take skipped)
    match cs.drop skipped with
    | [] => ⟨(done.push ⟨.endOfInput, "EOF", start, start⟩).toList, none⟩
    | c :: rest =>
      match lex.lexeme afterDot c rest with
      | none => ⟨done.toList, some ⟨start, c⟩⟩
      | some lexeme =>
        let stop := start + byteLength ((c :: rest).take lexeme.width)
        let token : Token := ⟨lexeme.kind, String.ofList lexeme.payload, start, stop⟩
        lex.scanWithin n ((c :: rest).drop lexeme.width) stop (lexeme.kind == .dot) (done.push token)

theorem Role.tokenKind_ne_endOfInput (role : Role) : role.tokenKind ≠ .endOfInput := by
  cases role <;> decide

/-- Every lexeme is a token other than the end of input. -/
theorem Lexicon.lexeme_kind_ne_endOfInput (lex : Lexicon) {afterDot : Bool} {c : Char}
    {rest : List Char} {lexeme : Lexeme} (read : lex.lexeme afterDot c rest = some lexeme) :
    lexeme.kind ≠ .endOfInput := by
  unfold Lexicon.lexeme at read
  dsimp only at read
  split at read
  · split at read
    · cases read
      exact Role.tokenKind_ne_endOfInput _
    · cases read
  · split at read
    · cases read
      simp
    · split at read
      · cases read
        cases keyword : lex.dialect.keywordKind? _ with
        | none => simp
        | some kind =>
          obtain ⟨role, -, rfl⟩ := Option.map_eq_some_iff.mp keyword
          simpa using Role.tokenKind_ne_endOfInput role
      · split at read
        · split at read
          · cases read
            simp
          · cases read
        · cases read

namespace Lexicon

variable (lex : Lexicon)

/-- A call at trivia up to the end reads the end of input. -/
theorem next_of_trivia_end (cur : Cursor) (cut : cur.rest.drop (triviaLength cur.rest) = []) :
    lex.next cur =
      let start := cur.offset + byteLength (cur.rest.take (triviaLength cur.rest))
      (.ok ⟨.endOfInput, "EOF", start, start⟩, ⟨[], start, false⟩) := by
  simp only [Lexicon.next, cut]

/-- A call at a character no lexeme starts with reports it and stays on it. -/
theorem next_of_unreadable (cur : Cursor) {c : Char} {rest : List Char}
    (cut : cur.rest.drop (triviaLength cur.rest) = c :: rest)
    (unreadable : lex.lexeme cur.afterDot c rest = none) :
    lex.next cur =
      let start := cur.offset + byteLength (cur.rest.take (triviaLength cur.rest))
      (.error ⟨start, c⟩, ⟨c :: rest, start, cur.afterDot⟩) := by
  simp only [Lexicon.next, cut, unreadable]

/-- A call at a lexeme reads it as a token and moves past it. -/
theorem next_of_lexeme (cur : Cursor) {c : Char} {rest : List Char} {lexeme : Lexeme}
    (cut : cur.rest.drop (triviaLength cur.rest) = c :: rest)
    (readable : lex.lexeme cur.afterDot c rest = some lexeme) :
    lex.next cur =
      let start := cur.offset + byteLength (cur.rest.take (triviaLength cur.rest))
      let stop := start + byteLength ((c :: rest).take lexeme.width)
      (.ok ⟨lexeme.kind, String.ofList lexeme.payload, start, stop⟩,
        ⟨(c :: rest).drop lexeme.width, stop, lexeme.kind == .dot⟩) := by
  simp only [Lexicon.next, cut, readable]

/-- One call of the scanner, then the rest of the scan. -/
theorem scanFrom_eq_step (cur : Cursor) (done : Array Token) :
    lex.scanFrom cur done =
      match lex.next cur with
      | (.error fault, _) => ⟨done.toList, some fault⟩
      | (.ok token, after) =>
        if token.kind = .endOfInput then ⟨(done.push token).toList, none⟩
        else lex.scanFrom after (done.push token) := by
  rw [Lexicon.scanFrom]
  split <;> simp_all

end Lexicon

theorem Lexicon.scanFrom_eq_within (lex : Lexicon) (cs : List Char) (offset : Nat) (afterDot : Bool)
    (done : Array Token) (n : Nat) (bound : cs.length < n) :
    lex.scanFrom ⟨cs, offset, afterDot⟩ done = lex.scanWithin n cs offset afterDot done := by
  induction n generalizing cs offset afterDot done with
  | zero => omega
  | succ n ih =>
    rw [Lexicon.scanFrom_eq_step, Lexicon.scanWithin, ← triviaLength_eq_within cs _ (Nat.lt_succ_self _)]
    dsimp only
    -- the three outcomes of the call: end of input, an unreadable character, a lexeme
    match cut : cs.drop (triviaLength cs) with
    | [] => simp only [lex.next_of_trivia_end ⟨cs, offset, afterDot⟩ cut, if_pos]
    | c :: rest =>
      match readable : lex.lexeme afterDot c rest with
      | none => simp only [lex.next_of_unreadable ⟨cs, offset, afterDot⟩ cut readable, readable]
      | some lexeme =>
        have shorter : ((c :: rest).drop lexeme.width).length < n := by
          have whole : (cs.drop (triviaLength cs)).length = rest.length + 1 := by
            rw [cut]; rfl
          have := lexeme.positive
          simp only [List.length_drop, List.length_cons] at whole ⊢
          omega
        have notLast := lex.lexeme_kind_ne_endOfInput readable
        simp only [lex.next_of_lexeme ⟨cs, offset, afterDot⟩ cut readable, readable, if_neg notLast]
        exact ih _ _ _ _ shorter

theorem Lexicon.scan_eq_within (lex : Lexicon) (source : String) :
    lex.scan source = lex.scanWithin (source.toList.length + 1) source.toList 0 false #[] :=
  lex.scanFrom_eq_within _ _ _ _ _ (Nat.lt_succ_self _)

/-- `Program.parse` with the kernel-reducible scanner and symbol order. -/
theorem Program.parse_eq_within (d : Dialect) (source : String) :
    Program.parse d source =
      let lex : Lexicon := ⟨(Role.symbolOrder.map fun role =>
        ({ spelling := d.spelling role, role,
           isWord := ((d.spelling role).toList.head?.map isLetterChar).getD false } : Symbol)).insertionSort
        (fun a b => b.spelling.utf8ByteSize ≤ a.spelling.utf8ByteSize), d⟩
      let scan := lex.scanWithin (source.toList.length + 1) source.toList 0 false #[]
      let stream : Stream := ⟨source.toList, scan.tokens.toArray, scan.fault, d⟩
      if scan.tokens.isEmpty then
        match scan.fault with
        | some fault => .error (.error (fault.toParseError source.toList))
        | none => .ok ⟨[]⟩
      else
        match (Parser.statements stream.fuel).run stream |>.run 0 with
        | .ok (body, _) => .ok ⟨body⟩
        | .error e => .error e := by
  unfold Program.parse
  -- `rewrite`, not `rw`: the closing `rfl` must unfold past reducible
  -- transparency, and `rw`'s own attempt succeeds or not depending on the
  -- instances in scope
  rewrite [Lexicon.scan_eq_within, Dialect.lexicon, Dialect.symbols_eq_insertionSort]
  rfl

/-- An object literal statement prints without the parentheses that keep it
apart from a block, so its printed form reads back as an empty block followed
by an empty statement. -/
theorem printed_object_statement_reads_as_block :
    Program.parse Builtin.myriadSpec.spelled "({});" = .ok ⟨[.expr (.object [])]⟩ ∧
      (Program.mk [.expr (.object [])]).render = "{};" ∧
      Program.parse Builtin.myriadSpec.spelled "{};" = .ok ⟨[.block [], .empty]⟩ := by
  refine ⟨?_, ?_, ?_⟩
  · rw [Program.parse_eq_within]; rfl
  · simp [Program.render, Stmt.renderLines, Stmt.render, Expr.render]
  · rw [Program.parse_eq_within]; rfl

/-- The myriad dialect with its comma spelled `//`, the opening of a line comment. -/
def slashCommaSpec : DialectSpec :=
  { Builtin.myriadSpec with
    name := "slashy", extension := ".slashy"
    specials := [("comma", "//"), ("colon", ":"), ("dot", "."), ("semiColon", ";")] }

/-- A valid dialect may spell a symbol as the opening of a comment: with the
comma spelled `//`, the call `f(a, b);` of myriad renders as `f ( a // b ) ;`,
where the comma opens a comment that runs to the end of the source. -/
theorem comment_spelling_swallows_rendering :
    slashCommaSpec.validate = .ok slashCommaSpec.spelled ∧
    Program.parse Builtin.myriadSpec.spelled "f(a, b);" =
      .ok ⟨[.expr (.call (.ident "f") [.ident "a", .ident "b"])]⟩ ∧
    (Program.parse slashCommaSpec.spelled "f ( a // b ) ;").toOption = none := by
  refine ⟨?_, ?_, ?_⟩
  · refine DialectSpec.validate_eq_ok_iff.mpr ⟨?_, by decide, rfl⟩
    have known : ∀ table, slashCommaSpec.unknownKey table = none := by
      intro table
      cases table <;> (rw [DialectSpec.unknownKey_eq_insertionSort]; rfl)
    simp only [RoleTable.all, DialectSpec.checkTables, known]
    rfl
  · rw [Program.parse_eq_within]; rfl
  · rw [Program.parse_eq_within]; rfl

end Vernacular
