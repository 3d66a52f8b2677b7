import Mathlib
import Vernacular.Proofs.Tiling
/-!
# Reserved words

`Dialect.reserved` says which words a dialect spells: its keywords and its
word symbols, the symbols whose spelling starts with a letter. The source form
of a value writes an object key bare when the key is a word that does not
start with a digit and is not reserved, and counts on the scanner to read such
a key back as one identifier.

The scanner tries the symbols before it reads a word, and a symbol whose
spelling does not start with a letter matches as a prefix, also inside a word.
A word may start with an underscore, and so may such a symbol.

Main statement (`Dialect.scan_word`): a word that does not start with a digit,
and that no symbol starts as a prefix, scans as one token followed by the end
of input; the token is an identifier exactly when the word is not reserved,
and otherwise has the kind of a role the dialect spells with the word. The
proviso is needed: a valid dialect that spells its `not` operator `_` does not
reserve `_p`, yet scans it as that operator followed by the identifier `p`
(`underscore_operator_splits_word`).
-/

set_option autoImplicit false

namespace Vernacular

/-! ## Word characters -/

/-- A word character is no blank. -/
theorem isBlankChar_of_isWordChar {c : Char} (word : isWordChar c = true) : isBlankChar c = false := by
  by_contra blank
  simp only [Bool.not_eq_false, isBlankChar, Bool.or_eq_true, beq_iff_eq] at blank
  rcases blank with ((((same | same) | same) | same) | same) | same <;>
    subst same <;> exact absurd word (by decide)

/-- A word character opens no comment. -/
theorem ne_slash_of_isWordChar {c : Char} (word : isWordChar c = true) : c ≠ '/' := by
  rintro rfl
  exact absurd word (by decide)

/-- A word character takes one byte. -/
theorem utf8Size_of_isWordChar {c : Char} (word : isWordChar c = true) : c.utf8Size = 1 := by
  have ascii : c.val ≤ 127 := by
    simp only [isWordChar, isLetterChar, isDigitChar, Bool.or_eq_true, Bool.and_eq_true,
      decide_eq_true_eq, beq_iff_eq] at word
    rcases word with ((⟨_, upper⟩ | ⟨_, upper⟩) | ⟨_, upper⟩) | rfl
    all_goals first
      | exact UInt32.le_trans (Char.le_def.mp upper) (by decide)
      | decide
  simp [Char.utf8Size, ascii]

/-- Text made of word characters has one byte per character. -/
theorem byteLength_of_words {cs : List Char} (words : ∀ c ∈ cs, isWordChar c = true) :
    byteLength cs = cs.length := by
  rw [byteLength, foldl_utf8Size, Nat.zero_add]
  induction cs with
  | nil => rfl
  | cons c cs ih =>
    have rest := ih fun x mem => words x (List.mem_cons_of_mem c mem)
    simp only [Utf8.encode, List.flatMap_cons, List.length_append, Utf8.encodeChar,
      String.length_utf8EncodeChar, utf8Size_of_isWordChar (words c List.mem_cons_self),
      List.length_cons] at rest ⊢
    omega

/-- Text that starts with a word character starts with no trivia. -/
theorem triviaLength_of_isWordChar {c : Char} (rest : List Char) (word : isWordChar c = true) :
    triviaLength (c :: rest) = 0 := by
  rw [triviaLength.eq_def]
  simp only [isBlankChar_of_isWordChar word, ne_slash_of_isWordChar word, Bool.false_eq_true,
    if_false, beq_iff_eq]

/-! ## The token of a word -/

namespace Lexicon

variable (lex : Lexicon)

/-- The kind of token a whole word reads as when no symbol starts it: the
word symbol it spells, else the keyword it spells, else an identifier. -/
def wordKind (w : List Char) : TokenKind :=
  match lex.symbols.find? (fun sym => sym.isWord && w == sym.spelling.toList) with
  | some sym => sym.role.tokenKind
  | none => (lex.dialect.keywordKind? (String.ofList w)).getD .identifier

/-- A word that starts with no digit and with no symbol reads as one lexeme:
the whole word, of its word kind. -/
theorem lexeme_word (afterDot : Bool) {c : Char} {rest : List Char}
    (words : ∀ x ∈ c :: rest, isWordChar x = true) (notDigit : isDigitChar c = false)
    (apart : ∀ sym ∈ lex.symbols, sym.isWord = false → ¬ sym.spelling.toList <+: c :: rest) :
    ∃ lexeme, lex.lexeme afterDot c rest = some lexeme ∧ lexeme.payload = c :: rest ∧
      lexeme.width = rest.length + 1 ∧ lexeme.kind = lex.wordKind (c :: rest) := by
  have whole : (c :: rest).takeWhile isWordChar = c :: rest := List.takeWhile_eq_self_iff.mpr words
  -- a symbol that fits is a word symbol spelled by the whole word
  have fits : ∀ sym ∈ lex.symbols,
      (if sym.isWord then (c :: rest).takeWhile isWordChar == sym.spelling.toList
       else !sym.spelling.isEmpty && sym.spelling.toList.isPrefixOf (c :: rest)) =
      (sym.isWord && (c :: rest) == sym.spelling.toList) := by
    intro sym mem
    cases word : sym.isWord
    case true => simp [whole]
    case false =>
      have outside := apart sym mem word
      simp only [Bool.false_eq_true, if_false, Bool.false_and, Bool.and_eq_false_iff]
      exact .inr (Bool.eq_false_iff.mpr fun starts => outside (List.isPrefixOf_iff_prefix.mp starts))
  have wordChar : isWordChar c = true := words c List.mem_cons_self
  unfold lexeme
  simp only [wordChar, if_true]
  rw [List.find?_congr fits]
  cases found : lex.symbols.find? (fun sym => sym.isWord && (c :: rest) == sym.spelling.toList) with
  | some sym =>
    -- the word symbol spelled by the whole word
    have spelled : sym.spelling.toList = c :: rest := by
      have holds := List.find?_some found
      simp only [Bool.and_eq_true, beq_iff_eq] at holds
      exact holds.2.symm
    have positive : 0 < sym.spelling.toList.length := by simp [spelled]
    simp only [dif_pos positive]
    exact ⟨_, rfl, spelled, by simp [spelled], by simp only [wordKind, found]⟩
  | none =>
    -- no word symbol: a keyword or an identifier
    simp only [notDigit, Bool.false_eq_true, ↓reduceDIte]
    exact ⟨_, rfl, whole, by simp [whole], by simp only [wordKind, found, whole]⟩

/-- Text that is one lexeme after no trivia scans as that token and the end of input. -/
theorem scan_single (source : String) {c : Char} {rest : List Char} {lexeme : Lexeme}
    (text : source.toList = c :: rest) (noTrivia : triviaLength (c :: rest) = 0)
    (read : lex.lexeme false c rest = some lexeme) (whole : lexeme.width = rest.length + 1) :
    lex.scan source =
      ⟨[⟨lexeme.kind, String.ofList lexeme.payload, 0, byteLength (c :: rest)⟩,
        ⟨.endOfInput, "EOF", byteLength (c :: rest), byteLength (c :: rest)⟩], none⟩ := by
  have cut : (c :: rest).drop (triviaLength (c :: rest)) = c :: rest := by rw [noTrivia]; rfl
  have taken : (c :: rest).take lexeme.width = c :: rest := by simp [whole]
  have dropped : (c :: rest).drop lexeme.width = [] := by simp [whole]
  have empty : byteLength [] = 0 := rfl
  have first := lex.next_of_lexeme ⟨c :: rest, 0, false⟩ cut read
  have last := lex.next_of_trivia_end ⟨[], byteLength (c :: rest), lexeme.kind == .dot⟩ List.drop_nil
  simp only [noTrivia, List.take_zero, taken, dropped, empty, Nat.zero_add] at first
  simp only [List.take_nil, empty, Nat.add_zero] at last
  rw [scan, text, scanFrom_eq_step, first]
  -- the token read is not the end of input, so the scan calls once more, at the end
  simp only [if_neg (lex.lexeme_kind_ne_endOfInput read)]
  rw [scanFrom_eq_step, last]
  rfl

end Lexicon

/-! ## Reserved words and the kind of their token -/

theorem Role.tokenKind_ne_identifier (role : Role) : role.tokenKind ≠ .identifier := by
  cases role <;> decide

namespace Dialect

variable (d : Dialect)

/-- Each symbol of a dialect spells its role. -/
theorem spelling_of_mem_symbols {sym : Symbol} (mem : sym ∈ d.symbols) :
    sym.spelling = d.spelling sym.role := by
  unfold symbols at mem
  obtain ⟨role, -, rfl⟩ := List.mem_map.mp (List.mem_mergeSort.mp mem)
  rfl

/-- A word that no symbol starts reads as an identifier when it is not
reserved, and otherwise as a role the dialect spells with it. -/
theorem wordKind_classifies (w : String) :
    (d.reserved w = false ∧ d.lexicon.wordKind w.toList = .identifier) ∨
      (d.reserved w = true ∧ ∃ role, d.spelling role = w ∧ d.lexicon.wordKind w.toList = role.tokenKind) := by
  simp only [reserved, Lexicon.wordKind, lexicon, String.ofList_toList]
  cases found : d.symbols.find? (fun sym => sym.isWord && w.toList == sym.spelling.toList) with
  | some sym =>
    -- the first word symbol spelled by the word
    have holds := List.find?_some found
    have mem := List.mem_of_find?_eq_some found
    simp only [Bool.and_eq_true, beq_iff_eq, String.toList_inj] at holds
    refine .inr ⟨?_, sym.role, ?_, rfl⟩
    · simp only [Bool.or_eq_true, List.any_eq_true, Bool.and_eq_true, beq_iff_eq]
      exact .inr ⟨sym, mem, holds.1, holds.2.symm⟩
    · rw [← spelling_of_mem_symbols d mem, holds.2]
  | none =>
    have noWord : d.symbols.any (fun sym => sym.isWord && sym.spelling == w) = false := by
      refine List.any_eq_false.mpr fun sym mem spelled => ?_
      have missed := List.find?_eq_none.mp found sym mem
      simp only [Bool.and_eq_true, beq_iff_eq] at spelled missed
      exact missed ⟨spelled.1, congrArg String.toList spelled.2.symm⟩
    cases keyword : d.keywordKind? w with
    | none => exact .inl ⟨by simp [noWord], rfl⟩
    | some kind =>
      -- a keyword spelled by the word
      obtain ⟨role, spells, rfl⟩ := Option.map_eq_some_iff.mp keyword
      have holds := List.find?_some spells
      simp only [beq_iff_eq] at holds
      exact .inr ⟨by simp, role, holds, rfl⟩

/-- A word that does not start with a digit, and that no symbol of the
dialect starts as a prefix, scans as one token and the end of input. The
token is an identifier exactly when the word is not reserved; a reserved word
scans as a role the dialect spells with it. -/
theorem scan_word (w : String) (word : isWord w = true)
    (notDigit : ∀ c ∈ w.toList.head?, isDigitChar c = false)
    (apart : ∀ sym ∈ d.symbols, sym.isWord = false → ¬ sym.spelling.toList <+: w.toList) :
    ∃ kind, d.lexicon.scan w =
        ⟨[⟨kind, w, 0, w.length⟩, ⟨.endOfInput, "EOF", w.length, w.length⟩], none⟩ ∧
      (d.reserved w = false ↔ kind = .identifier) ∧
      (d.reserved w = true → ∃ role, d.spelling role = w ∧ kind = role.tokenKind) := by
  have nonempty : w.toList ≠ [] := by
    simp only [isWord, Bool.and_eq_true, Bool.not_eq_true'] at word
    simpa using word.1
  have words : ∀ c ∈ w.toList, isWordChar c = true := by
    simp only [isWord, Bool.and_eq_true, List.all_eq_true] at word
    exact word.2
  obtain ⟨c, rest, text⟩ := List.exists_cons_of_ne_nil nonempty
  rw [text] at words apart notDigit
  obtain ⟨lexeme, read, payload, width, kind⟩ :=
    d.lexicon.lexeme_word false words (notDigit c rfl) apart
  have scanned := d.lexicon.scan_single w text
    (triviaLength_of_isWordChar rest (words c List.mem_cons_self)) read width
  rw [payload, byteLength_of_words words, ← text, String.ofList_toList, String.length_toList] at scanned
  refine ⟨lexeme.kind, scanned, ?_⟩
  rw [kind, ← text]
  rcases d.wordKind_classifies w with ⟨unreserved, identifier⟩ | ⟨reserved, role, spells, same⟩
  · simp [unreserved, identifier]
  · exact ⟨by simp [reserved, same, Role.tokenKind_ne_identifier], fun _ => ⟨role, spells, same⟩⟩

/-- The myriad keyword `while` scans alone, as the keyword. -/
theorem myriad_keyword_scans_alone :
    (∀ sym ∈ Builtin.myriadSpec.spelled.symbols, sym.isWord = false → ¬ sym.spelling.toList <+: "while".toList) ∧
    ∃ kind, Builtin.myriadSpec.spelled.lexicon.scan "while" =
        ⟨[⟨kind, "while", 0, "while".length⟩, ⟨.endOfInput, "EOF", "while".length, "while".length⟩], none⟩ ∧
      (Builtin.myriadSpec.spelled.reserved "while" = false ↔ kind = .identifier) ∧
      (Builtin.myriadSpec.spelled.reserved "while" = true →
        ∃ role, Builtin.myriadSpec.spelled.spelling role = "while" ∧ kind = role.tokenKind) :=
  have apart : ∀ sym ∈ Builtin.myriadSpec.spelled.symbols, sym.isWord = false →
      ¬ sym.spelling.toList <+: "while".toList := by
    intro sym mem
    obtain ⟨role, listed, rfl⟩ := List.mem_map.mp (List.mem_mergeSort.mp mem)
    clear mem
    rintro -
    rw [show "while".toList = ['w', 'h', 'i', 'l', 'e'] by simp]
    revert role
    decide +kernel
  ⟨apart, scan_word _ "while" (by decide) (by simp [isDigitChar]) apart⟩

end Dialect

/-- The myriad dialect with its `not` operator spelled `_`. -/
def underscoreNotSpec : DialectSpec :=
  { Builtin.myriadSpec with
    name := "under", extension := ".under"
    operators :=
      [("lessOrEqual", "<="), ("greatOrEqual", ">="), ("great", ">"), ("less", "<"),
       ("plus", "+"), ("minus", "-"), ("mul", "*"), ("div", "/"),
       ("equal", "="), ("equalEqual", "=="), ("notEqual", "!="), ("plusEqual", "+="),
       ("minusEqual", "-="), ("mulEqual", "*="), ("divEqual", "/="), ("plusPlus", "++"),
       ("minusMinus", "--"), ("andAnd", "&&"), ("orOr", "||"), ("not", "_")] }

/-- A valid dialect may spell a symbol with a leading underscore, and such a
symbol starts words: `_p` is not reserved, yet it scans as the `not` operator
followed by the identifier `p`. -/
theorem underscore_operator_splits_word :
    underscoreNotSpec.validate = .ok underscoreNotSpec.spelled ∧
    underscoreNotSpec.spelled.reserved "_p" = false ∧
    underscoreNotSpec.spelled.lexicon.scan "_p" =
      ⟨[⟨.logicalNot, "_", 0, 1⟩, ⟨.identifier, "p", 1, 2⟩, ⟨.endOfInput, "EOF", 2, 2⟩], none⟩ := by
  refine ⟨?_, ?_, ?_⟩
  · refine DialectSpec.validate_eq_ok_iff.mpr ⟨?_, by decide, rfl⟩
    have known : ∀ table, underscoreNotSpec.unknownKey table = none := by
      intro table
      cases table <;> (rw [DialectSpec.unknownKey_eq_insertionSort]; rfl)
    simp only [RoleTable.all, DialectSpec.checkTables, known]
    rfl
  · rw [Dialect.reserved, Dialect.symbols_eq_insertionSort]
    rfl
  · rw [Lexicon.scan_eq_within, Dialect.lexicon, Dialect.symbols_eq_insertionSort]
    rfl

end Vernacular
