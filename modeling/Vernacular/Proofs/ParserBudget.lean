import Mathlib
import Vernacular.Proofs.Tiling
import Vernacular.Proofs.ParsedTargets
/-!
# The parser never runs out of fuel

Every parsing function takes fuel and gives up with `ParseFault.exhausted` when
it has none left; `Program.parse` starts with `Stream.fuel`, sixty-four units for
each token. The main statement, `Program.parse_finishes`, is that this is always
enough: every source, in every dialect, parses to a program or fails with a
syntax error.

The proof is a measure that survives the two probes that move the cursor back.
A call at cursor `i` of a stream of `n` tokens is safe when its fuel is at least
`64 * (n - i) + need`, where `need` is the function's level. Every nested call
costs one unit of fuel. A call made before anything is consumed goes to a
function of a strictly lower level (assignment, the logical chains, the four
binary levels, prefix operators, steps, member access, primary expressions),
and a call made after a token is consumed has the 64 units that token was owed
to spare, more than any level asks. Loops (block bodies, argument and name
lists, the rest of a chain) consume a token in every round and keep the slack
they were called with. The probes restore the cursor they started from, which
the slack of the caller still covers.

`Budgeted` collects one triple for every parsing function at one fuel; each
function at `fuel + 1` keeps its triple from those at `fuel`.
-/

set_option autoImplicit false
set_option mvcgen.warning false

open Std.Do

namespace Vernacular

/-- A stream ends well when, unless the scanner stopped at an unreadable
character, its last token is the end of input. -/
def Stream.Ended (s : Stream) : Prop :=
  s.fault = none → ∃ tok, s.tokens.back? = some tok ∧ tok.kind = .endOfInput

/-- A scan that ends without an unreadable character ends with the end token. -/
theorem Cursor.Scans.ends {cur : Cursor} {ts : List Token} (scans : cur.Scans ts none) :
    ∃ tok, ts.getLast? = some tok ∧ tok.kind = .endOfInput := by
  generalize noFault : (none : Option ScanFault) = fault at scans
  induction scans with
  | finish _ last => exact ⟨_, rfl, last⟩
  | fault => cases noFault
  | token _ _ rest ih =>
    obtain ⟨tok, lastTok, isEnd⟩ := ih noFault
    refine ⟨tok, ?_, isEnd⟩
    rw [List.getLast?_cons, lastTok]
    rfl

/-- The tokens of a scan form a stream that ends well. -/
theorem Lexicon.scan_ended (lex : Lexicon) (source : String) (chars : List Char) (d : Dialect) :
    (⟨chars, (lex.scan source).tokens.toArray, (lex.scan source).fault, d⟩ : Stream).Ended := by
  intro unfaulted
  obtain ⟨ts, tokens, scans⟩ := lex.scanFrom_scans ⟨source.toList, 0, false⟩ #[]
  simp only [Lexicon.scan] at unfaulted ⊢
  rw [unfaulted] at scans
  obtain ⟨tok, lastTok, isEnd⟩ := scans.ends
  refine ⟨tok, ?_, isEnd⟩
  simp [tokens, lastTok]

namespace Parser

/-- The token under cursor `i`, as `current` reads it. -/
def tokenAt (s : Stream) (i : Nat) : Token := (s.tokens[i]?).getD endToken

end Parser

/-- In a stream that ends well, a scan without a fault has the end token last. -/
theorem Stream.Ended.last_kind {s : Stream} {i : Nat} (ended : s.Ended)
    (inside : i < s.tokens.size) (last : ¬ i + 1 < s.tokens.size) (unfaulted : s.fault = none) :
    (Parser.tokenAt s i).kind = .endOfInput := by
  obtain ⟨tok, back, isEnd⟩ := ended unfaulted
  have atBack : i = s.tokens.size - 1 := by omega
  have : Parser.tokenAt s i = tok := by
    simp only [Parser.tokenAt, Array.back?_eq_getElem?] at back ⊢
    rw [atBack, back]
    rfl
  rw [this, isEnd]

namespace Parser

/-! ## Fuel for the tokens left -/

/-- Fuel `fuel` fits cursor `i`: the reader is `stream`, which ends well, the
cursor stands on one of its tokens, and `fuel` covers 64 units for each token
from the cursor on (what `Stream.fuel` gives) with `need` to spare. -/
structure Fits (stream s : Stream) (i need fuel : Nat) : Prop where
  reads : s = stream
  ended : stream.Ended
  inside : i < stream.tokens.size
  covers : 64 * (stream.tokens.size - i) + need ≤ fuel

theorem fits_iff {stream s : Stream} {i need fuel : Nat} :
    Fits stream s i need fuel ↔ s = stream ∧ stream.Ended ∧ i < stream.tokens.size ∧
      64 * (stream.tokens.size - i) + need ≤ fuel :=
  ⟨fun fits => ⟨fits.reads, fits.ended, fits.inside, fits.covers⟩,
    fun ⟨reads, ended, inside, covers⟩ => ⟨reads, ended, inside, covers⟩⟩

/-- Less to spare, or more fuel, still fits. -/
theorem Fits.of_le {stream s : Stream} {i need fuel need' fuel' : Nat}
    (fits : Fits stream s i need fuel) (le : need' + fuel ≤ need + fuel') :
    Fits stream s i need' fuel' :=
  ⟨fits.reads, fits.ended, fits.inside, by have := fits.covers; omega⟩

/-- Moving past a token frees the fuel it was owed. -/
theorem Fits.next {stream s : Stream} {i need fuel : Nat} (fits : Fits stream s i need fuel)
    (next : i + 1 < stream.tokens.size) : Fits stream s (i + 1) (need + 64) fuel := by
  obtain ⟨reads, ended, _, covers⟩ := fits
  refine ⟨reads, ended, next, ?_⟩
  have left : stream.tokens.size - i = (stream.tokens.size - (i + 1)) + 1 := by omega
  rw [left, Nat.mul_succ] at covers
  omega

/-- Started where fuel fits with `need` to spare, the parser does not run out of
fuel, and when it returns, fuel fits where it stops with `after` to spare. -/
abbrev Budget {α : Type} (stream : Stream) (need after fuel : Nat) (x : Parser α) : Prop :=
  ⦃fun s i => ⌜Fits stream s i need fuel⌝⦄ x
    ⦃post⟨fun _ s j => ⌜Fits stream s j after fuel⌝, fun e => ⌜e ≠ .exhausted⌝⟩⦄

/-! ## Runs that finish -/

/-- A run that does not run out of fuel, and whose result, if any, meets `Q`. -/
def Finishes {α : Type} (r : Except ParseFault (α × Nat)) (Q : α → Nat → Prop) : Prop :=
  (∀ a j, r = .ok (a, j) → Q a j) ∧ r ≠ .error .exhausted

theorem finishes_ok {α : Type} {Q : α → Nat → Prop} {a : α} {j : Nat} (holds : Q a j) :
    Finishes (.ok (a, j)) Q := by
  refine ⟨?_, by simp⟩
  intro b k ran
  cases ran
  exact holds

theorem finishes_error {α : Type} {Q : α → Nat → Prop} (e : ParseError) :
    Finishes (.error (.error e)) Q := by
  refine ⟨?_, by simp⟩
  intro b k ran
  cases ran

theorem wp_finishes {α : Type} (P : α × Nat → Prop) (r : Except ParseFault (α × Nat)) :
    wp⟦r⟧ (post⟨fun a => ⌜P a⌝, fun e => ⌜e ≠ .exhausted⌝⟩) =
      ⌜(∀ a, r = .ok a → P a) ∧ r ≠ .error .exhausted⌝ := by
  cases r with
  | ok a =>
    change wp⟦(pure a : Except ParseFault _)⟧ _ = _
    simp
  | error e =>
    change wp⟦(MonadExceptOf.throw e : Except ParseFault _)⟧ _ = _
    simp

/-- What a triple that rules out exhaustion says about runs. -/
theorem triple_iff_finishes {α : Type} {P : Stream → Nat → Prop} {Q : α → Stream → Nat → Prop}
    {x : Parser α} :
    ⦃fun s i => ⌜P s i⌝⦄ x ⦃post⟨fun a s j => ⌜Q a s j⌝, fun e => ⌜e ≠ .exhausted⌝⟩⦄ ↔
      ∀ s i, P s i → Finishes ((x.run s).run i) (Q · s ·) := by
  rw [Triple.iff]
  change (∀ s i, ⌜P s i⌝ ⊢ₛ
    wp⟦(x.run s).run i⟧ (post⟨fun r => ⌜Q r.1 s r.2⌝, fun e => ⌜e ≠ .exhausted⌝⟩)) ↔ _
  simp only [wp_finishes, SPred.entails_nil, SPred.down_pure, Finishes]
  grind

/-! ## The primitives

`advance` throws when it moves onto an unreadable character, so `eat` gets its
triple from its runs; `fail` and `unexpected` never return. -/

theorem run_bind_ok {α β : Type} {x : Parser α} {f : α → Parser β} {s : Stream} {i j : Nat}
    {a : α} (ran : (x.run s).run i = .ok (a, j)) :
    ((x >>= f).run s).run i = ((f a).run s).run j := by
  change (x s i).bind _ = _
  change x s i = _ at ran
  rw [ran]
  rfl

theorem run_bind_error {α β : Type} {x : Parser α} {f : α → Parser β} {s : Stream} {i : Nat}
    {e : ParseFault} (ran : (x.run s).run i = .error e) : ((x >>= f).run s).run i = .error e := by
  change (x s i).bind _ = _
  change x s i = _ at ran
  rw [ran]
  rfl

theorem run_current (s : Stream) (i : Nat) : (current.run s).run i = .ok (tokenAt s i, i) := rfl

theorem fail_finishes {α : Type} (message : String) (s : Stream) (i : Nat) (Q : α → Nat → Prop) :
    Finishes (((fail message : Parser α)).run s |>.run i) Q := finishes_error _

theorem run_advance_next {s : Stream} {i : Nat} (next : i + 1 < s.tokens.size) :
    (advance.run s).run i = .ok ((), i + 1) := by
  change ((if i + 1 < s.tokens.size then (set (i + 1) : Parser Unit) else _).run s).run i = _
  rw [if_pos next]
  rfl

theorem run_advance_fault {s : Stream} {i : Nat} {fault : ScanFault}
    (last : ¬ i + 1 < s.tokens.size) (faulted : s.fault = some fault) :
    (advance.run s).run i = .error (.error (fault.toParseError s.source)) := by
  change ((if i + 1 < s.tokens.size then (set (i + 1) : Parser Unit) else _).run s).run i = _
  rw [if_neg last, faulted]
  rfl

theorem run_advance_stay {s : Stream} {i : Nat} (last : ¬ i + 1 < s.tokens.size)
    (unfaulted : s.fault = none) : (advance.run s).run i = .ok ((), i) := by
  change ((if i + 1 < s.tokens.size then (set (i + 1) : Parser Unit) else _).run s).run i = _
  rw [if_neg last, unfaulted]
  rfl

/-- Eating a token other than the end frees the fuel that token was owed. -/
theorem eat_budget (stream : Stream) (kind : TokenKind) (fuel : Nat) :
    Budget stream 0 (if kind = .endOfInput then 0 else 64) fuel (eat kind) := by
  unfold Budget
  rw [triple_iff_finishes]
  intro s i fits
  obtain rfl := fits.reads
  unfold eat
  rw [run_bind_ok (run_current s i)]
  by_cases atEnd : ((tokenAt s i).kind == .endOfInput && kind != .endOfInput) = true
  · rw [if_pos atEnd]
    exact fail_finishes _ s i _
  rw [if_neg atEnd]
  by_cases mismatch : ((tokenAt s i).kind != kind) = true
  · rw [if_pos mismatch]
    exact fail_finishes _ s i _
  rw [if_neg mismatch]
  have same : (tokenAt s i).kind = kind := by simpa using mismatch
  by_cases next : i + 1 < s.tokens.size
  · rw [run_bind_ok (run_advance_next next)]
    refine finishes_ok ((fits.next next).of_le ?_)
    split <;> omega
  · cases faulted : s.fault with
    | some fault =>
      rw [run_bind_error (run_advance_fault next faulted)]
      exact finishes_error _
    | none =>
      -- without a fault the last token is the end, so only the end token was expected
      have atEnd : kind = .endOfInput := same ▸ fits.ended.last_kind fits.inside next faulted
      rw [run_bind_ok (run_advance_stay next faulted)]
      exact finishes_ok (by simpa [atEnd] using fits)

theorem fail_budget {α : Type} (message : String) :
    ⦃fun _ _ => ⌜True⌝⦄ (fail message : Parser α)
    ⦃post⟨fun _ _ _ => ⌜False⌝, fun e => ⌜e ≠ .exhausted⌝⟩⦄ := by
  rw [triple_iff_finishes]
  intro s i _
  exact fail_finishes _ s i _

theorem unexpected_budget {α : Type} :
    ⦃fun _ _ => ⌜True⌝⦄ (unexpected : Parser α)
    ⦃post⟨fun _ _ _ => ⌜False⌝, fun e => ⌜e ≠ .exhausted⌝⟩⦄ := by
  mvcgen [unexpected, current, fail_budget]

theorem operatorOf_budget {β : Type} (stream : Stream) (pick : Role → Option β) (tok : Token)
    (need fuel : Nat) : Budget stream need need fuel (operatorOf pick tok) := by
  mvcgen [operatorOf, roleOf, fail_budget]
  all_goals exact False.elim

/-! ## Every parsing function at every fuel -/

/-- The levels of the logical chains: a `||` chain holds `&&` chains, which hold
the binary levels. -/
def chainNeed (kind : TokenKind) : Nat := if kind = .logicalOr then 14 else 12

/-- The triples of every parsing function at one fuel. A function that always
consumes a token asks for its level and returns with a token's 64 units to
spare; a loop, which may consume nothing, keeps whatever slack (at least its
level) it was called with. The binary levels are those of `binaryKinds`, and
the chains are of operators other than the end of input. -/
structure Budgeted (stream : Stream) (fuel : Nat) : Prop where
  statement : Budget stream 18 64 fuel (statement fuel)
  expressionStatement : Budget stream 16 64 fuel (expressionStatement fuel)
  declaration : Budget stream 1 64 fuel (declaration fuel)
  blockOrObject : Budget stream 2 64 fuel (blockOrObject fuel)
  block : Budget stream 1 64 fuel (block fuel)
  blockBody : ∀ need, 19 ≤ need → need ≤ 64 → Budget stream need need fuel (blockBody fuel)
  functionStatement : Budget stream 17 64 fuel (functionStatement fuel)
  functionRest : Budget stream 1 64 fuel (functionRest fuel)
  names : ∀ close need, 1 ≤ need → need ≤ 64 →
    Budget stream need need fuel (names close fuel)
  exportNames : ∀ need, 2 ≤ need → need ≤ 64 →
    Budget stream need need fuel (exportNames fuel)
  condition : Budget stream 16 64 fuel (condition fuel)
  forStatement : Budget stream 1 64 fuel (forStatement fuel)
  expression : Budget stream 15 64 fuel (expression fuel)
  logical : ∀ kind, kind ≠ .endOfInput →
    Budget stream (chainNeed kind) 64 fuel (logical kind fuel)
  logicalOperand : ∀ kind,
    Budget stream (chainNeed kind - 1) 64 fuel (logicalOperand kind fuel)
  logicalRest : ∀ kind, kind ≠ .endOfInput → ∀ left need, 1 ≤ need → need ≤ 64 →
    Budget stream need need fuel (logicalRest kind left fuel)
  binary : ∀ levels, levels <:+ binaryKinds →
    Budget stream (6 + levels.length) 64 fuel (binary levels fuel)
  binaryRest : ∀ kind tighter, kind ≠ .endOfInput → tighter <:+ binaryKinds →
    ∀ left need, 1 ≤ need → need ≤ 64 →
      Budget stream need need fuel (binaryRest kind tighter left fuel)
  unary : Budget stream 5 64 fuel (unary fuel)
  stepExpression : Budget stream 4 64 fuel (stepExpression fuel)
  accessChain : Budget stream 3 64 fuel (accessChain fuel)
  accessRest : ∀ e need, 1 ≤ need → need ≤ 64 →
    Budget stream need need fuel (accessRest e fuel)
  listed : ∀ close need, 16 ≤ need → need ≤ 64 →
    Budget stream need need fuel (listed close fuel)
  primary : Budget stream 2 64 fuel (primary fuel)
  objectLiteral : Budget stream 1 64 fuel (objectLiteral fuel)
  objectEntries : ∀ need, 1 ≤ need → need ≤ 64 →
    Budget stream need need fuel (objectEntries fuel)

/-- No fuel fits a cursor, so every triple holds at fuel zero. -/
theorem budget_zero {α : Type} (stream : Stream) (need after : Nat) (x : Parser α) :
    Budget stream need after 0 x := by
  unfold Budget
  rw [triple_iff_finishes]
  intro s i fits
  have covers := fits.covers
  have inside := fits.inside
  omega

theorem budgeted_zero (stream : Stream) : Budgeted stream 0 := by
  constructor <;> intros <;> exact budget_zero _ _ _ _

/-! Each step unfolds one function at `fuel + 1` and uses the triples at `fuel`.
What is left are inequalities between the fuel that fits the cursor before and
after each call, which `grind` closes from `fits_iff`. -/

section Step

variable {stream : Stream} {fuel : Nat} (ih : Budgeted stream fuel)
include ih

theorem Budgeted.statement_step :
    Budget stream 18 64 (fuel + 1) (Parser.statement (fuel + 1)) := by
  have eat := fun kind => eat_budget stream kind fuel
  have declaration := ih.declaration
  have blockOrObject := ih.blockOrObject
  have functionStatement := ih.functionStatement
  have condition := ih.condition
  have statement := ih.statement
  have forStatement := ih.forStatement
  have block := ih.block
  have expression := ih.expression
  have exportNames := ih.exportNames 64 (by omega) le_rfl
  have expressionStatement := ih.expressionStatement
  mvcgen [Parser.statement, is, isAny, current, eat, declaration, blockOrObject, functionStatement,
    condition, statement, forStatement, block, expression, exportNames, expressionStatement]
  all_goals clear eat declaration blockOrObject functionStatement condition statement
  all_goals clear forStatement block expression exportNames expressionStatement ih
  all_goals grind [fits_iff]

theorem Budgeted.expressionStatement_step :
    Budget stream 16 64 (fuel + 1) (Parser.expressionStatement (fuel + 1)) := by
  have eat := fun kind => eat_budget stream kind fuel
  have expression := ih.expression
  mvcgen [Parser.expressionStatement, eat, expression]
  all_goals clear eat expression ih
  all_goals grind [fits_iff]

theorem Budgeted.declaration_step :
    Budget stream 1 64 (fuel + 1) (Parser.declaration (fuel + 1)) := by
  have eat := fun kind => eat_budget stream kind fuel
  have expression := ih.expression
  mvcgen [Parser.declaration, is, isAny, current, eat, expression, fail_budget]
  all_goals clear eat expression ih
  all_goals grind [fits_iff]

theorem Budgeted.blockOrObject_step :
    Budget stream 2 64 (fuel + 1) (Parser.blockOrObject (fuel + 1)) := by
  have eat := fun kind => eat_budget stream kind fuel
  have block := ih.block
  have objectLiteral := ih.objectLiteral
  -- the probe returns to the cursor the call started from, which the caller's fuel fits
  mvcgen [Parser.blockOrObject, eat, block, objectLiteral, probe, is, isAny, current]
  all_goals clear eat block objectLiteral ih
  all_goals grind [fits_iff]

theorem Budgeted.block_step : Budget stream 1 64 (fuel + 1) (Parser.block (fuel + 1)) := by
  have eat := fun kind => eat_budget stream kind fuel
  have blockBody := ih.blockBody 64 (by omega) le_rfl
  mvcgen [Parser.block, eat, blockBody]
  all_goals clear eat blockBody ih
  all_goals grind [fits_iff]

theorem Budgeted.blockBody_step (need : Nat) (least : 19 ≤ need) (most : need ≤ 64) :
    Budget stream need need (fuel + 1) (Parser.blockBody (fuel + 1)) := by
  have statement := ih.statement
  have blockBody := ih.blockBody need least most
  mvcgen [Parser.blockBody, isAny, current, statement, blockBody]
  all_goals clear statement blockBody ih
  all_goals grind [fits_iff]

theorem Budgeted.functionStatement_step :
    Budget stream 17 64 (fuel + 1) (Parser.functionStatement (fuel + 1)) := by
  have eat := fun kind => eat_budget stream kind fuel
  have expressionStatement := ih.expressionStatement
  have functionRest := ih.functionRest
  mvcgen [Parser.functionStatement, probe, eat, is, isAny, current, expressionStatement,
    functionRest]
  all_goals clear eat expressionStatement functionRest ih
  all_goals grind [fits_iff]

theorem Budgeted.functionRest_step :
    Budget stream 1 64 (fuel + 1) (Parser.functionRest (fuel + 1)) := by
  have eat := fun kind => eat_budget stream kind fuel
  have names := fun close => ih.names close 64 (by omega) le_rfl
  have block := ih.block
  mvcgen [Parser.functionRest, eat, names, block]
  all_goals clear eat names block ih
  all_goals grind [fits_iff]

theorem Budgeted.names_step (close : TokenKind) (need : Nat) (least : 1 ≤ need)
    (most : need ≤ 64) :
    Budget stream need need (fuel + 1) (Parser.names close (fuel + 1)) := by
  have eat := fun kind => eat_budget stream kind fuel
  have names := ih.names close need least most
  mvcgen [Parser.names, eat, is, isAny, current, names]
  all_goals clear eat names ih
  all_goals grind [fits_iff]

theorem Budgeted.exportNames_step (need : Nat) (least : 2 ≤ need) (most : need ≤ 64) :
    Budget stream need need (fuel + 1) (Parser.exportNames (fuel + 1)) := by
  -- the list starts where the export list does: one unit less to spare, one unit less fuel
  have names := ih.names .closeCurly (need - 1) (by omega) (by omega)
  mvcgen [Parser.exportNames, names]
  all_goals clear names ih
  all_goals grind [fits_iff]

theorem Budgeted.condition_step :
    Budget stream 16 64 (fuel + 1) (Parser.condition (fuel + 1)) := by
  have eat := fun kind => eat_budget stream kind fuel
  have expression := ih.expression
  mvcgen [Parser.condition, eat, is, isAny, current, expression]
  all_goals clear eat expression ih
  all_goals grind [fits_iff]

theorem Budgeted.forStatement_step :
    Budget stream 1 64 (fuel + 1) (Parser.forStatement (fuel + 1)) := by
  have eat := fun kind => eat_budget stream kind fuel
  have declaration := ih.declaration
  have expression := ih.expression
  have statement := ih.statement
  mvcgen [Parser.forStatement, eat, is, isAny, current, declaration, expression, statement]
  all_goals clear eat declaration expression statement ih
  all_goals grind [fits_iff]

theorem Budgeted.expression_step :
    Budget stream 15 64 (fuel + 1) (Parser.expression (fuel + 1)) := by
  have eat := fun kind => eat_budget stream kind fuel
  have logical := ih.logical .logicalOr (by decide)
  have expression := ih.expression
  have operatorOf := fun {β : Type} (pick : Role → Option β) tok =>
    operatorOf_budget stream pick tok 64 fuel
  -- the assignment token eaten is the one `isAny` found, so it is not the end
  mvcgen [Parser.expression, eat, isAny, current, logical, expression, operatorOf, fail_budget]
  all_goals clear eat logical expression operatorOf ih
  all_goals grind [fits_iff, chainNeed]

theorem Budgeted.logical_step (kind : TokenKind) (notEnd : kind ≠ .endOfInput) :
    Budget stream (chainNeed kind) 64 (fuel + 1) (Parser.logical kind (fuel + 1)) := by
  have logicalOperand := ih.logicalOperand kind
  have logicalRest := fun left => ih.logicalRest kind notEnd left 64 (by omega) le_rfl
  mvcgen [Parser.logical, logicalOperand, logicalRest]
  all_goals clear logicalOperand logicalRest ih
  all_goals grind [fits_iff, chainNeed]

theorem Budgeted.logicalOperand_step (kind : TokenKind) :
    Budget stream (chainNeed kind - 1) 64 (fuel + 1)
      (Parser.logicalOperand kind (fuel + 1)) := by
  have logical := ih.logical .logicalAnd (by decide)
  have binary := ih.binary binaryKinds (List.suffix_refl _)
  mvcgen [Parser.logicalOperand, logical, binary]
  all_goals clear logical binary ih
  all_goals grind [fits_iff, chainNeed, binaryKinds]

theorem Budgeted.logicalRest_step (kind : TokenKind) (notEnd : kind ≠ .endOfInput) (left : Expr)
    (need : Nat) (least : 1 ≤ need) (most : need ≤ 64) :
    Budget stream need need (fuel + 1) (Parser.logicalRest kind left (fuel + 1)) := by
  have eat := fun kind => eat_budget stream kind fuel
  have logicalOperand := ih.logicalOperand kind
  have logicalRest := fun left => ih.logicalRest kind notEnd left need least most
  have operatorOf := fun {β : Type} (pick : Role → Option β) tok =>
    operatorOf_budget stream pick tok 64 fuel
  mvcgen [Parser.logicalRest, eat, is, isAny, current, logicalOperand, logicalRest, operatorOf]
  all_goals clear eat logicalOperand logicalRest operatorOf ih
  all_goals grind [fits_iff, chainNeed]

theorem Budgeted.binary_step (levels : List TokenKind) (used : levels <:+ binaryKinds) :
    Budget stream (6 + levels.length) 64 (fuel + 1) (Parser.binary levels (fuel + 1)) := by
  cases levels with
  | nil =>
    have unary := ih.unary
    mvcgen [Parser.binary, unary]
    all_goals clear unary ih
    all_goals grind [fits_iff]
  | cons kind tighter =>
    have tighterUsed : tighter <:+ binaryKinds := (List.suffix_cons kind tighter).trans used
    have notEnd : kind ≠ .endOfInput := by
      have member : kind ∈ binaryKinds := used.subset List.mem_cons_self
      simp only [binaryKinds, List.mem_cons, List.not_mem_nil, or_false] at member
      rcases member with rfl | rfl | rfl | rfl <;> decide
    have binary := ih.binary tighter tighterUsed
    have binaryRest := fun left =>
      ih.binaryRest kind tighter notEnd tighterUsed left 64 (by omega) le_rfl
    mvcgen [Parser.binary, binary, binaryRest]
    all_goals clear binary binaryRest ih
    all_goals grind [fits_iff]

theorem Budgeted.binaryRest_step (kind : TokenKind) (tighter : List TokenKind)
    (notEnd : kind ≠ .endOfInput) (used : tighter <:+ binaryKinds) (left : Expr) (need : Nat)
    (least : 1 ≤ need) (most : need ≤ 64) :
    Budget stream need need (fuel + 1) (Parser.binaryRest kind tighter left (fuel + 1)) := by
  have eat := fun kind => eat_budget stream kind fuel
  have binary := ih.binary tighter used
  -- the tighter levels are at most the four binary ones, so their level fits a token's slack
  have short : tighter.length ≤ 4 := used.length_le
  have binaryRest := fun left => ih.binaryRest kind tighter notEnd used left need least most
  have operatorOf := fun {β : Type} (pick : Role → Option β) tok =>
    operatorOf_budget stream pick tok 64 fuel
  mvcgen [Parser.binaryRest, eat, is, isAny, current, binary, binaryRest, operatorOf]
  all_goals clear eat binary binaryRest operatorOf ih
  all_goals grind [fits_iff]

theorem Budgeted.unary_step : Budget stream 5 64 (fuel + 1) (Parser.unary (fuel + 1)) := by
  have eat := fun kind => eat_budget stream kind fuel
  have stepExpression := ih.stepExpression
  have unary := ih.unary
  have operatorOf := fun {β : Type} (pick : Role → Option β) tok =>
    operatorOf_budget stream pick tok 64 fuel
  mvcgen [Parser.unary, eat, isAny, current, stepExpression, unary, operatorOf]
  all_goals clear eat stepExpression unary operatorOf ih
  all_goals grind [fits_iff]

theorem Budgeted.stepExpression_step :
    Budget stream 4 64 (fuel + 1) (Parser.stepExpression (fuel + 1)) := by
  have eat := fun kind => eat_budget stream kind fuel
  have accessChain := ih.accessChain
  have operatorOf := fun {β : Type} (pick : Role → Option β) tok =>
    operatorOf_budget stream pick tok 64 fuel
  mvcgen [Parser.stepExpression, eat, is, isAny, current, accessChain, operatorOf]
  all_goals clear eat accessChain operatorOf ih
  all_goals grind [fits_iff]

theorem Budgeted.accessChain_step :
    Budget stream 3 64 (fuel + 1) (Parser.accessChain (fuel + 1)) := by
  have primary := ih.primary
  have accessRest := fun e => ih.accessRest e 64 (by omega) le_rfl
  mvcgen [Parser.accessChain, primary, accessRest]
  all_goals clear primary accessRest ih
  all_goals grind [fits_iff]

theorem Budgeted.accessRest_step (e : Expr) (need : Nat) (least : 1 ≤ need)
    (most : need ≤ 64) :
    Budget stream need need (fuel + 1) (Parser.accessRest e (fuel + 1)) := by
  have eat := fun kind => eat_budget stream kind fuel
  have accessRest := fun e => ih.accessRest e need least most
  have expression := ih.expression
  have listed := fun close => ih.listed close 64 (by omega) le_rfl
  mvcgen [Parser.accessRest, eat, is, isAny, current, number, fail_budget, accessRest, expression,
    listed]
  all_goals clear eat accessRest expression listed ih
  all_goals grind [fits_iff]

theorem Budgeted.listed_step (close : TokenKind) (need : Nat) (least : 16 ≤ need)
    (most : need ≤ 64) :
    Budget stream need need (fuel + 1) (Parser.listed close (fuel + 1)) := by
  have eat := fun kind => eat_budget stream kind fuel
  have expression := ih.expression
  have listed := ih.listed close need least most
  mvcgen [Parser.listed, eat, is, isAny, current, expression, listed]
  all_goals clear eat expression listed ih
  all_goals grind [fits_iff]

theorem Budgeted.primary_step :
    Budget stream 2 64 (fuel + 1) (Parser.primary (fuel + 1)) := by
  have eat := fun kind => eat_budget stream kind fuel
  have expression := ih.expression
  have listed := fun close => ih.listed close 64 (by omega) le_rfl
  have objectLiteral := ih.objectLiteral
  have functionRest := ih.functionRest
  mvcgen [Parser.primary, eat, current, number, fail_budget, unexpected_budget, expression, listed,
    objectLiteral, functionRest]
  all_goals clear eat expression listed objectLiteral functionRest ih
  all_goals grind [fits_iff]

theorem Budgeted.objectLiteral_step :
    Budget stream 1 64 (fuel + 1) (Parser.objectLiteral (fuel + 1)) := by
  have eat := fun kind => eat_budget stream kind fuel
  have objectEntries := ih.objectEntries 64 (by omega) le_rfl
  mvcgen [Parser.objectLiteral, eat, objectEntries]
  all_goals clear eat objectEntries ih
  all_goals grind [fits_iff]

theorem Budgeted.objectEntries_step (need : Nat) (least : 1 ≤ need) (most : need ≤ 64) :
    Budget stream need need (fuel + 1) (Parser.objectEntries (fuel + 1)) := by
  have eat := fun kind => eat_budget stream kind fuel
  have expression := ih.expression
  have objectEntries := ih.objectEntries need least most
  mvcgen [Parser.objectEntries, eat, is, isAny, current, expression, objectEntries]
  all_goals clear eat expression objectEntries ih
  all_goals grind [fits_iff]

theorem Budgeted.succ : Budgeted stream (fuel + 1) where
  statement := ih.statement_step
  expressionStatement := ih.expressionStatement_step
  declaration := ih.declaration_step
  blockOrObject := ih.blockOrObject_step
  block := ih.block_step
  blockBody := ih.blockBody_step
  functionStatement := ih.functionStatement_step
  functionRest := ih.functionRest_step
  names := ih.names_step
  exportNames := ih.exportNames_step
  condition := ih.condition_step
  forStatement := ih.forStatement_step
  expression := ih.expression_step
  logical := ih.logical_step
  logicalOperand := ih.logicalOperand_step
  logicalRest := ih.logicalRest_step
  binary := ih.binary_step
  binaryRest := ih.binaryRest_step
  unary := ih.unary_step
  stepExpression := ih.stepExpression_step
  accessChain := ih.accessChain_step
  accessRest := ih.accessRest_step
  listed := ih.listed_step
  primary := ih.primary_step
  objectLiteral := ih.objectLiteral_step
  objectEntries := ih.objectEntries_step

end Step

/-- Every parsing function keeps its triple at every fuel. -/
theorem budgeted (stream : Stream) (fuel : Nat) : Budgeted stream fuel := by
  induction fuel with
  | zero => exact budgeted_zero stream
  | succ fuel ih => exact ih.succ

/-- So does the loop over the statements of a whole source. -/
theorem statements_budget (stream : Stream) (fuel need : Nat) (least : 19 ≤ need)
    (most : need ≤ 64) : Budget stream need need fuel (statements fuel) := by
  induction fuel with
  | zero => exact budget_zero _ _ _ _
  | succ fuel ih =>
    have statement := (budgeted stream fuel).statement
    mvcgen [statements, is, isAny, current, statement, ih]
    all_goals grind [fits_iff]

end Parser

/-- Parsing never runs out of fuel: every source, in every dialect, parses to a
program or fails with a syntax error. -/
theorem Program.parse_finishes (d : Dialect) (source : String) :
    (∃ p, Program.parse d source = .ok p) ∨ ∃ e, Program.parse d source = .error (.error e) := by
  unfold Program.parse
  dsimp only
  split
  · split
    · exact .inr ⟨_, rfl⟩
    · exact .inl ⟨_, rfl⟩
  · next nonempty =>
    -- the first token fits the fuel the parse starts with, with a statement loop's level to spare
    have fits : Parser.Fits ⟨source.toList, (d.lexicon.scan source).tokens.toArray,
        (d.lexicon.scan source).fault, d⟩ ⟨source.toList, (d.lexicon.scan source).tokens.toArray,
        (d.lexicon.scan source).fault, d⟩ 0 19 (Stream.fuel ⟨source.toList,
        (d.lexicon.scan source).tokens.toArray, (d.lexicon.scan source).fault, d⟩) := by
      refine ⟨rfl, d.lexicon.scan_ended source _ _, ?_, ?_⟩
      · simpa [List.isEmpty_iff, ← List.length_pos_iff] using nonempty
      · simp only [Stream.fuel]
        omega
    obtain ⟨-, finished⟩ := Parser.triple_iff_finishes.mp
      (Parser.statements_budget _ _ 19 (by decide) (by decide)) _ 0 fits
    split
    · exact .inl ⟨_, rfl⟩
    · next e ran =>
      cases e with
      | error e => exact .inr ⟨e, rfl⟩
      | exhausted => exact absurd ran finished

end Vernacular
