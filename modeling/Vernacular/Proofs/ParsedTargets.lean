import Mathlib
import Vernacular.Proofs.Invariants
/-!
# The parser assigns only to targets

The parser refuses an assignment whose left side is not a name, a member or
an index (`Parser.Expr.isTarget`), so every assignment node of every tree it
builds has a target. The proof follows the parser's fuel: `Parser.Builds`
says what a parsing function returns when it succeeds, `Parser.Targeted`
collects one such triple for every function of the parser at one fuel, and
each function at `fuel + 1` keeps it from the triples at `fuel`.
-/

set_option autoImplicit false
set_option mvcgen.warning false

open Std.Do

namespace Vernacular

/-- An assignment node assigns to a target; every other node passes. -/
def Expr.targetsAssignable : Expr → Bool
  | .assign _ target _ => Parser.Expr.isTarget target
  | _ => true

namespace Parser

/-! ## What a parser returns -/

/-- Started where `pre` holds, the parser returns only what `P` accepts; it
may fail in any way. -/
abbrev Builds {α : Type} (pre : Prop) (P : α → Prop) (x : Parser α) : Prop :=
  ⦃⌜pre⌝⦄ x ⦃post⟨fun a => ⌜P a⌝, fun _ => ⌜True⌝⟩⦄

/-- A finished parse meets a postcondition that allows every failure when its
success passes. -/
theorem wp_except {α : Type} (P : α × Nat → Prop) (r : Except ParseFault (α × Nat)) :
    wp⟦r⟧ (post⟨fun a => ⌜P a⌝, fun _ => ⌜True⌝⟩) =
      ⌜∀ a, r = .ok a → P a⌝ := by
  cases r with
  | ok a =>
    change wp⟦(pure a : Except ParseFault _)⟧ _ = _
    simp
  | error e =>
    change wp⟦(MonadExceptOf.throw e : Except ParseFault _)⟧ _ = _
    simp

/-- What a `Builds` triple says about runs. -/
theorem builds_iff {α : Type} {pre : Prop} {P : α → Prop} {x : Parser α} :
    Builds pre P x ↔ ∀ s i, pre → ∀ a j, (x.run s).run i = .ok (a, j) → P a := by
  -- the triple's reader and state arguments are those of the run
  have unfolded : ∀ s i, wp⟦x⟧ (post⟨fun a => ⌜P a⌝, fun _ => ⌜True⌝⟩) s i =
      wp⟦(x.run s).run i⟧ (post⟨fun r => ⌜P r.1⌝, fun _ => ⌜True⌝⟩) :=
    fun _ _ => rfl
  simp only [Triple.iff, SPred.entails_cons, SPred.entails_nil, unfolded, wp_except]
  simp

/-- Every parser builds what every result passes. -/
theorem builds_true {α : Type} (pre : Prop) (x : Parser α) : Builds pre (fun _ => True) x :=
  builds_iff.mpr fun _ _ _ _ _ _ => trivial

/-! The primitives read tokens and build no tree; `fail` and `unexpected`
never return. -/

variable {α : Type}

@[local spec] theorem current_builds : Builds True (fun _ => True) current := builds_true _ _

@[local spec] theorem isAny_builds (kinds : List TokenKind) :
    Builds True (fun _ => True) (isAny kinds) := builds_true _ _

@[local spec] theorem is_builds (kind : TokenKind) : Builds True (fun _ => True) (is kind) :=
  builds_true _ _

@[local spec] theorem eat_builds (kind : TokenKind) : Builds True (fun _ => True) (eat kind) :=
  builds_true _ _

@[local spec] theorem number_builds : Builds True (fun _ => True) number := builds_true _ _

@[local spec] theorem probe_builds (p : Parser α) : Builds True (fun _ => True) (probe p) :=
  builds_true _ _

@[local spec] theorem operatorOf_builds (pick : Role → Option α) (tok : Token) :
    Builds True (fun _ => True) (operatorOf pick tok) := builds_true _ _

@[local spec] theorem names_builds (close : TokenKind) (fuel : Nat) :
    Builds True (fun _ => True) (names close fuel) := builds_true _ _

@[local spec] theorem exportNames_builds (fuel : Nat) :
    Builds True (fun _ => True) (exportNames fuel) := builds_true _ _

@[local spec] theorem fail_builds (message : String) :
    Builds True (fun _ => False) (@fail α message) := by
  rw [builds_iff]
  intro s i _ a j ran
  cases ran

@[local spec] theorem unexpected_builds : Builds True (fun _ => False) (@unexpected α) := by
  mvcgen [unexpected]

/-! ## Every parsing function builds targeted trees -/

/-- The triples of every parsing function at one fuel: each returns trees
whose every assignment has a target, given such trees as input. -/
structure Targeted (fuel : Nat) : Prop where
  statement : Builds True (fun s => s.all Expr.targetsAssignable = true) (statement fuel)
  expressionStatement :
    Builds True (fun s => s.all Expr.targetsAssignable = true) (expressionStatement fuel)
  declaration : Builds True (fun s => s.all Expr.targetsAssignable = true) (declaration fuel)
  blockOrObject : Builds True (fun s => s.all Expr.targetsAssignable = true) (blockOrObject fuel)
  block : Builds True (fun b => Stmt.allList Expr.targetsAssignable b = true) (block fuel)
  blockBody : Builds True (fun b => Stmt.allList Expr.targetsAssignable b = true) (blockBody fuel)
  functionStatement :
    Builds True (fun s => s.all Expr.targetsAssignable = true) (functionStatement fuel)
  functionRest :
    Builds True (fun r => Stmt.allList Expr.targetsAssignable r.2 = true) (functionRest fuel)
  condition : Builds True (fun e => e.all Expr.targetsAssignable = true) (condition fuel)
  forStatement : Builds True (fun s => s.all Expr.targetsAssignable = true) (forStatement fuel)
  expression : Builds True (fun e => e.all Expr.targetsAssignable = true) (expression fuel)
  logical : ∀ kind, Builds True (fun e => e.all Expr.targetsAssignable = true) (logical kind fuel)
  logicalOperand : ∀ kind,
    Builds True (fun e => e.all Expr.targetsAssignable = true) (logicalOperand kind fuel)
  logicalRest : ∀ kind left, Builds (left.all Expr.targetsAssignable = true)
    (fun e => e.all Expr.targetsAssignable = true) (logicalRest kind left fuel)
  binary : ∀ levels,
    Builds True (fun e => e.all Expr.targetsAssignable = true) (binary levels fuel)
  binaryRest : ∀ kind tighter left, Builds (left.all Expr.targetsAssignable = true)
    (fun e => e.all Expr.targetsAssignable = true) (binaryRest kind tighter left fuel)
  unary : Builds True (fun e => e.all Expr.targetsAssignable = true) (unary fuel)
  stepExpression : Builds True (fun e => e.all Expr.targetsAssignable = true) (stepExpression fuel)
  accessChain : Builds True (fun e => e.all Expr.targetsAssignable = true) (accessChain fuel)
  accessRest : ∀ e, Builds (e.all Expr.targetsAssignable = true)
    (fun e => e.all Expr.targetsAssignable = true) (accessRest e fuel)
  listed : ∀ close,
    Builds True (fun es => Expr.allList Expr.targetsAssignable es = true) (listed close fuel)
  primary : Builds True (fun e => e.all Expr.targetsAssignable = true) (primary fuel)
  objectLiteral : Builds True (fun e => e.all Expr.targetsAssignable = true) (objectLiteral fuel)
  objectEntries :
    Builds True (fun es => Entry.allList Expr.targetsAssignable es = true) (objectEntries fuel)

/-- With no fuel every parsing function fails. -/
theorem targeted_zero : Targeted 0 := by
  constructor
  all_goals intros; rw [builds_iff]; intro s i _ a j ran; cases ran

section Step

variable {fuel : Nat} (ih : Targeted fuel)
include ih

theorem Targeted.statement_step :
    Builds True (fun s => s.all Expr.targetsAssignable = true) (Parser.statement (fuel + 1)) := by
  have declaration := ih.declaration
  have blockOrObject := ih.blockOrObject
  have functionStatement := ih.functionStatement
  have condition := ih.condition
  have statement := ih.statement
  have forStatement := ih.forStatement
  have block := ih.block
  have expression := ih.expression
  have expressionStatement := ih.expressionStatement
  mvcgen [Parser.statement, declaration, blockOrObject, functionStatement, condition, statement,
    forStatement, block, expression, expressionStatement]
  all_goals simp_all [Stmt.all]

theorem Targeted.expressionStatement_step :
    Builds True (fun s => s.all Expr.targetsAssignable = true)
      (Parser.expressionStatement (fuel + 1)) := by
  have expression := ih.expression
  mvcgen [Parser.expressionStatement, expression]

theorem Targeted.declaration_step :
    Builds True (fun s => s.all Expr.targetsAssignable = true) (Parser.declaration (fuel + 1)) := by
  have expression := ih.expression
  mvcgen [Parser.declaration, expression]

theorem Targeted.blockOrObject_step :
    Builds True (fun s => s.all Expr.targetsAssignable = true)
      (Parser.blockOrObject (fuel + 1)) := by
  have objectLiteral := ih.objectLiteral
  have block := ih.block
  mvcgen [Parser.blockOrObject, objectLiteral, block]

theorem Targeted.block_step :
    Builds True (fun b => Stmt.allList Expr.targetsAssignable b = true)
      (Parser.block (fuel + 1)) := by
  have blockBody := ih.blockBody
  mvcgen [Parser.block, blockBody]

theorem Targeted.blockBody_step :
    Builds True (fun b => Stmt.allList Expr.targetsAssignable b = true)
      (Parser.blockBody (fuel + 1)) := by
  have statement := ih.statement
  have blockBody := ih.blockBody
  mvcgen [Parser.blockBody, statement, blockBody]
  all_goals simp_all [Stmt.allList]

theorem Targeted.functionStatement_step :
    Builds True (fun s => s.all Expr.targetsAssignable = true)
      (Parser.functionStatement (fuel + 1)) := by
  have expressionStatement := ih.expressionStatement
  have functionRest := ih.functionRest
  mvcgen [Parser.functionStatement, expressionStatement, functionRest]

theorem Targeted.functionRest_step :
    Builds True (fun r => Stmt.allList Expr.targetsAssignable r.2 = true)
      (Parser.functionRest (fuel + 1)) := by
  have block := ih.block
  mvcgen [Parser.functionRest, block]

theorem Targeted.condition_step :
    Builds True (fun e => e.all Expr.targetsAssignable = true) (Parser.condition (fuel + 1)) := by
  have expression := ih.expression
  mvcgen [Parser.condition, expression]

theorem Targeted.forStatement_step :
    Builds True (fun s => s.all Expr.targetsAssignable = true)
      (Parser.forStatement (fuel + 1)) := by
  have declaration := ih.declaration
  have expression := ih.expression
  have statement := ih.statement
  mvcgen [Parser.forStatement, declaration, expression, statement]
  all_goals simp_all [Stmt.all, Expr.allSome]

theorem Targeted.expression_step :
    Builds True (fun e => e.all Expr.targetsAssignable = true) (Parser.expression (fuel + 1)) := by
  have logical := ih.logical
  have expression := ih.expression
  -- a left side that is no target is refused by `fail`, which never returns
  mvcgen [Parser.expression, logical, expression]
  all_goals simp_all [Expr.all, Expr.targetsAssignable]

theorem Targeted.logical_step (kind : TokenKind) :
    Builds True (fun e => e.all Expr.targetsAssignable = true)
      (Parser.logical kind (fuel + 1)) := by
  have logicalOperand := ih.logicalOperand
  have logicalRest := ih.logicalRest
  mvcgen [Parser.logical, logicalOperand, logicalRest]

theorem Targeted.logicalOperand_step (kind : TokenKind) :
    Builds True (fun e => e.all Expr.targetsAssignable = true)
      (Parser.logicalOperand kind (fuel + 1)) := by
  have logical := ih.logical
  have binary := ih.binary
  mvcgen [Parser.logicalOperand, logical, binary]

theorem Targeted.logicalRest_step (kind : TokenKind) (left : Expr) :
    Builds (left.all Expr.targetsAssignable = true) (fun e => e.all Expr.targetsAssignable = true)
      (Parser.logicalRest kind left (fuel + 1)) := by
  have logicalOperand := ih.logicalOperand
  have logicalRest := ih.logicalRest
  mvcgen [Parser.logicalRest, logicalOperand, logicalRest]
  all_goals simp_all [Expr.all, Expr.targetsAssignable]

theorem Targeted.binary_step (levels : List TokenKind) :
    Builds True (fun e => e.all Expr.targetsAssignable = true)
      (Parser.binary levels (fuel + 1)) := by
  have binary := ih.binary
  have binaryRest := ih.binaryRest
  have unary := ih.unary
  cases levels <;> mvcgen [Parser.binary, binary, binaryRest, unary]

theorem Targeted.binaryRest_step (kind : TokenKind) (tighter : List TokenKind) (left : Expr) :
    Builds (left.all Expr.targetsAssignable = true) (fun e => e.all Expr.targetsAssignable = true)
      (Parser.binaryRest kind tighter left (fuel + 1)) := by
  have binary := ih.binary
  have binaryRest := ih.binaryRest
  mvcgen [Parser.binaryRest, binary, binaryRest]
  all_goals simp_all [Expr.all, Expr.targetsAssignable]

theorem Targeted.unary_step :
    Builds True (fun e => e.all Expr.targetsAssignable = true) (Parser.unary (fuel + 1)) := by
  have stepExpression := ih.stepExpression
  have unary := ih.unary
  mvcgen [Parser.unary, stepExpression, unary]

theorem Targeted.stepExpression_step :
    Builds True (fun e => e.all Expr.targetsAssignable = true)
      (Parser.stepExpression (fuel + 1)) := by
  have accessChain := ih.accessChain
  mvcgen [Parser.stepExpression, accessChain]

theorem Targeted.accessChain_step :
    Builds True (fun e => e.all Expr.targetsAssignable = true) (Parser.accessChain (fuel + 1)) := by
  have primary := ih.primary
  have accessRest := ih.accessRest
  mvcgen [Parser.accessChain, primary, accessRest]

theorem Targeted.accessRest_step (e : Expr) :
    Builds (e.all Expr.targetsAssignable = true) (fun e => e.all Expr.targetsAssignable = true)
      (Parser.accessRest e (fuel + 1)) := by
  have expression := ih.expression
  have listed := ih.listed
  have accessRest := ih.accessRest
  mvcgen [Parser.accessRest, expression, listed, accessRest]
  all_goals simp_all [Expr.all, Expr.targetsAssignable]

theorem Targeted.listed_step (close : TokenKind) :
    Builds True (fun es => Expr.allList Expr.targetsAssignable es = true)
      (Parser.listed close (fuel + 1)) := by
  have expression := ih.expression
  have listed := ih.listed
  mvcgen [Parser.listed, expression, listed]
  all_goals simp_all [Expr.allList]

theorem Targeted.primary_step :
    Builds True (fun e => e.all Expr.targetsAssignable = true) (Parser.primary (fuel + 1)) := by
  have expression := ih.expression
  have listed := ih.listed
  have objectLiteral := ih.objectLiteral
  have functionRest := ih.functionRest
  mvcgen [Parser.primary, expression, listed, objectLiteral, functionRest]
  all_goals simp_all

theorem Targeted.objectLiteral_step :
    Builds True (fun e => e.all Expr.targetsAssignable = true)
      (Parser.objectLiteral (fuel + 1)) := by
  have objectEntries := ih.objectEntries
  mvcgen [Parser.objectLiteral, objectEntries]

theorem Targeted.objectEntries_step :
    Builds True (fun es => Entry.allList Expr.targetsAssignable es = true)
      (Parser.objectEntries (fuel + 1)) := by
  have expression := ih.expression
  have objectEntries := ih.objectEntries
  mvcgen [Parser.objectEntries, expression, objectEntries]
  all_goals simp_all [Entry.allList, Entry.all]

theorem Targeted.succ : Targeted (fuel + 1) where
  statement := ih.statement_step
  expressionStatement := ih.expressionStatement_step
  declaration := ih.declaration_step
  blockOrObject := ih.blockOrObject_step
  block := ih.block_step
  blockBody := ih.blockBody_step
  functionStatement := ih.functionStatement_step
  functionRest := ih.functionRest_step
  condition := ih.condition_step
  forStatement := ih.forStatement_step
  expression := ih.expression_step
  logical := ih.logical_step
  logicalOperand := ih.logicalOperand_step
  logicalRest := ih.logicalRest_step
  binary := ih.binary_step
  binaryRest := ih.binaryRest_step
  unary := ih.unary_step
  stepExpression := ih.stepExpression_step
  accessChain := ih.accessChain_step
  accessRest := ih.accessRest_step
  listed := ih.listed_step
  primary := ih.primary_step
  objectLiteral := ih.objectLiteral_step
  objectEntries := ih.objectEntries_step

end Step

/-- Every parsing function, at every fuel, builds only trees whose every
assignment has a target. -/
theorem targeted (fuel : Nat) : Targeted fuel := by
  induction fuel with
  | zero => exact targeted_zero
  | succ fuel ih => exact ih.succ

/-- So do the statements of a whole source. -/
theorem statements_targeted (fuel : Nat) :
    Builds True (fun b => Stmt.allList Expr.targetsAssignable b = true) (statements fuel) := by
  induction fuel with
  | zero => rw [builds_iff]; intro s i _ a j ran; cases ran
  | succ fuel ih =>
    have statement := (targeted fuel).statement
    mvcgen [statements, statement, ih]
    all_goals simp_all [Stmt.allList]

end Parser

/-- Every program the parser reads, in any dialect, assigns only to names and
members. -/
theorem Program.parse_targeted {d : Dialect} {source : String} {p : Program}
    (parsed : Program.parse d source = .ok p) :
    Stmt.allList Expr.targetsAssignable p.body = true := by
  unfold Program.parse at parsed
  dsimp only at parsed
  split at parsed
  · split at parsed
    · cases parsed
    · cases parsed
      rfl
  · split at parsed
    · rename_i body j ran
      cases parsed
      exact Parser.builds_iff.mp (Parser.statements_targeted _) _ _ trivial _ _ ran
    · cases parsed

end Vernacular
