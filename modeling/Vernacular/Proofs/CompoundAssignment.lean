import Mathlib
import Vernacular.Interpreter.Eval
/-!
# Compound assignment and stepping

`x op= e` evaluates as `x = x op e`, and so do member targets whose object is
a name and whose key only reads. `++x` and `--x` evaluate as `x += 1` and
`x -= 1` while `x` holds a number; on any other value they give `null` and
change nothing.

The desugared forms have one node more than the compound ones, so they spend
one more unit of fuel; given it, both sides are the same computation: the same
value or signal, and the same machine after it, heap and bindings included.
-/

set_option autoImplicit false

namespace Vernacular

namespace Eval

/-- A computation that reads the machine and leaves it as it was. -/
def Reads {α : Type} (x : Eval α) : Prop :=
  ∀ m, (∃ a, x.run m = .ok a m) ∨ (∃ sig, x.run m = .error sig m)

theorem Reads.pure {α : Type} (a : α) : Reads (pure a : Eval α) :=
  fun _ => .inl ⟨a, rfl⟩

/-- Reading twice in a row reads once. -/
theorem Reads.bind_self {α β : Type} {x : Eval α} (reads : Reads x) (f : α → α → Eval β) :
    (x >>= fun a => x >>= f a) = (x >>= fun a => f a a) := by
  funext m
  rcases reads m with ⟨a, ran⟩ | ⟨sig, ran⟩
  all_goals simp only [EStateM.run] at ran
  all_goals simp [bind, EStateM.bind, ran]

/-- A read repeated after another read gives what it gave the first time. -/
theorem Reads.bind_again {α β γ : Type} {x : Eval α} {y : Eval β} (readsX : Reads x)
    (readsY : Reads y) (f : α → β → α → Eval γ) :
    (x >>= fun a => y >>= fun b => x >>= f a b) = (x >>= fun a => y >>= fun b => f a b a) := by
  funext m
  rcases readsX m with ⟨a, ranX⟩ | ⟨sig, ranX⟩
  all_goals simp only [EStateM.run] at ranX
  · rcases readsY m with ⟨b, ranY⟩ | ⟨sig, ranY⟩
    all_goals simp only [EStateM.run] at ranY
    all_goals simp [bind, EStateM.bind, ranX, ranY]
  · simp [bind, EStateM.bind, ranX]

end Eval

/-- An assignment that applies a binary operator is not a plain one. -/
theorem AssignOp.ne_set_of_binary {op : AssignOp} {b : BinaryOp} (compound : op.binary = some b) :
    op ≠ .set := by
  rintro rfl
  simp [AssignOp.binary] at compound

/-- The compound assignment a step stands for. -/
def StepOp.assignOp : StepOp → AssignOp
  | .increment => .add
  | .decrement => .sub

/-- A key whose evaluation only reads: a name, a number or a string. -/
def Expr.isPlainKey : Expr → Bool
  | .ident _ | .number _ | .string _ => true
  | _ => false

namespace Interp

open Eval

/-- Looking a name up reads the heap and leaves the machine as it was. -/
theorem lookup_run (scope : Nat) (name : String) (m : Machine) :
    (lookup scope name).run m = match m.heap.lookup scope name with
      | .ok v => .ok v m
      | .error sig => .error sig m := by
  cases found : m.heap.lookup scope name with
  | ok v => simp [lookup, Eval.heap, orFail, found]
  | error sig =>
    simp [lookup, Eval.heap, orFail, found]
    -- the evaluator's `throw` is the state monad's own
    rfl

theorem lookup_reads (scope : Nat) (name : String) : Reads (lookup scope name) := by
  intro m
  rw [lookup_run]
  cases m.heap.lookup scope name <;> simp

/-- A plain key evaluates the same with any fuel but none. -/
theorem expr_plainKey {key : Expr} (plain : key.isPlainKey) (fuel scope : Nat) :
    expr (fuel + 1) scope key = expr 1 scope key := by
  cases key <;> simp_all [Expr.isPlainKey, Interp.expr]

theorem plainKey_reads {key : Expr} (plain : key.isPlainKey) (scope : Nat) :
    Reads (expr 1 scope key) := by
  cases key <;> simp_all [Expr.isPlainKey, Interp.expr, lookup_reads, Reads.pure]

section Compound

variable (fuel scope : Nat) {op : AssignOp} {b : BinaryOp} (compound : op.binary = some b) (e : Expr)
include compound

theorem assign_name_desugars (x : String) :
    expr (fuel + 3) scope (.assign op (.ident x) e) =
      expr (fuel + 4) scope (.assign .set (.ident x) (.binary b (.ident x) e)) := by
  have notSet := AssignOp.ne_set_of_binary compound
  simp only [Interp.expr, Interp.assignment]
  simp [compound, notSet]

theorem assign_field_desugars (o p : String) :
    expr (fuel + 4) scope (.assign op (.field (.ident o) p) e) =
      expr (fuel + 5) scope (.assign .set (.field (.ident o) p) (.binary b (.field (.ident o) p) e)) := by
  have notSet := AssignOp.ne_set_of_binary compound
  simp only [Interp.expr, Interp.assignment]
  simp [compound, notSet, (lookup_reads scope o).bind_self]

theorem assign_computed_desugars (o : String) {key : Expr} (plain : key.isPlainKey) :
    expr (fuel + 4) scope (.assign op (.computed (.ident o) key) e) =
      expr (fuel + 5) scope
        (.assign .set (.computed (.ident o) key) (.binary b (.computed (.ident o) key) e)) := by
  have notSet := AssignOp.ne_set_of_binary compound
  simp only [Interp.expr, Interp.assignment]
  simp [compound, notSet, expr_plainKey plain,
    (lookup_reads scope o).bind_again (plainKey_reads plain scope), (plainKey_reads plain scope).bind_self]

end Compound

theorem step_desugars (fuel fuel' scope : Nat) (step : StepOp) (name : String) (m : Machine)
    (holdsNumber : ∀ v, m.heap.lookup scope name = .ok v → ∃ x, v = .number x) :
    (expr (fuel + 1) scope (.step step name)).run m =
      (expr (fuel' + 3) scope (.assign step.assignOp (.ident name) (.number 1))).run m := by
  have notSet : step.assignOp ≠ .set := by cases step <;> simp [StepOp.assignOp]
  simp only [Interp.expr, Interp.assignment]
  simp [notSet, lookup_run]
  cases found : m.heap.lookup scope name with
  | error sig => rfl
  | ok v =>
    obtain ⟨x, rfl⟩ := holdsNumber v found
    cases step <;> rfl

/-- A step on a name that holds anything but a number gives `null` and
leaves the machine as it was. -/
theorem step_of_not_number (fuel scope : Nat) (step : StepOp) (name : String) (m : Machine)
    {v : Value} (found : m.heap.lookup scope name = .ok v) (notNumber : ∀ x, v ≠ .number x) :
    (expr (fuel + 1) scope (.step step name)).run m = .ok .null m := by
  cases v
  case number x => exact absurd rfl (notNumber x)
  all_goals simp [Interp.expr, lookup_run, found]

/-- Compound assignments and steps evaluate as the assignments they abbreviate.
For every compound operator with binary operator `b`, every right-hand side `e`
and every fuel:

* `x op= e` is `x = x b e`;
* `o.p op= e` is `o.p = o.p b e`, and `o[k] op= e` is `o[k] = o[k] b e` when
  `k` is a name, a number or a string;
* `++x` and `--x` are `x += 1` and `x -= 1` on a machine where `x` holds a
  number or is not bound;
* on a machine where `x` holds anything else, `++x` and `--x` give `null` and
  change nothing.

The desugared assignments have one node more, so they are given one more unit
of fuel; the two sides are then the same computation on every machine. -/
theorem compound_assignment_desugars (fuel scope : Nat) (op : AssignOp) (b : BinaryOp)
    (compound : op.binary = some b) (e : Expr) :
    (∀ x, expr (fuel + 4) scope (.assign op (.ident x) e) =
      expr (fuel + 5) scope (.assign .set (.ident x) (.binary b (.ident x) e))) ∧
    (∀ o p, expr (fuel + 4) scope (.assign op (.field (.ident o) p) e) =
      expr (fuel + 5) scope (.assign .set (.field (.ident o) p) (.binary b (.field (.ident o) p) e))) ∧
    (∀ o key, key.isPlainKey →
      expr (fuel + 4) scope (.assign op (.computed (.ident o) key) e) =
        expr (fuel + 5) scope
          (.assign .set (.computed (.ident o) key) (.binary b (.computed (.ident o) key) e))) ∧
    (∀ step name (m : Machine), (∀ v, m.heap.lookup scope name = .ok v → ∃ x, v = .number x) →
      (expr (fuel + 4) scope (.step step name)).run m =
        (expr (fuel + 4) scope (.assign step.assignOp (.ident name) (.number 1))).run m) ∧
    (∀ step name (m : Machine) v, m.heap.lookup scope name = .ok v → (∀ x, v ≠ .number x) →
      (expr (fuel + 4) scope (.step step name)).run m = .ok .null m) :=
  ⟨assign_name_desugars (fuel + 1) scope compound e,
    assign_field_desugars fuel scope compound e,
    fun o _ plain => assign_computed_desugars fuel scope compound e o plain,
    fun step name m holdsNumber => step_desugars (fuel + 3) (fuel + 1) scope step name m holdsNumber,
    fun step name m _ found notNumber => step_of_not_number (fuel + 3) scope step name m found notNumber⟩

/-- `x += 2` and `o[0] += 2` are `x = x + 2` and `o[0] = o[0] + 2`. -/
theorem add_assignment_desugars :
    AssignOp.add.binary = some .add ∧
    expr 4 0 (.assign .add (.ident "x") (.number 2)) =
      expr 5 0 (.assign .set (.ident "x") (.binary .add (.ident "x") (.number 2))) ∧
    expr 4 0 (.assign .add (.computed (.ident "o") (.number 0)) (.number 2)) =
      expr 5 0 (.assign .set (.computed (.ident "o") (.number 0))
        (.binary .add (.computed (.ident "o") (.number 0)) (.number 2))) :=
  ⟨rfl, (compound_assignment_desugars 0 0 .add .add rfl (.number 2)).1 "x",
    (compound_assignment_desugars 0 0 .add .add rfl (.number 2)).2.2.1 "o" (.number 0) rfl⟩

end Interp

end Vernacular
