import Vernacular.Proofs.QuietNatives
/-!
# Where control signals end

`break` and `continue` end at the loop around them, `return` at the call of the
function around it, and nothing else stops them on the way: `try`/`catch`
handles thrown values only. Three constructs end the jumps:

* `Interp.loopPass`, one pass of a loop body, ends `break` (the loop stops)
  and `continue` (the loop goes on, a `for` loop with its update);
* `Interp.functionResult`, the body of a called function, ends `return` and
  turns a `break` or `continue` that leaves the body into a fault;
* `Interp.topLevel`, the body of a program or a module, turns every jump that
  leaves it into a fault.

`Stmt.jumps` reads off the syntax which jumps a statement can let out, and the
invariant `Disciplined` says, for one fuel, that statements let out no other
jumps and that expressions, calls and natives let out none (an import lets out
none at any fuel: its module runs in `topLevel`). Each function of the
evaluator keeps the invariant from one fuel to the next, so it holds at every
fuel; `control_signals_stay_in_their_constructs` collects what follows.
-/

set_option autoImplicit false
set_option mvcgen.warning false

open Std.Do

namespace Vernacular

mutual

/-- The jumps a statement holds outside every loop and function of its own: a
loop keeps the `break` and `continue` of its body, and a function literal is an
expression, which keeps everything. -/
def Stmt.jumps : Stmt → Jump → Bool
  | .brk, j => j == .brk
  | .cont, j => j == .cont
  | .ret _, j => j == .ret
  | .block body, j => Stmt.listJumps body j
  | .ifElse _ consequent none, j => consequent.jumps j
  | .ifElse _ consequent (some alternate), j => consequent.jumps j || alternate.jumps j
  | .loop _ body, j => j == .ret && body.jumps j
  | .forLoop none _ _ body, j => j == .ret && body.jumps j
  | .forLoop (some start) _ _ body, j => start.jumps j || (j == .ret && body.jumps j)
  | .tryCatch body _ handler, j => Stmt.listJumps body j || Stmt.listJumps handler j
  | _, _ => false

/-- The jumps of a list of statements. -/
def Stmt.listJumps : List Stmt → Jump → Bool
  | [], _ => false
  | s :: rest, j => s.jumps j || Stmt.listJumps rest j

end

namespace Eval

variable {α : Type}

theorem run_tryCatch (x : Eval α) (handler : Signal → Eval α) (m : Machine) :
    (tryCatch x handler).run m = match x.run m with
      | .ok a m' => .ok a m'
      | .error sig m' => (handler sig).run m' := by
  simp only [tryCatch, tryCatchThe, MonadExceptOf.tryCatch, EStateM.tryCatch, EStateM.run]
  cases x m <;> rfl

theorem run_map {β : Type} (f : α → β) (x : Eval α) (m : Machine) :
    (f <$> x).run m = match x.run m with
      | .ok a m' => .ok (f a) m'
      | .error sig m' => .error sig m' := by
  simp only [Functor.map, EStateM.map, EStateM.run]
  cases x m <;> rfl

theorem run_discard (x : Eval α) (m : Machine) :
    (discard x).run m = match x.run m with
      | .ok _ m' => .ok () m'
      | .error sig m' => .error sig m' :=
  run_map (fun _ => ()) x m

@[spec] theorem discard_spec {x : Eval α} {Q : PostCond Unit (.except Signal (.arg Machine .pure))} :
    ⦃wp⟦x⟧ (fun _ => Q.1 (), Q.2)⦄ discard x ⦃Q⦄ := by
  have same : discard x = (fun _ => ()) <$> x := rfl
  rw [same]
  exact Spec.map

end Eval

namespace Interp

open Eval

attribute [local spec] heap_quiet onHeap_quiet updateHeap_quiet newArray_quiet newObject_quiet
  newNative_quiet text_quiet describe_quiet writeOut_quiet writeErr_quiet throwMessage_quiet
  debug_quiet unknownProperty_quiet method_quiet getProperty_quiet setProperty_quiet lookup_quiet
  assign_quiet declare_quiet childScope_quiet exportNames_quiet Library.arrayArg_quiet
  Library.invoke_quiet Library.globalScope_quiet requireArgs_quiet

/-! ## The three constructs that end jumps -/

/-- A pass of a loop body stops the loop on `break`, goes on after `continue`
as after a body that completes, and passes every other signal on. -/
theorem loopPass_run (body : Eval Value) (m : Machine) :
    (loopPass body).run m = match (body.run m : EStateM.Result Signal Machine Value) with
      | .ok _ m' => .ok false m'
      | .error .broke m' => .ok true m'
      | .error .continued m' => .ok false m'
      | .error sig m' => .error sig m' := by
  rw [loopPass, run_tryCatch, EStateM.run_bind, run_discard]
  cases body.run m with
  | ok v m' => rfl
  | error sig m' => cases sig <;> rfl

/-- A function body gives the call the value it returns, or else the value of
its last statement, and every other signal leaves it escaped. -/
theorem functionResult_run (body : Eval Value) (m : Machine) :
    (functionResult body).run m = match (body.run m : EStateM.Result Signal Machine Value) with
      | .ok .nothing m' => .ok .null m'
      | .ok v m' => .ok v m'
      | .error (.returned v) m' => .ok v m'
      | .error sig m' => .error sig.escaped m' := by
  rw [functionResult, EStateM.run_bind, run_tryCatch, run_map]
  cases body.run m with
  | ok v m' => cases v <;> rfl
  | error sig m' => cases sig <;> rfl

/-- Every signal leaves a program or module body escaped. -/
theorem topLevel_run (body : Eval Value) (m : Machine) :
    (topLevel body).run m = match (body.run m : EStateM.Result Signal Machine Value) with
      | .ok v m' => .ok v m'
      | .error sig m' => .error sig.escaped m' := by
  rw [topLevel, run_tryCatch]
  cases body.run m <;> rfl

theorem loopPass_letsOut {allowed : Jump → Bool} {body : Eval Value} (inner : LetsOut allowed body) :
    LetsOut (fun j => j == .ret && allowed j) (loopPass body) := by
  rw [letsOut_iff] at inner ⊢
  intro m sig m' stopped
  rw [loopPass_run] at stopped
  cases ran : body.run m with
  | ok v m₁ => rw [ran] at stopped; cases stopped
  | error sig₀ m₁ =>
    rw [ran] at stopped
    have passed := inner m sig₀ m₁ ran
    -- `break` and `continue` end here; every other signal is passed on as it is
    cases sig₀ with
    | broke => cases stopped
    | continued => cases stopped
    | returned v => cases stopped; simpa [Signal.jump?] using passed
    | _ => cases stopped; simp [Signal.jump?]

theorem functionResult_quiet (body : Eval Value) : Quiet (functionResult body) := by
  rw [quiet_iff]
  intro m sig m' stopped
  rw [functionResult_run] at stopped
  cases ran : body.run m with
  | ok v m₁ => rw [ran] at stopped; cases v <;> cases stopped
  | error sig₀ m₁ =>
    rw [ran] at stopped
    cases sig₀ with
    | returned v => cases stopped
    | _ => cases stopped; rfl

theorem topLevel_quiet (body : Eval Value) : Quiet (topLevel body) := by
  rw [quiet_iff]
  intro m sig m' stopped
  rw [topLevel_run] at stopped
  cases ran : body.run m with
  | ok v m₁ => rw [ran] at stopped; cases stopped
  | error sig₀ m₁ =>
    rw [ran] at stopped
    cases stopped
    exact Signal.escaped_jump sig₀

theorem moduleError_jump (path : String) (f : ParseFault) : (moduleError path f).jump? = none := by
  cases f <;> rfl

/-- An import stops with no jump at any fuel: the module's body runs in
`topLevel`, which ends every jump. -/
@[local spec] theorem importModule_quiet (fuel scope : Nat) (path name : String) :
    Quiet (importModule fuel scope path name) := by
  have resolved : ∀ builtin work d extensions path,
      Quiet (orFail (resolveModule builtin work d extensions path)) :=
    fun _ _ _ _ _ => orFail_quiet fun _ failed => resolveModule_failure_quiet failed
  cases fuel with
  | zero => mvcgen [Interp.importModule]
  | succ fuel =>
    mvcgen [Interp.importModule, resolved, topLevel_quiet]
    exact moduleError_jump _ _

/-! ## The invariant, fuel by fuel -/

/-- At one fuel: expressions, calls and natives stop with no jump, and
statements with none but the jumps they hold. A loop lets out the `return`s of
its body. -/
structure Disciplined (fuel : Nat) : Prop where
  expr_quiet : ∀ scope e, Quiet (expr fuel scope e)
  exprs_quiet : ∀ scope es, Quiet (exprs fuel scope es)
  entryValues_quiet : ∀ scope entries, Quiet (entryValues fuel scope entries)
  assignment_quiet : ∀ scope op target value, Quiet (assignment fuel scope op target value)
  stmt_letsOut : ∀ scope s, LetsOut s.jumps (stmt fuel scope s)
  stmts_letsOut : ∀ scope body, LetsOut (Stmt.listJumps body) (stmts fuel scope body)
  whileLoop_letsOut : ∀ scope test body,
    LetsOut (Stmt.loop test body).jumps (whileLoop fuel scope test body)
  forLoop_letsOut : ∀ scope test update body,
    LetsOut (Stmt.forLoop none test update body).jumps (forLoop fuel scope test update body)
  call_quiet : ∀ f args scope, Quiet (call fuel f args scope)
  invokeNative_quiet : ∀ n args scope, Quiet (invokeNative fuel n args scope)
  foreachLoop_quiet : ∀ fn ref i count scope, Quiet (foreachLoop fuel fn ref i count scope)

/-- With no fuel every function stops with `Signal.exhausted`. -/
theorem disciplined_zero : Disciplined 0 where
  expr_quiet _ _ := by mvcgen [Interp.expr]
  exprs_quiet _ _ := by mvcgen [Interp.exprs]
  entryValues_quiet _ _ := by mvcgen [Interp.entryValues]
  assignment_quiet _ _ _ _ := by mvcgen [Interp.assignment]
  stmt_letsOut _ _ := by mvcgen [Interp.stmt]; simp [Signal.jump?]
  stmts_letsOut _ _ := by mvcgen [Interp.stmts]; simp [Signal.jump?]
  whileLoop_letsOut _ _ _ := by mvcgen [Interp.whileLoop]; simp [Signal.jump?]
  forLoop_letsOut _ _ _ _ := by mvcgen [Interp.forLoop]; simp [Signal.jump?]
  call_quiet _ _ _ := by mvcgen [Interp.call]
  invokeNative_quiet _ _ _ := by mvcgen [Interp.invokeNative]
  foreachLoop_quiet _ _ _ _ _ := by mvcgen [Interp.foreachLoop]

section Step

/-! Each function at `fuel + 1` calls the others at `fuel` only; its `mvcgen`
proof takes the invariant at `fuel` as the specification of those calls. -/

variable {fuel : Nat} (ih : Disciplined fuel)
include ih

theorem Disciplined.expr_step (scope : Nat) (e : Expr) : Quiet (expr (fuel + 1) scope e) := by
  have expr := ih.expr_quiet
  have exprs := ih.exprs_quiet
  have entryValues := ih.entryValues_quiet
  have assignment := ih.assignment_quiet
  have call := ih.call_quiet
  cases e <;> mvcgen [Interp.expr, expr, exprs, entryValues, assignment, call, onHeap]

theorem Disciplined.exprs_step (scope : Nat) (es : List Expr) : Quiet (exprs (fuel + 1) scope es) := by
  have expr := ih.expr_quiet
  have exprs := ih.exprs_quiet
  cases es <;> mvcgen [Interp.exprs, expr, exprs]

theorem Disciplined.entryValues_step (scope : Nat) (entries : List Entry) :
    Quiet (entryValues (fuel + 1) scope entries) := by
  have expr := ih.expr_quiet
  have entryValues := ih.entryValues_quiet
  rcases entries with _ | ⟨_ | _, _⟩
  all_goals mvcgen [Interp.entryValues, expr, entryValues]

theorem Disciplined.assignment_step (scope : Nat) (op : AssignOp) (target value : Expr) :
    Quiet (assignment (fuel + 1) scope op target value) := by
  have expr := ih.expr_quiet
  cases target <;> mvcgen [Interp.assignment, expr]

theorem Disciplined.stmt_step (scope : Nat) (s : Stmt) : LetsOut s.jumps (stmt (fuel + 1) scope s) := by
  have expr := ih.expr_quiet
  have stmt := ih.stmt_letsOut
  have stmts := ih.stmts_letsOut
  have whileLoop := ih.whileLoop_letsOut
  have forLoop := ih.forLoop_letsOut
  -- `mvcgen` does not split a `match` on an optional part inside a `do` block; split it first
  rcases s with _ | _ | ⟨_, _, _ | _⟩ | _ | _ | ⟨_, _, _ | _⟩ | _ | ⟨_ | _, _, _, _⟩ | _ | _ | (_ | _) |
    _ | _ | _ | _
  all_goals mvcgen [Interp.stmt, expr, stmt, stmts, whileLoop, forLoop, onHeap]
  -- what is left: the jumps of a part are jumps of the whole
  all_goals simp_all [Stmt.jumps, Signal.jump?]

theorem Disciplined.stmts_step (scope : Nat) (body : List Stmt) :
    LetsOut (Stmt.listJumps body) (stmts (fuel + 1) scope body) := by
  have stmt := ih.stmt_letsOut
  have stmts := ih.stmts_letsOut
  rcases body with _ | ⟨_, _ | _⟩
  all_goals mvcgen [Interp.stmts, stmt, stmts]
  all_goals simp_all [Stmt.listJumps, Signal.jump?]

theorem Disciplined.whileLoop_step (scope : Nat) (test : Expr) (body : Stmt) :
    LetsOut (Stmt.loop test body).jumps (whileLoop (fuel + 1) scope test body) := by
  have expr := ih.expr_quiet
  have pass := fun bodyScope => loopPass_letsOut (ih.stmt_letsOut bodyScope body)
  have whileLoop := ih.whileLoop_letsOut
  mvcgen [Interp.whileLoop, expr, pass, whileLoop]
  all_goals simp_all [Stmt.jumps, Signal.jump?]

theorem Disciplined.forLoop_step (scope : Nat) (test update : Option Expr) (body : Stmt) :
    LetsOut (Stmt.forLoop none test update body).jumps (forLoop (fuel + 1) scope test update body) := by
  have expr := ih.expr_quiet
  have pass := fun bodyScope => loopPass_letsOut (ih.stmt_letsOut bodyScope body)
  have forLoop := ih.forLoop_letsOut
  cases test <;> cases update
  all_goals mvcgen [Interp.forLoop, expr, pass, forLoop]
  all_goals simp_all [Stmt.jumps, Signal.jump?]

theorem Disciplined.call_step (f : Value) (args : List Value) (scope : Nat) :
    Quiet (call (fuel + 1) f args scope) := by
  have invokeNative := ih.invokeNative_quiet
  cases f with
  | closure ref =>
    -- binding the parameters fails with faults only; the body ends in `functionResult`
    mvcgen [Interp.call, functionResult_quiet] invariants
    · post⟨fun _ => ⌜True⌝, fun sig => ⌜sig.jump? = none⌝⟩
    all_goals exact fun _ quiet => quiet
  | _ => mvcgen [Interp.call, invokeNative]

theorem Disciplined.invokeNative_step (n : Native) (args : List Value) (scope : Nat) :
    Quiet (invokeNative (fuel + 1) n args scope) := by
  have call := ih.call_quiet
  have foreachLoop := ih.foreachLoop_quiet
  cases n with
  | bound m self => mvcgen [Interp.invokeNative, call]
  | arrayMethod m => cases m <;> mvcgen [Interp.invokeNative, foreachLoop]
  | _ => mvcgen [Interp.invokeNative]

theorem Disciplined.foreachLoop_step (fn : Value) (ref i count scope : Nat) :
    Quiet (foreachLoop (fuel + 1) fn ref i count scope) := by
  have call := ih.call_quiet
  have foreachLoop := ih.foreachLoop_quiet
  mvcgen [Interp.foreachLoop, call, foreachLoop]

theorem Disciplined.succ : Disciplined (fuel + 1) where
  expr_quiet := ih.expr_step
  exprs_quiet := ih.exprs_step
  entryValues_quiet := ih.entryValues_step
  assignment_quiet := ih.assignment_step
  stmt_letsOut := ih.stmt_step
  stmts_letsOut := ih.stmts_step
  whileLoop_letsOut := ih.whileLoop_step
  forLoop_letsOut := ih.forLoop_step
  call_quiet := ih.call_step
  invokeNative_quiet := ih.invokeNative_step
  foreachLoop_quiet := ih.foreachLoop_step

end Step

theorem disciplined (fuel : Nat) : Disciplined fuel := by
  induction fuel with
  | zero => exact disciplined_zero
  | succ fuel ih => exact ih.succ

/-! ## The discipline -/

/-- How `return`, `break` and `continue` travel through a run, and what
`try`/`catch` stops. -/
structure SignalDiscipline : Prop where
  /-- A program stops with no jump, -/
  program_quiet : ∀ scope p m sig m', (program scope p).run m = .error sig m' → sig.jump? = none
  /-- and so does a call of any value. -/
  call_quiet : ∀ fuel f args scope m sig m',
    (call fuel f args scope).run m = .error sig m' → sig.jump? = none
  /-- A statement lets out only the jumps it holds outside its own loops and
  functions: a `break` or `continue` goes no further than the innermost loop
  around it in the same function body. -/
  stmt_jumps : ∀ fuel scope s m sig m',
    (stmt fuel scope s).run m = .error sig m' → ∀ j ∈ sig.jump?, s.jumps j = true
  /-- A loop whose body breaks stops; -/
  pass_break : ∀ body m m', body.run m = .error .broke m' → (loopPass body).run m = .ok true m'
  /-- one whose body continues goes on as after a body that completes, a `for`
  loop with its update; -/
  pass_continue : ∀ body m m', (body.run m = .error .continued m' ∨ ∃ v, body.run m = .ok v m') →
    (loopPass body).run m = .ok false m'
  /-- every other signal leaves the loop as it is. -/
  pass_other : ∀ body m sig m', body.run m = .error sig m' → sig.jump? ≠ some .brk →
    sig.jump? ≠ some .cont → (loopPass body).run m = .error sig m'
  /-- A call gives the value its function returns; -/
  function_return : ∀ body m v m', body.run m = .error (.returned v) m' →
    (functionResult body).run m = .ok v m'
  /-- any other signal leaves the function body escaped: a `break` or
  `continue` becomes an IllegalBreak or IllegalContinue fault, also where the
  call stands in a loop. -/
  function_escape : ∀ body m sig m', body.run m = .error sig m' → (∀ v, sig ≠ .returned v) →
    (functionResult body).run m = .error sig.escaped m'
  /-- A signal leaves a program or module body escaped: a `return` there is an
  IllegalReturn fault. -/
  top_escape : ∀ body m sig m', body.run m = .error sig m' → (topLevel body).run m = .error sig.escaped m'
  /-- `try`/`catch` runs its handler on a thrown value, -/
  catch_thrown : ∀ fuel scope body param handler m v m',
    (stmts fuel scope body).run m = .error (.thrown v) m' →
      (stmt (fuel + 1) scope (.tryCatch body param handler)).run m =
        (do
          let catchScope ← childScope scope
          declare catchScope param v true
          stmts fuel catchScope handler).run m'
  /-- and lets every other signal through as it is: jumps and faults alike. -/
  catch_other : ∀ fuel scope body param handler m sig m',
    (stmts fuel scope body).run m = .error sig m' → (∀ v, sig ≠ .thrown v) →
      (stmt (fuel + 1) scope (.tryCatch body param handler)).run m = .error sig m'

theorem control_signals_stay_in_their_constructs : SignalDiscipline where
  program_quiet scope p := quiet_iff.mp (topLevel_quiet (stmts fuel scope p.body))
  call_quiet fuel f args scope := quiet_iff.mp ((disciplined fuel).call_quiet f args scope)
  stmt_jumps fuel scope s := letsOut_iff.mp ((disciplined fuel).stmt_letsOut scope s)
  pass_break body m m' broke := by rw [loopPass_run, broke]
  pass_continue body m m' := by
    rintro (continued | ⟨v, completed⟩)
    · rw [loopPass_run, continued]
    · rw [loopPass_run, completed]
  pass_other body m sig m' stopped notBreak notContinue := by
    rw [loopPass_run, stopped]
    cases sig with
    | broke => exact absurd rfl notBreak
    | continued => exact absurd rfl notContinue
    | _ => rfl
  function_return body m v m' returned := by rw [functionResult_run, returned]
  function_escape body m sig m' stopped notReturn := by
    rw [functionResult_run, stopped]
    cases sig with
    | returned v => exact absurd rfl (notReturn v)
    | _ => rfl
  top_escape body m sig m' stopped := by rw [topLevel_run, stopped]
  catch_thrown fuel scope body param handler m v m' thrown := by
    rw [Interp.stmt, run_tryCatch, thrown]
  catch_other fuel scope body param handler m sig m' stopped notThrown := by
    rw [Interp.stmt, run_tryCatch, stopped]
    cases sig with
    | thrown v => exact absurd rfl (notThrown v)
    | _ => rfl

end Interp

end Vernacular
