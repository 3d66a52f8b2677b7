import Mathlib
import Vernacular.Proofs.Invariants
import Vernacular.Proofs.ScopeStore
/-!
# Where declarations land

A statement declares names in the scope it runs in: the names of its `let`,
`const`, function and import statements that it reaches without entering a
loop body, the start of a `for` loop, a function body or a `catch` handler
(`Stmt.declaredNames`). Blocks, branches and `try` bodies run in the same
scope. Everything else runs in a scope allocated for it: each pass of a loop
body, the start of a `for` loop, a call, a `catch` handler and an imported
module, so what they declare binds in no scope that existed before.

`Heap.AddsWithin h₀ h added` says that every scope of `h₀` is still there in
`h` and binds there only names it bound in `h₀` or that `added` allows.
`Interp.Confining h₀ added fuel` says, at one fuel, what each function of the
evaluator may add to the scopes of `h₀`: a statement the names it declares, in
its own scope; an import its alias; every other function nothing. Each
function keeps it from one fuel to the next, so it holds at every fuel, and
`Interp.stmt_adds_only_its_declarations` reads it off for one statement.
-/

set_option autoImplicit false
set_option mvcgen.warning false

open Std.Do

namespace Vernacular

mutual

/-- The names a statement declares in the scope it runs in: those of the
declarations, function statements and imports it reaches without entering a
loop body, the start of a `for` loop, a function body or a `catch` handler. -/
def Stmt.declaredNames : Stmt → List String
  | .declare _ name _ | .function name _ _ | .importModule _ name => [name]
  | .block body | .tryCatch body _ _ => Stmt.listDeclaredNames body
  | .ifElse _ consequent none => consequent.declaredNames
  | .ifElse _ consequent (some alternate) => consequent.declaredNames ++ alternate.declaredNames
  | .empty | .expr _ | .loop _ _ | .forLoop _ _ _ _ | .throw _ | .ret _ | .brk | .cont | .export _ => []

/-- The names a list of statements declares in the scope it runs in. -/
def Stmt.listDeclaredNames : List Stmt → List String
  | [] => []
  | s :: rest => s.declaredNames ++ Stmt.listDeclaredNames rest

end

namespace Heap

/-- Every scope of `h₀` is still there in `h`, and binds there only names it
bound in `h₀` or that `added` allows it. -/
structure AddsWithin (h₀ h : Heap) (added : Nat → String → Prop) : Prop where
  grows : h₀.scopes.size ≤ h.scopes.size
  names : ∀ ref, ref < h₀.scopes.size → ∀ name, h.Binds ref name → h₀.Binds ref name ∨ added ref name

namespace AddsWithin

variable {h₀ h h' : Heap} {added : Nat → String → Prop}

theorem refl (h : Heap) (added : Nat → String → Prop) : h.AddsWithin h added :=
  ⟨le_rfl, fun _ _ _ bound => .inl bound⟩

/-- A step that drops no scope and binds no new name in a scope of `h₀`. -/
theorem step (adds : h₀.AddsWithin h added) (grows : h.scopes.size ≤ h'.scopes.size)
    (old : ∀ ref, ref < h₀.scopes.size → ∀ name, h'.Binds ref name → h.Binds ref name) :
    h₀.AddsWithin h' added :=
  ⟨adds.grows.trans grows, fun ref inside name bound => adds.names ref inside name (old ref inside name bound)⟩

/-- A step that leaves the scopes as they are. -/
theorem of_scopes (adds : h₀.AddsWithin h added) (same : h'.scopes = h.scopes) : h₀.AddsWithin h' added :=
  adds.step (by rw [same]) fun ref _ name bound => by simpa only [Binds, scope, same] using bound

theorem allocScope (adds : h₀.AddsWithin h added) (parent : Option Nat) :
    h₀.AddsWithin (h.allocScope parent).2 added := by
  refine adds.step (by cases parent <;> simp [Heap.allocScope, Heap.allocObject]) fun ref inside name bound => ?_
  -- the new scope is past every scope of `h₀`
  rw [Binds, scope_allocScope, if_neg (by have := adds.grows; omega)] at bound
  exact bound

/-- The library's globals go into a scope allocated since `h₀`. -/
theorem install (adds : h₀.AddsWithin h added) {ref : Nat} (fresh : h₀.scopes.size ≤ ref) (name : String)
    (v : Value) : h₀.AddsWithin (h.install ref name v) added := by
  refine adds.step (by simp [Heap.install]) fun r inside n bound => ?_
  simp only [Binds, Heap.install] at bound
  rw [scope_setScope, if_neg (by omega)] at bound
  exact bound

theorem allocArray (adds : h₀.AddsWithin h added) (els : Array Value) :
    h₀.AddsWithin (h.allocArray els).2 added :=
  adds.of_scopes rfl

theorem allocObject (adds : h₀.AddsWithin h added) (o : ObjectCell) :
    h₀.AddsWithin (h.allocObject o).2 added :=
  adds.of_scopes rfl

theorem allocClosure (adds : h₀.AddsWithin h added) (c : Closure) :
    h₀.AddsWithin (h.allocClosure c).2 added :=
  adds.of_scopes rfl

theorem allocNative (adds : h₀.AddsWithin h added) (n : Native) :
    h₀.AddsWithin (h.allocNative n).2 added :=
  adds.of_scopes rfl

theorem setElements (adds : h₀.AddsWithin h added) (ref : Nat) (els : Array Value) :
    h₀.AddsWithin (h.setElements ref els) added :=
  adds.of_scopes rfl

theorem objectSet (adds : h₀.AddsWithin h added) (ref : Nat) (key : Text) (v : Value) :
    h₀.AddsWithin (h.objectSet ref key v) added :=
  adds.of_scopes rfl

theorem of_assign {ref : Nat} {name : String} {v : Value} (adds : h₀.AddsWithin h added)
    (ran : h.assign ref name v = .ok h') : h₀.AddsWithin h' added := by
  obtain ⟨owner, b, -, found, -, written, rebinds⟩ := assign_rebinds ran
  have kept : h'.Binds owner name ↔ h.Binds owner name := by simp [Binds, found, written]
  exact adds.step rebinds.size.ge fun r _ n bound => (rebinds.binds_iff kept r n).mp bound

/-- A declaration adds its name to its scope, which `added` allows when the
scope is one of `h₀`. -/
theorem of_declare {ref : Nat} {name : String} {v : Value} {constant : Bool} (adds : h₀.AddsWithin h added)
    (ran : h.declare ref name v constant = .ok h') (allowed : ref < h₀.scopes.size → added ref name) :
    h₀.AddsWithin h' added := by
  have rebinds := Rebinds.of_declare ran
  refine ⟨adds.grows.trans rebinds.size.ge, fun r inside n bound => ?_⟩
  by_cases same : r = ref ∧ n = name
  case pos =>
    obtain ⟨rfl, rfl⟩ := same
    exact .inr (allowed inside)
  case neg =>
    have old : h.Binds r n := by
      simpa only [Binds, rebinds.others r n (by tauto)] using bound
    exact adds.names r inside n old

end AddsWithin

end Heap

namespace Interp

open Eval

/-- The names `names` may be added to `scope` when it is a scope of `h₀`. -/
def Declares (h₀ : Heap) (added : Nat → String → Prop) (scope : Nat) (names : List String) : Prop :=
  scope < h₀.scopes.size → ∀ name ∈ names, added scope name

theorem declares_of_fresh {h₀ : Heap} {added : Nat → String → Prop} {scope : Nat}
    (fresh : h₀.scopes.size ≤ scope) (names : List String) : Declares h₀ added scope names :=
  fun old => absurd old (Nat.not_lt.mpr fresh)

/-- A computation adds no name to a scope of `h₀` beyond what `added` allows:
started from a heap that added within `added` since `h₀`, it ends, with a
value or with a signal, in one that still does. -/
abbrev StaysWithin {α : Type} (h₀ : Heap) (added : Nat → String → Prop) (x : Eval α) : Prop :=
  ⦃fun m => ⌜h₀.AddsWithin m.heap added⌝⦄ x
    ⦃post⟨fun _ m => ⌜h₀.AddsWithin m.heap added⌝, fun _ m => ⌜h₀.AddsWithin m.heap added⌝⟩⦄

/-- A computation that stays within `added` when started where `pre` holds,
and whose values `ok` accepts. -/
abbrev Confined {α : Type} (h₀ : Heap) (added : Nat → String → Prop) (pre : Prop) (ok : α → Prop)
    (x : Eval α) : Prop :=
  ⦃fun m => ⌜pre ∧ h₀.AddsWithin m.heap added⌝⦄ x
    ⦃post⟨fun a m => ⌜ok a ∧ h₀.AddsWithin m.heap added⌝, fun _ m => ⌜h₀.AddsWithin m.heap added⌝⟩⦄

/-- What a confined computation says about its runs. -/
theorem confined_iff {α : Type} {h₀ : Heap} {added : Nat → String → Prop} {pre : Prop} {ok : α → Prop}
    {x : Eval α} : Confined h₀ added pre ok x ↔ ∀ m, pre → h₀.AddsWithin m.heap added →
      match x.run m with
      | .ok a m' => ok a ∧ h₀.AddsWithin m'.heap added
      | .error _ m' => h₀.AddsWithin m'.heap added := by
  constructor
  · intro spec m given adds
    have ran := spec m ⟨given, adds⟩
    simp only [wp, PredTrans.apply] at ran
    cases result : x.run m with
    | ok a m' => simpa [result] using ran
    | error sig m' => simpa [result] using ran
  · intro runs m start
    simp only [wp, PredTrans.apply]
    have ran := runs m start.1 start.2
    cases result : x.run m with
    | ok a m' => simpa [result] using ran
    | error sig m' => simpa [result] using ran

/-- A computation that leaves the scopes as they are stays within any allowance. -/
theorem staysWithin_of_scopes {α : Type} {x : Eval α}
    (runs : ∀ m, match x.run m with
      | .ok _ m' | .error _ m' => m'.heap.scopes = m.heap.scopes)
    (h₀ : Heap) (added : Nat → String → Prop) : StaysWithin h₀ added x := by
  intro m adds
  simp only [wp, PredTrans.apply]
  have ran := runs m
  cases result : x.run m with
  | ok a m' =>
    rw [result] at ran
    simpa [result] using adds.of_scopes ran
  | error sig m' =>
    rw [result] at ran
    simpa [result] using adds.of_scopes ran

/-! ## The helpers of the evaluator -/

section Helpers

variable (h₀ : Heap) (added : Nat → String → Prop)

theorem lookup_staysWithin (scope : Nat) (name : String) : StaysWithin h₀ added (lookup scope name) := by
  mvcgen [lookup, heap, orFail]

theorem assign_staysWithin (scope : Nat) (name : String) (v : Value) :
    StaysWithin h₀ added (assign scope name v) := by
  mvcgen [assign, heap, orFail]
  exact Heap.AddsWithin.of_assign ‹_› ‹_›

theorem declare_confined (scope : Nat) (name : String) (v : Value) (constant : Bool) :
    Confined h₀ added (Declares h₀ added scope [name]) (fun _ => True) (declare scope name v constant) := by
  mvcgen [declare, heap, orFail]
  case vc1.h_1 start _ ran _ =>
    exact ⟨trivial, start.2.of_declare ran fun old => start.1 old name (List.mem_singleton_self name)⟩
  case vc2.h_2 start _ _ => exact start.2

theorem childScope_confined (parent : Nat) :
    Confined h₀ added True (fun scope => h₀.scopes.size ≤ scope) (childScope parent) := by
  mvcgen [childScope, onHeap]
  rename_i start _
  -- the new scope's index is the old number of scopes
  exact ⟨start.2.grows, start.2.allocScope _⟩

theorem allocClosure_staysWithin (c : Closure) : StaysWithin h₀ added (onHeap (·.allocClosure c)) := by
  mvcgen [onHeap]
  exact Heap.AddsWithin.allocClosure ‹_› c

theorem newArray_staysWithin (vs : Array Value) : StaysWithin h₀ added (newArray vs) := by
  mvcgen [newArray, onHeap]
  exact Heap.AddsWithin.allocArray ‹_› vs

theorem newObject_staysWithin (entries : List (Text × Value)) (frozen : Bool) :
    StaysWithin h₀ added (newObject entries frozen) := by
  mvcgen [newObject, onHeap]
  exact Heap.AddsWithin.allocObject ‹_› _

theorem getProperty_staysWithin (scope : Nat) (obj key : Value) :
    StaysWithin h₀ added (getProperty scope obj key) := by
  mvcgen [getProperty, method, heap, newNative, onHeap, unknownProperty, text]
  all_goals exact Heap.AddsWithin.allocNative ‹_› _

theorem setProperty_staysWithin (obj key v : Value) : StaysWithin h₀ added (setProperty obj key v) := by
  mvcgen [setProperty, heap, updateHeap, text, describe]
  all_goals first
    | exact Heap.AddsWithin.setElements ‹_› _ _
    | exact Heap.AddsWithin.objectSet ‹_› _ _ _

theorem exportNames_staysWithin (scope : Nat) (names : List String) :
    StaysWithin h₀ added (exportNames scope names) := by
  mvcgen [exportNames, heap, orFail, updateHeap] invariants
  · post⟨fun _ m => ⌜h₀.AddsWithin m.heap added⌝, fun _ m => ⌜h₀.AddsWithin m.heap added⌝⟩
  exact Heap.AddsWithin.objectSet ‹_› _ _ _

theorem debug_staysWithin (message : String) (attrs : List (String × LogValue)) :
    StaysWithin h₀ added (debug message attrs) := by
  mvcgen [debug, writeErr]

theorem orFail_staysWithin {α : Type} (r : Except Signal α) : StaysWithin h₀ added (orFail r) := by
  cases r <;> mvcgen [orFail]

theorem invoke_staysWithin (n : Native) (args : List Value) (scope : Nat) :
    StaysWithin h₀ added (Library.invoke n args scope) := by
  refine staysWithin_of_scopes (fun m => ?_) h₀ added
  have effect := Library.invoke_effect n args scope m
  cases result : (Library.invoke n args scope).run m with
  | ok a m' =>
    rw [result] at effect
    exact effect.scopes
  | error sig m' =>
    rw [result] at effect
    exact effect.2.scopes

/-- A fresh global scope is allocated past every scope of `h₀`, and the
library's globals go into it. -/
theorem globalScope_confined (d : Dialect) :
    Confined h₀ added True (fun scope => h₀.scopes.size ≤ scope) (Library.globalScope d) := by
  unfold Library.globalScope
  generalize Library.globalEntries d = entries
  mvcgen [onHeap, Library.newReader, newNative, Library.namespaceOf, newObject, updateHeap] invariants
  · by
      rename_i allocated _
      exact post⟨fun _ m => ⌜h₀.AddsWithin m.heap added ∧ h₀.scopes.size ≤ allocated.1⌝,
        fun _ m => ⌜h₀.AddsWithin m.heap added⌝⟩
  · post⟨fun _ m => ⌜h₀.AddsWithin m.heap added⌝, fun _ m => ⌜h₀.AddsWithin m.heap added⌝⟩
  case vc7.pre =>
    rename_i initial _ _
    exact ⟨initial.2.allocScope none, initial.2.grows⟩
  case vc1.step.h_1 =>
    rename_i state _ _
    exact ⟨(state.1.allocNative _).install state.2 _ _, state.2⟩
  case vc2.step.h_1 => exact Heap.AddsWithin.allocNative ‹_› _
  case vc4.step.h_2.pre =>
    rename_i state _
    exact state.1
  case vc5.step.h_2.post.success =>
    rename_i outer _ _ _ inner _ _
    exact ⟨(inner.allocObject _).install outer.2 _ _, outer.2⟩
  case vc8.post.success =>
    rename_i state
    exact ⟨state.2, state.1⟩

end Helpers

@[simp] theorem declares_nil (h₀ : Heap) (added : Nat → String → Prop) (scope : Nat) :
    Declares h₀ added scope [] := fun _ _ absent => absurd absent List.not_mem_nil

@[simp] theorem declares_append {h₀ : Heap} {added : Nat → String → Prop} {scope : Nat}
    {names names' : List String} :
    Declares h₀ added scope (names ++ names') ↔ Declares h₀ added scope names ∧ Declares h₀ added scope names' := by
  simp only [Declares, List.mem_append, or_imp, forall_and]

/-! ## Every function of the evaluator is confined -/

section Confine

variable (h₀ : Heap) (added : Nat → String → Prop)

/-- The triples of every function of the evaluator at one fuel: a statement or
a list of them adds to their scope only the names they declare, an import only
its alias, and every other function adds nothing to the scopes of `h₀`. -/
structure Confining (fuel : Nat) : Prop where
  expr : ∀ scope e, StaysWithin h₀ added (expr fuel scope e)
  exprs : ∀ scope es, StaysWithin h₀ added (exprs fuel scope es)
  entryValues : ∀ scope entries, StaysWithin h₀ added (entryValues fuel scope entries)
  assignment : ∀ scope op target value, StaysWithin h₀ added (assignment fuel scope op target value)
  stmt : ∀ scope (s : Stmt),
    Confined h₀ added (Declares h₀ added scope s.declaredNames) (fun _ => True) (stmt fuel scope s)
  stmts : ∀ scope body, Confined h₀ added (Declares h₀ added scope (Stmt.listDeclaredNames body))
    (fun _ => True) (stmts fuel scope body)
  whileLoop : ∀ scope test body, StaysWithin h₀ added (whileLoop fuel scope test body)
  forLoop : ∀ scope test update body, StaysWithin h₀ added (forLoop fuel scope test update body)
  call : ∀ f args scope, StaysWithin h₀ added (call fuel f args scope)
  invokeNative : ∀ n args scope, StaysWithin h₀ added (invokeNative fuel n args scope)
  foreachLoop : ∀ fn ref i count scope, StaysWithin h₀ added (foreachLoop fuel fn ref i count scope)
  importModule : ∀ scope path name,
    Confined h₀ added (Declares h₀ added scope [name]) (fun _ => True) (importModule fuel scope path name)

/-- With no fuel every function stops at once, with the heap as it was. -/
theorem confining_zero : Confining h₀ added 0 := by
  constructor
  all_goals intros; mvcgen [Interp.expr, Interp.exprs, Interp.entryValues, Interp.assignment,
    Interp.stmt, Interp.stmts, Interp.whileLoop, Interp.forLoop, Interp.call, Interp.invokeNative,
    Interp.foreachLoop, Interp.importModule]
  all_goals simp_all

section Step

/-! Each function at `fuel + 1` calls the others at `fuel` only; its `mvcgen`
proof takes the triples at `fuel` and those of the helpers as the
specifications of what it calls. A scope allocated on the way is past every
scope of `h₀`, so whatever is declared in it is allowed. -/

variable {h₀ added} {fuel : Nat} (ih : Confining h₀ added fuel)
include ih

theorem Confining.expr_step (scope : Nat) (e : Expr) : StaysWithin h₀ added (Interp.expr (fuel + 1) scope e) := by
  have expr := ih.expr
  have exprs := ih.exprs
  have entryValues := ih.entryValues
  have assignment := ih.assignment
  have call := ih.call
  have lookup := lookup_staysWithin h₀ added
  have assign := assign_staysWithin h₀ added
  have getProperty := getProperty_staysWithin h₀ added
  have newArray := newArray_staysWithin h₀ added
  have newObject := newObject_staysWithin h₀ added
  have allocClosure := allocClosure_staysWithin h₀ added
  cases e
  all_goals mvcgen [Interp.expr, expr, exprs, entryValues, assignment, call, lookup, assign,
    getProperty, newArray, newObject, allocClosure]

theorem Confining.exprs_step (scope : Nat) (es : List Expr) :
    StaysWithin h₀ added (Interp.exprs (fuel + 1) scope es) := by
  have expr := ih.expr
  have exprs := ih.exprs
  cases es <;> mvcgen [Interp.exprs, expr, exprs]

theorem Confining.entryValues_step (scope : Nat) (entries : List Entry) :
    StaysWithin h₀ added (Interp.entryValues (fuel + 1) scope entries) := by
  have expr := ih.expr
  have entryValues := ih.entryValues
  have lookup := lookup_staysWithin h₀ added
  rcases entries with _ | ⟨_ | _, _⟩
  all_goals mvcgen [Interp.entryValues, expr, entryValues, lookup]

theorem Confining.assignment_step (scope : Nat) (op : AssignOp) (target value : Expr) :
    StaysWithin h₀ added (Interp.assignment (fuel + 1) scope op target value) := by
  have expr := ih.expr
  have lookup := lookup_staysWithin h₀ added
  have assign := assign_staysWithin h₀ added
  have getProperty := getProperty_staysWithin h₀ added
  have setProperty := setProperty_staysWithin h₀ added
  cases target
  all_goals mvcgen [Interp.assignment, expr, lookup, assign, getProperty, setProperty]

theorem Confining.stmt_step (scope : Nat) (s : Stmt) :
    Confined h₀ added (Declares h₀ added scope s.declaredNames) (fun _ => True)
      (Interp.stmt (fuel + 1) scope s) := by
  have expr := ih.expr
  have stmt := ih.stmt
  have stmts := ih.stmts
  have whileLoop := ih.whileLoop
  have forLoop := ih.forLoop
  have importModule := ih.importModule
  have declare := declare_confined h₀ added
  have childScope := childScope_confined h₀ added
  have allocClosure := allocClosure_staysWithin h₀ added
  have exportNames := exportNames_staysWithin h₀ added
  -- `mvcgen` does not split a `match` on an optional part inside a `do` block; split it first
  rcases s with _ | _ | ⟨_, _, _ | _⟩ | _ | _ | ⟨_, _, _ | _⟩ | _ | ⟨_ | _, _, _, _⟩ | _ | _ | (_ | _) |
    _ | _ | _ | _
  all_goals mvcgen [Interp.stmt, expr, stmt, stmts, whileLoop, forLoop, importModule, declare,
    childScope, allocClosure, exportNames]
  all_goals simp_all [Stmt.declaredNames, declares_of_fresh]

theorem Confining.stmts_step (scope : Nat) (body : List Stmt) :
    Confined h₀ added (Declares h₀ added scope (Stmt.listDeclaredNames body)) (fun _ => True)
      (Interp.stmts (fuel + 1) scope body) := by
  have stmt := ih.stmt
  have stmts := ih.stmts
  rcases body with _ | ⟨_, _ | _⟩
  all_goals mvcgen [Interp.stmts, stmt, stmts]
  all_goals simp_all [Stmt.listDeclaredNames]

theorem Confining.whileLoop_step (scope : Nat) (test : Expr) (body : Stmt) :
    StaysWithin h₀ added (Interp.whileLoop (fuel + 1) scope test body) := by
  have expr := ih.expr
  have stmt := ih.stmt
  have whileLoop := ih.whileLoop
  have childScope := childScope_confined h₀ added
  mvcgen [Interp.whileLoop, expr, stmt, whileLoop, childScope, loopPass, loopSignal]
  all_goals simp_all [declares_of_fresh]

theorem Confining.forLoop_step (scope : Nat) (test update : Option Expr) (body : Stmt) :
    StaysWithin h₀ added (Interp.forLoop (fuel + 1) scope test update body) := by
  have expr := ih.expr
  have stmt := ih.stmt
  have forLoop := ih.forLoop
  have childScope := childScope_confined h₀ added
  cases test <;> cases update
  all_goals mvcgen [Interp.forLoop, expr, stmt, forLoop, childScope, loopPass, loopSignal]
  all_goals simp_all [declares_of_fresh]

theorem Confining.call_step (f : Value) (args : List Value) (scope : Nat) :
    StaysWithin h₀ added (Interp.call (fuel + 1) f args scope) := by
  have stmts := ih.stmts
  have invokeNative := ih.invokeNative
  have childScope := childScope_confined h₀ added
  have declare := declare_confined h₀ added
  cases f with
  | closure ref =>
    mvcgen [Interp.call, functionResult, Eval.heap, stmts, childScope, declare] invariants
    · post⟨fun _ m => ⌜h₀.AddsWithin m.heap added⌝, fun _ m => ⌜h₀.AddsWithin m.heap added⌝⟩
    all_goals simp_all [declares_of_fresh]
  | native ref => mvcgen [Interp.call, Eval.heap, invokeNative]
  | _ => mvcgen [Interp.call, Eval.describe, Eval.heap]

theorem Confining.invokeNative_step (n : Native) (args : List Value) (scope : Nat) :
    StaysWithin h₀ added (Interp.invokeNative (fuel + 1) n args scope) := by
  have call := ih.call
  have foreachLoop := ih.foreachLoop
  have invoke := invoke_staysWithin h₀ added
  cases n with
  | bound f self => mvcgen [Interp.invokeNative, call]
  | arrayMethod m =>
    cases m
    all_goals mvcgen [Interp.invokeNative, foreachLoop, invoke, requireArgs, Library.arrayArg,
      Eval.heap, throwMessage, throwText]
  | _ => mvcgen [Interp.invokeNative, invoke]

theorem Confining.foreachLoop_step (fn : Value) (ref i count scope : Nat) :
    StaysWithin h₀ added (Interp.foreachLoop (fuel + 1) fn ref i count scope) := by
  have call := ih.call
  have foreachLoop := ih.foreachLoop
  mvcgen [Interp.foreachLoop, Eval.heap, call, foreachLoop]

theorem Confining.importModule_step (scope : Nat) (path name : String) :
    Confined h₀ added (Declares h₀ added scope [name]) (fun _ => True)
      (Interp.importModule (fuel + 1) scope path name) := by
  have stmts := ih.stmts
  -- taken whole: elaborating it applied would unfold the installation of the library's globals
  have installed := @globalScope_confined h₀ added
  have debug := debug_staysWithin h₀ added
  have declare := declare_confined h₀ added
  have newObject := newObject_staysWithin h₀ added
  have resolved : ∀ builtin work d extensions path,
      StaysWithin h₀ added (orFail (resolveModule builtin work d extensions path)) :=
    fun _ _ _ _ _ => orFail_staysWithin h₀ added _
  rw [Interp.importModule]
  mvcgen [resolved, topLevel, Eval.heap, stmts, installed, debug, declare, newObject]
  all_goals simp_all [declares_of_fresh]

theorem Confining.succ : Confining h₀ added (fuel + 1) where
  expr := ih.expr_step
  exprs := ih.exprs_step
  entryValues := ih.entryValues_step
  assignment := ih.assignment_step
  stmt := ih.stmt_step
  stmts := ih.stmts_step
  whileLoop := ih.whileLoop_step
  forLoop := ih.forLoop_step
  call := ih.call_step
  invokeNative := ih.invokeNative_step
  foreachLoop := ih.foreachLoop_step
  importModule := ih.importModule_step

end Step

/-- Every function of the evaluator is confined, at every fuel. -/
theorem confining (fuel : Nat) : Confining h₀ added fuel := by
  induction fuel with
  | zero => exact confining_zero h₀ added
  | succ fuel ih => exact ih.succ

end Confine

/-- The scoping frame of a statement. Run in scope `env`, whether it
finishes or stops partway with a signal, a statement drops no scope, and every
scope that existed before it binds afterwards only the names it bound
already, except that `env` itself may gain the names the statement
declares in it. -/
theorem stmt_adds_only_its_declarations (fuel env : Nat) (s : Stmt) (m : Machine) :
    match (stmt fuel env s).run m with
    | .ok _ m' | .error _ m' =>
      m.heap.AddsWithin m'.heap (fun scope name => scope = env ∧ name ∈ s.declaredNames) := by
  have spec := (confining m.heap (fun scope name => scope = env ∧ name ∈ s.declaredNames) fuel).stmt env s
  -- everything the statement declares is allowed in `env`, and nothing has been added yet
  have runs := confined_iff.mp spec m (fun _ name declared => ⟨rfl, declared⟩) (.refl m.heap _)
  cases result : (stmt fuel env s).run m with
  | ok v m' =>
    rw [result] at runs
    exact runs.2
  | error sig m' =>
    rw [result] at runs
    exact runs

end Interp

end Vernacular
