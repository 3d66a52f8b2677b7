import Vernacular.Proofs.ControlFlow
import Vernacular.Proofs.HeapRegions
/-!
# Invariants of evaluation

An invariant of evaluation relates the machine a run starts in to every
machine the run reaches (`Holds m₀ m`), and says which values, natives,
scopes and signals the run may hold, and which nodes the trees it evaluates
may have. `Invariant.Lawful` lists what such an invariant owes: facts about
one value, one signal or one cell of the heap, and one Hoare triple for each
helper of the evaluator. `Invariant.sustained` proves once, by induction on
fuel, that every function of the evaluator keeps a lawful invariant, on the
values it returns, the signals it stops with and the machine it leaves; the
invariants of the later modules only discharge their obligations.
-/

set_option autoImplicit false
set_option mvcgen.warning false

open Std.Do

namespace Vernacular

/-! ## Trees whose every node passes a test -/

mutual

/-- Whether every expression of a tree, those of function bodies included,
passes `p`. -/
def Expr.all (p : Expr → Bool) : Expr → Bool
  | .ident name => p (.ident name)
  | .number x => p (.number x)
  | .string s => p (.string s)
  | .boolean b => p (.boolean b)
  | .null => p .null
  | .binary op l r => p (.binary op l r) && l.all p && r.all p
  | .logical op l r => p (.logical op l r) && l.all p && r.all p
  | .unary op a => p (.unary op a) && a.all p
  | .step op name => p (.step op name)
  | .call callee args => p (.call callee args) && callee.all p && Expr.allList p args
  | .field obj name => p (.field obj name) && obj.all p
  | .index obj position => p (.index obj position) && obj.all p
  | .computed obj key => p (.computed obj key) && obj.all p && key.all p
  | .assign op target value => p (.assign op target value) && target.all p && value.all p
  | .array elements => p (.array elements) && Expr.allList p elements
  | .object entries => p (.object entries) && Entry.allList p entries
  | .function params body => p (.function params body) && Stmt.allList p body

/-- `Expr.all` on each expression of a list. -/
def Expr.allList (p : Expr → Bool) : List Expr → Bool
  | [] => true
  | e :: rest => e.all p && Expr.allList p rest

/-- `Expr.all` on an optional expression. -/
def Expr.allSome (p : Expr → Bool) : Option Expr → Bool
  | none => true
  | some e => e.all p

/-- `Expr.all` on the value of an entry. -/
def Entry.all (p : Expr → Bool) : Entry → Bool
  | .keyed _ value => value.all p
  | .shorthand _ => true

/-- `Entry.all` on each entry of a list. -/
def Entry.allList (p : Expr → Bool) : List Entry → Bool
  | [] => true
  | entry :: rest => entry.all p && Entry.allList p rest

/-- Whether every expression of a statement passes `p`. -/
def Stmt.all (p : Expr → Bool) : Stmt → Bool
  | .expr e | .throw e | .ret (some e) | .declare _ _ (some e) => e.all p
  | .function _ _ body | .block body => Stmt.allList p body
  | .ifElse test consequent none => test.all p && consequent.all p
  | .ifElse test consequent (some alternate) =>
    test.all p && consequent.all p && alternate.all p
  | .loop test body => test.all p && body.all p
  | .forLoop none test update body => Expr.allSome p test && Expr.allSome p update && body.all p
  | .forLoop (some start) test update body =>
    start.all p && Expr.allSome p test && Expr.allSome p update && body.all p
  | .tryCatch body _ handler => Stmt.allList p body && Stmt.allList p handler
  | .empty | .declare _ _ none | .ret none | .brk | .cont | .importModule _ _ | .export _ => true

/-- `Stmt.all` on each statement of a list. -/
def Stmt.allList (p : Expr → Bool) : List Stmt → Bool
  | [] => true
  | s :: rest => s.all p && Stmt.allList p rest

end

mutual

/-- The test every node passes is passed by every tree. -/
theorem Expr.all_const_true : (e : Expr) → e.all (fun _ => true) = true
  | .ident _ | .number _ | .string _ | .boolean _ | .null | .step _ _ => rfl
  | .binary _ l r | .logical _ l r | .computed l r | .assign _ l r => by
    simp [Expr.all, Expr.all_const_true l, Expr.all_const_true r]
  | .unary _ a | .field a _ | .index a _ => by simp [Expr.all, Expr.all_const_true a]
  | .call callee args => by simp [Expr.all, Expr.all_const_true callee, Expr.allList_const_true args]
  | .array elements => by simp [Expr.all, Expr.allList_const_true elements]
  | .object entries => by simp [Expr.all, Entry.allList_const_true entries]
  | .function _ body => by simp [Expr.all, Stmt.allList_const_true body]

theorem Expr.allList_const_true : (es : List Expr) → Expr.allList (fun _ => true) es = true
  | [] => rfl
  | e :: rest => by simp [Expr.allList, Expr.all_const_true e, Expr.allList_const_true rest]

theorem Expr.allSome_const_true : (e : Option Expr) → Expr.allSome (fun _ => true) e = true
  | none => rfl
  | some e => Expr.all_const_true e

theorem Entry.allList_const_true : (entries : List Entry) → Entry.allList (fun _ => true) entries = true
  | [] => rfl
  | .keyed _ value :: rest => by
    simp [Entry.allList, Entry.all, Expr.all_const_true value, Entry.allList_const_true rest]
  | .shorthand _ :: rest => by simp [Entry.allList, Entry.all, Entry.allList_const_true rest]

theorem Stmt.all_const_true : (s : Stmt) → s.all (fun _ => true) = true
  | .empty | .declare _ _ none | .ret none | .brk | .cont | .importModule _ _ | .export _ => rfl
  | .expr e | .throw e | .ret (some e) | .declare _ _ (some e) => Expr.all_const_true e
  | .function _ _ body | .block body => Stmt.allList_const_true body
  | .ifElse test consequent none => by
    simp [Stmt.all, Expr.all_const_true test, Stmt.all_const_true consequent]
  | .ifElse test consequent (some alternate) => by
    simp [Stmt.all, Expr.all_const_true test, Stmt.all_const_true consequent,
      Stmt.all_const_true alternate]
  | .loop test body => by simp [Stmt.all, Expr.all_const_true test, Stmt.all_const_true body]
  | .forLoop none test update body => by
    simp [Stmt.all, Expr.allSome_const_true test, Expr.allSome_const_true update,
      Stmt.all_const_true body]
  | .forLoop (some start) test update body => by
    simp [Stmt.all, Stmt.all_const_true start, Expr.allSome_const_true test,
      Expr.allSome_const_true update, Stmt.all_const_true body]
  | .tryCatch body _ handler => by
    simp [Stmt.all, Stmt.allList_const_true body, Stmt.allList_const_true handler]

theorem Stmt.allList_const_true : (ss : List Stmt) → Stmt.allList (fun _ => true) ss = true
  | [] => rfl
  | s :: rest => by simp [Stmt.allList, Stmt.all_const_true s, Stmt.allList_const_true rest]

end

/-! ## Signals that carry nothing -/

/-- A signal that carries no value and is not one of the faults an invariant
may rule out: a missing case (`NotImplemented`) or a refused assignment
target (`InvalidAssignment`). -/
def Signal.Plain : Signal → Prop
  | .thrown _ | .returned _ => False
  | .fault f => f.kind ≠ .invalidAssignment ∧ f.kind ≠ .notImplemented
  | _ => True

theorem loadModule_failure_plain {v : Volume} {d : Disk} {name : String} {builtin : Bool}
    {sig : Signal} (failed : loadModule v d name builtin = .error sig) : sig.Plain := by
  unfold loadModule at failed
  split at failed
  · cases failed; trivial
  · cases failed

/-- Finding a module fails with a host error or a `ModuleNotFound` fault. -/
theorem resolveModule_failure_plain {builtin work : Option Volume} {d : Disk}
    {extensions : List String} {path : String} {sig : Signal}
    (failed : resolveModule builtin work d extensions path = .error sig) : sig.Plain := by
  unfold resolveModule at failed
  dsimp only at failed
  repeat' split at failed
  all_goals first
    | (cases failed; simp [Signal.Plain, Signal.failure])
    | exact loadModule_failure_plain failed

theorem moduleError_plain (path : String) (f : ParseFault) : (Interp.moduleError path f).Plain := by
  cases f <;> trivial

/-- `tryCatch` hands its handler the machine the failure left: evaluation does
not roll the machine back. -/
@[simp] theorem Eval.restore_save (m m' : Machine) :
    (EStateM.Backtrackable.restore m (EStateM.Backtrackable.save m') : Machine) = m := rfl

namespace Interp

open Eval

/-- What a run may hold: the relation from the machine it starts in to each
machine it reaches, and the values, natives, scopes and signals it may hold,
and the test each node of the trees it evaluates passes. -/
structure Invariant where
  Holds : Machine → Machine → Prop
  ValueOk : Value → Prop
  NativeOk : Native → Prop
  ScopeOk : Nat → Prop
  SignalOk : Signal → Prop
  nodeOk : Expr → Bool

namespace Invariant

variable (I : Invariant)

/-- A computation keeps the invariant from `m₀`: started where `pre` holds and
`Holds m₀` holds, it ends where `Holds m₀` holds, with a result `ok` accepts or
a signal the invariant allows. -/
abbrev Keeps {α : Type} (m₀ : Machine) (pre : Prop) (ok : α → Prop) (x : Eval α) : Prop :=
  ⦃fun m => ⌜pre ∧ I.Holds m₀ m⌝⦄ x
  ⦃post⟨fun a m => ⌜ok a ∧ I.Holds m₀ m⌝, fun sig m => ⌜I.SignalOk sig ∧ I.Holds m₀ m⌝⟩⦄

/-- What an invariant owes: how `Holds` composes, which plain values and
signals it allows, what the cells of the heap it holds give, and one triple
for each helper the evaluator calls. -/
structure Lawful : Prop where
  trans : ∀ {a b c}, I.Holds a b → I.Holds b c → I.Holds a c
  stay : ∀ {a b}, I.Holds a b → I.Holds b b
  plain_value : ∀ v, v.Plain → I.ValueOk v
  plain_signal : ∀ sig, sig.Plain → I.SignalOk sig
  thrown : ∀ v, I.SignalOk (.thrown v) ↔ I.ValueOk v
  returned : ∀ v, I.SignalOk (.returned v) ↔ I.ValueOk v
  /-- The refusal of an assignment target is allowed where the node allows it. -/
  invalidTarget : ∀ op target value t, I.nodeOk (.assign op target value) = true →
    Parser.Expr.isTarget target = false → I.SignalOk (.fault ⟨.invalidAssignment, t⟩)
  closureScope : ∀ {m₀ m ref}, I.Holds m₀ m → I.ValueOk (.closure ref) →
    I.ScopeOk (m.heap.closure ref).scope
  closureBody : ∀ {m₀ m ref}, I.Holds m₀ m → I.ValueOk (.closure ref) →
    Stmt.allList I.nodeOk (m.heap.closure ref).body = true
  native : ∀ {m₀ m ref}, I.Holds m₀ m → I.ValueOk (.native ref) → I.NativeOk (m.heap.native ref)
  boundMethod : ∀ {f self}, I.NativeOk (.bound f self) → I.ValueOk f
  boundSelf : ∀ {f self}, I.NativeOk (.bound f self) → I.ValueOk self
  elements : ∀ {m₀ m ref}, I.Holds m₀ m → I.ValueOk (.array ref) →
    ∀ v ∈ m.heap.elements ref, I.ValueOk v
  exports : ∀ {m₀ m scope ref e}, I.Holds m₀ m → I.ScopeOk scope → m.heap.exportsOf scope = some ref →
    e ∈ (m.heap.object ref).entries.toList → I.ValueOk e.2
  lookup : ∀ m₀ scope name, I.Keeps m₀ (I.ScopeOk scope) I.ValueOk (lookup scope name)
  assign : ∀ m₀ scope name v,
    I.Keeps m₀ (I.ScopeOk scope ∧ I.ValueOk v) (fun _ => True) (assign scope name v)
  declare : ∀ m₀ scope name v constant,
    I.Keeps m₀ (I.ScopeOk scope ∧ I.ValueOk v) (fun _ => True) (declare scope name v constant)
  childScope : ∀ m₀ parent, I.Keeps m₀ (I.ScopeOk parent) I.ScopeOk (childScope parent)
  allocClosure : ∀ m₀ c, I.Keeps m₀ (I.ScopeOk c.scope ∧ Stmt.allList I.nodeOk c.body = true)
    I.ValueOk (onHeap (·.allocClosure c))
  newArray : ∀ m₀ vs, I.Keeps m₀ (∀ v ∈ vs, I.ValueOk v) I.ValueOk (newArray vs)
  newObject : ∀ m₀ entries frozen,
    I.Keeps m₀ (∀ e ∈ entries, I.ValueOk e.2) I.ValueOk (newObject entries frozen)
  getProperty : ∀ m₀ scope obj key,
    I.Keeps m₀ (I.ScopeOk scope ∧ I.ValueOk obj ∧ I.ValueOk key) I.ValueOk (getProperty scope obj key)
  setProperty : ∀ m₀ obj key v,
    I.Keeps m₀ (I.ValueOk obj ∧ I.ValueOk key ∧ I.ValueOk v) (fun _ => True) (setProperty obj key v)
  exportNames : ∀ m₀ scope names, I.Keeps m₀ (I.ScopeOk scope) I.ValueOk (exportNames scope names)
  invoke : ∀ m₀ n args scope,
    I.Keeps m₀ (I.NativeOk n ∧ (∀ a ∈ args, I.ValueOk a) ∧ I.ScopeOk scope) I.ValueOk
      (Library.invoke n args scope)
  debug : ∀ m₀ message attrs, I.Keeps m₀ True (fun _ => True) (debug message attrs)
  globalScope : ∀ m₀ d, I.Keeps m₀ True I.ScopeOk (Library.globalScope d)
  /-- A module whose key was not on the import stack when the import checked it
  (on `c`) runs from the machine with its key pushed, -/
  push : ∀ {c m} key, I.Holds c m → c.importing.contains key = false →
    I.Holds { m with importing := key :: m.importing } { m with importing := key :: m.importing }
  /-- and popping the key goes back to where the import started. -/
  pop : ∀ {m₀ c m m'} key, I.Holds m₀ c → I.Holds c m → c.importing.contains key = false →
    I.Holds { m with importing := key :: m.importing } m' →
    I.Holds m₀ { m' with importing := m'.importing.drop 1 }
  parsed : ∀ {d source p}, Program.parse d source = .ok p → Stmt.allList I.nodeOk p.body = true

/-! ## Every function keeps a lawful invariant -/

/-- The triples of every function of the evaluator at one fuel. -/
structure Sustained (fuel : Nat) : Prop where
  expr : ∀ m₀ scope e,
    I.Keeps m₀ (I.ScopeOk scope ∧ e.all I.nodeOk = true) I.ValueOk (expr fuel scope e)
  exprs : ∀ m₀ scope es, I.Keeps m₀ (I.ScopeOk scope ∧ Expr.allList I.nodeOk es = true)
    (fun vs => ∀ v ∈ vs, I.ValueOk v) (exprs fuel scope es)
  entryValues : ∀ m₀ scope entries, I.Keeps m₀ (I.ScopeOk scope ∧ Entry.allList I.nodeOk entries = true)
    (fun fields => ∀ f ∈ fields, I.ValueOk f.2) (entryValues fuel scope entries)
  assignment : ∀ m₀ scope op target value,
    I.Keeps m₀ (I.ScopeOk scope ∧ (Expr.assign op target value).all I.nodeOk = true) I.ValueOk
      (assignment fuel scope op target value)
  stmt : ∀ m₀ scope s, I.Keeps m₀ (I.ScopeOk scope ∧ s.all I.nodeOk = true) I.ValueOk (stmt fuel scope s)
  stmts : ∀ m₀ scope body,
    I.Keeps m₀ (I.ScopeOk scope ∧ Stmt.allList I.nodeOk body = true) I.ValueOk (stmts fuel scope body)
  whileLoop : ∀ m₀ scope test body,
    I.Keeps m₀ (I.ScopeOk scope ∧ (Stmt.loop test body).all I.nodeOk = true) I.ValueOk
      (whileLoop fuel scope test body)
  forLoop : ∀ m₀ scope test update body,
    I.Keeps m₀ (I.ScopeOk scope ∧ (Stmt.forLoop none test update body).all I.nodeOk = true) I.ValueOk
      (forLoop fuel scope test update body)
  call : ∀ m₀ f args scope, I.Keeps m₀ (I.ValueOk f ∧ (∀ a ∈ args, I.ValueOk a) ∧ I.ScopeOk scope)
    I.ValueOk (call fuel f args scope)
  invokeNative : ∀ m₀ n args scope,
    I.Keeps m₀ (I.NativeOk n ∧ (∀ a ∈ args, I.ValueOk a) ∧ I.ScopeOk scope) I.ValueOk
      (invokeNative fuel n args scope)
  foreachLoop : ∀ m₀ fn ref i count scope,
    I.Keeps m₀ (I.ValueOk fn ∧ I.ValueOk (.array ref) ∧ I.ScopeOk scope) (fun _ => True)
      (foreachLoop fuel fn ref i count scope)
  importModule : ∀ m₀ scope path name,
    I.Keeps m₀ (I.ScopeOk scope) I.ValueOk (importModule fuel scope path name)

variable {I}

namespace Lawful

/-! ## What a lawful invariant allows -/

variable (lawful : I.Lawful)
include lawful

theorem number_ok (x : Float) : I.ValueOk (.number x) := lawful.plain_value _ trivial

theorem string_ok (t : Text) : I.ValueOk (.string t) := lawful.plain_value _ trivial

theorem boolean_ok (b : Bool) : I.ValueOk (.boolean b) := lawful.plain_value _ trivial

theorem null_ok : I.ValueOk .null := lawful.plain_value _ trivial

theorem nothing_ok : I.ValueOk .nothing := lawful.plain_value _ trivial

theorem binary_ok (op : BinaryOp) (l r : Value) : I.ValueOk (Value.binary op l r) :=
  lawful.plain_value _ (Value.binary_plain op l r)

theorem unary_ok (op : UnaryOp) (v : Value) : I.ValueOk (Value.unary op v) :=
  lawful.plain_value _ (Value.unary_plain op v)

/-- Every fault but a refused assignment target or a missing case is allowed. -/
theorem fault_ok (f : RuntimeFault) (assignment : f.kind ≠ .invalidAssignment)
    (missing : f.kind ≠ .notImplemented) : I.SignalOk (.fault f) :=
  lawful.plain_signal _ ⟨assignment, missing⟩

theorem failure_ok (kind : FaultKind) (reason : String) (assignment : kind ≠ .invalidAssignment)
    (missing : kind ≠ .notImplemented) : I.SignalOk (.failure kind reason) :=
  lawful.fault_ok _ assignment missing

theorem moduleError_ok (path : String) (f : ParseFault) : I.SignalOk (moduleError path f) :=
  lawful.plain_signal _ (moduleError_plain path f)

theorem notCallable_ok (t : Text) : I.SignalOk (.fault ⟨.notCallable, t⟩) :=
  lawful.fault_ok _ (by simp) (by simp)

theorem exhausted_ok : I.SignalOk .exhausted := lawful.plain_signal _ trivial

theorem broke_ok : I.SignalOk .broke := lawful.plain_signal _ trivial

theorem continued_ok : I.SignalOk .continued := lawful.plain_signal _ trivial

/-- A missing argument reads as `null`, which every invariant allows. -/
theorem argAt_ok {args : List Value} (allowed : ∀ a ∈ args, I.ValueOk a) (i : Nat) :
    I.ValueOk (argAt args i) := by
  unfold argAt
  rw [List.getD_eq_getElem?_getD]
  cases found : args[i]? with
  | none => exact lawful.null_ok
  | some a => exact allowed a (List.mem_of_getElem? found)

/-- `orFail` keeps every lawful invariant when it passes on only failures that
carry nothing. -/
theorem orFail_keeps {α : Type} (m₀ : Machine) {r : Except Signal α}
    (failures : ∀ sig, r = .error sig → sig.Plain) : I.Keeps m₀ True (fun _ => True) (orFail r) := by
  cases r with
  | ok a => mvcgen [orFail]
  | error sig =>
    have plain := lawful.plain_signal sig (failures sig rfl)
    mvcgen [orFail]
    simp_all

/-- A signal that leaves its construct stays allowed: a jump becomes a fault
that carries nothing. -/
theorem escaped_ok {sig : Signal} (allowed : I.SignalOk sig) : I.SignalOk sig.escaped := by
  cases sig with
  | returned _ | broke | continued => exact lawful.fault_ok _ (by decide) (by decide)
  | _ => exact allowed

end Lawful

section Zero

variable (lawful : I.Lawful)
include lawful

/-- With no fuel every function stops with `Signal.exhausted`, which carries nothing. -/
theorem Lawful.sustained_zero : I.Sustained 0 := by
  have exhausted := lawful.plain_signal .exhausted trivial
  constructor
  all_goals intros; mvcgen [Interp.expr, Interp.exprs, Interp.entryValues, Interp.assignment,
    Interp.stmt, Interp.stmts, Interp.whileLoop, Interp.forLoop, Interp.call, Interp.invokeNative,
    Interp.foreachLoop, Interp.importModule]
  all_goals simp_all

end Zero

section Step

/-! Each function at `fuel + 1` calls the others at `fuel` only; its `mvcgen`
proof takes the triples at `fuel` and the obligations of the invariant as the
specifications of what it calls. -/

variable {fuel : Nat} (lawful : I.Lawful) (ih : I.Sustained fuel)
include lawful ih

theorem Sustained.expr_step (m₀ : Machine) (scope : Nat) (e : Expr) :
    I.Keeps m₀ (I.ScopeOk scope ∧ e.all I.nodeOk = true) I.ValueOk (Interp.expr (fuel + 1) scope e) := by
  have expr := ih.expr
  have exprs := ih.exprs
  have entryValues := ih.entryValues
  have assignment := ih.assignment
  have call := ih.call
  have lookup := lawful.lookup
  have assign := lawful.assign
  have getProperty := lawful.getProperty
  have newArray := lawful.newArray
  have newObject := lawful.newObject
  have allocClosure := lawful.allocClosure
  cases e
  all_goals mvcgen [Interp.expr, expr, exprs, entryValues, assignment, call, lookup, assign,
    getProperty, newArray, newObject, allocClosure]
  all_goals clear expr exprs entryValues assignment call lookup assign getProperty newArray newObject allocClosure
  all_goals simp_all +zetaDelta [Expr.all, lawful.number_ok, lawful.string_ok, lawful.boolean_ok,
    lawful.null_ok, lawful.binary_ok, lawful.unary_ok, lawful.notCallable_ok]

omit lawful in
theorem Sustained.exprs_step (m₀ : Machine) (scope : Nat) (es : List Expr) :
    I.Keeps m₀ (I.ScopeOk scope ∧ Expr.allList I.nodeOk es = true) (fun vs => ∀ v ∈ vs, I.ValueOk v)
      (Interp.exprs (fuel + 1) scope es) := by
  have expr := ih.expr
  have exprs := ih.exprs
  cases es <;> mvcgen [Interp.exprs, expr, exprs]
  all_goals clear expr exprs
  all_goals simp_all [Expr.allList]

theorem Sustained.entryValues_step (m₀ : Machine) (scope : Nat) (entries : List Entry) :
    I.Keeps m₀ (I.ScopeOk scope ∧ Entry.allList I.nodeOk entries = true)
      (fun fields => ∀ f ∈ fields, I.ValueOk f.2) (Interp.entryValues (fuel + 1) scope entries) := by
  have expr := ih.expr
  have entryValues := ih.entryValues
  have lookup := lawful.lookup
  rcases entries with _ | ⟨_ | _, _⟩
  all_goals mvcgen [Interp.entryValues, expr, entryValues, lookup]
  all_goals clear expr entryValues lookup
  all_goals simp_all [Entry.allList, Entry.all]
  all_goals grind

theorem Sustained.assignment_step (m₀ : Machine) (scope : Nat) (op : AssignOp) (target value : Expr) :
    I.Keeps m₀ (I.ScopeOk scope ∧ (Expr.assign op target value).all I.nodeOk = true) I.ValueOk
      (Interp.assignment (fuel + 1) scope op target value) := by
  have expr := ih.expr
  have lookup := lawful.lookup
  have assign := lawful.assign
  have getProperty := lawful.getProperty
  have setProperty := lawful.setProperty
  -- the fallback refuses a target that is no name or member, which the node's test decides
  have refused : ∀ t, Parser.Expr.isTarget target = false →
      (Expr.assign op target value).all I.nodeOk = true → I.SignalOk (.fault ⟨.invalidAssignment, t⟩) :=
    fun t notTarget tree => lawful.invalidTarget op target value t (by simp_all [Expr.all]) notTarget
  cases target
  case ident | field | index | computed =>
    clear refused
    all_goals mvcgen [Interp.assignment, expr, lookup, assign, getProperty, setProperty]
    all_goals clear expr lookup assign getProperty setProperty
    all_goals simp_all +zetaDelta [Expr.all, lawful.number_ok, lawful.string_ok]
    all_goals (try split) <;> (try simp_all [lawful.binary_ok])
  all_goals
    mvcgen [Interp.assignment]
    rename_i start
    exact ⟨refused _ rfl start.1.2, start.2⟩

theorem Sustained.stmt_step (m₀ : Machine) (scope : Nat) (s : Stmt) :
    I.Keeps m₀ (I.ScopeOk scope ∧ s.all I.nodeOk = true) I.ValueOk (Interp.stmt (fuel + 1) scope s) := by
  have expr := ih.expr
  have stmt := ih.stmt
  have stmts := ih.stmts
  have whileLoop := ih.whileLoop
  have forLoop := ih.forLoop
  have importModule := ih.importModule
  have declare := lawful.declare
  have childScope := lawful.childScope
  have allocClosure := lawful.allocClosure
  have exportNames := lawful.exportNames
  -- `mvcgen` does not split a `match` on an optional part inside a `do` block; split it first
  rcases s with _ | _ | ⟨_, _, _ | _⟩ | _ | _ | ⟨_, _, _ | _⟩ | _ | ⟨_ | _, _, _, _⟩ | _ | _ | (_ | _) |
    _ | _ | _ | _
  all_goals mvcgen [Interp.stmt, expr, stmt, stmts, whileLoop, forLoop, importModule, declare,
    childScope, allocClosure, exportNames]
  all_goals clear expr stmt stmts whileLoop forLoop importModule declare childScope allocClosure exportNames
  all_goals grind [Stmt.all, Expr.allSome, lawful.null_ok, lawful.nothing_ok, lawful.thrown,
    lawful.returned, lawful.broke_ok, lawful.continued_ok, lawful.trans, lawful.stay, restore_save]


theorem Sustained.stmts_step (m₀ : Machine) (scope : Nat) (body : List Stmt) :
    I.Keeps m₀ (I.ScopeOk scope ∧ Stmt.allList I.nodeOk body = true) I.ValueOk
      (Interp.stmts (fuel + 1) scope body) := by
  have stmt := ih.stmt
  have stmts := ih.stmts
  rcases body with _ | ⟨_, _ | _⟩
  all_goals mvcgen [Interp.stmts, stmt, stmts]
  all_goals clear stmt stmts
  all_goals grind [Stmt.allList, lawful.nothing_ok]

theorem Sustained.whileLoop_step (m₀ : Machine) (scope : Nat) (test : Expr) (body : Stmt) :
    I.Keeps m₀ (I.ScopeOk scope ∧ (Stmt.loop test body).all I.nodeOk = true) I.ValueOk
      (Interp.whileLoop (fuel + 1) scope test body) := by
  have expr := ih.expr
  have stmt := ih.stmt
  have whileLoop := ih.whileLoop
  have childScope := lawful.childScope
  mvcgen [Interp.whileLoop, expr, stmt, whileLoop, childScope, loopPass, loopSignal]
  all_goals clear expr stmt whileLoop childScope
  all_goals grind [Stmt.all, lawful.nothing_ok, lawful.trans, lawful.stay, restore_save]

theorem Sustained.forLoop_step (m₀ : Machine) (scope : Nat) (test update : Option Expr) (body : Stmt) :
    I.Keeps m₀ (I.ScopeOk scope ∧ (Stmt.forLoop none test update body).all I.nodeOk = true) I.ValueOk
      (Interp.forLoop (fuel + 1) scope test update body) := by
  have expr := ih.expr
  have stmt := ih.stmt
  have forLoop := ih.forLoop
  have childScope := lawful.childScope
  cases test <;> cases update
  all_goals mvcgen [Interp.forLoop, expr, stmt, forLoop, childScope, loopPass, loopSignal]
  all_goals clear expr stmt forLoop childScope
  all_goals grind [Stmt.all, Expr.allSome, lawful.nothing_ok, lawful.trans, lawful.stay, restore_save]

theorem Sustained.call_step (m₀ : Machine) (f : Value) (args : List Value) (scope : Nat) :
    I.Keeps m₀ (I.ValueOk f ∧ (∀ a ∈ args, I.ValueOk a) ∧ I.ScopeOk scope) I.ValueOk
      (Interp.call (fuel + 1) f args scope) := by
  have stmts := ih.stmts
  have invokeNative := ih.invokeNative
  have childScope := lawful.childScope
  have declare := lawful.declare
  cases f with
  | closure ref =>
    mvcgen [Interp.call, functionResult, Eval.heap, stmts, childScope, declare] invariants
    · post⟨fun _ m => ⌜I.Holds m₀ m⌝, fun sig m => ⌜I.SignalOk sig ∧ I.Holds m₀ m⌝⟩
    all_goals clear stmts invokeNative childScope declare
    all_goals grind [lawful.closureScope, lawful.closureBody, lawful.argAt_ok, lawful.null_ok, lawful.returned, lawful.escaped_ok,
      lawful.trans, lawful.stay, restore_save]
  | native ref =>
    mvcgen [Interp.call, Eval.heap, invokeNative]
    all_goals clear stmts invokeNative childScope declare
    all_goals grind [lawful.native]
  | _ =>
    mvcgen [Interp.call, Eval.describe, Eval.heap]
    all_goals clear stmts invokeNative childScope declare
    all_goals grind [lawful.notCallable_ok]

theorem Sustained.invokeNative_step (m₀ : Machine) (n : Native) (args : List Value) (scope : Nat) :
    I.Keeps m₀ (I.NativeOk n ∧ (∀ a ∈ args, I.ValueOk a) ∧ I.ScopeOk scope) I.ValueOk
      (Interp.invokeNative (fuel + 1) n args scope) := by
  have call := ih.call
  have foreachLoop := ih.foreachLoop
  have invoke := lawful.invoke
  cases n with
  | bound f self =>
    mvcgen [Interp.invokeNative, call]
    all_goals clear call foreachLoop invoke
    all_goals grind [lawful.boundMethod, lawful.boundSelf]
  | arrayMethod m =>
    cases m
    all_goals mvcgen [Interp.invokeNative, foreachLoop, invoke, requireArgs, Library.arrayArg,
      Eval.heap, throwMessage, throwText]
    all_goals clear call foreachLoop invoke
    all_goals grind [lawful.argAt_ok, lawful.thrown, lawful.string_ok, lawful.null_ok]
  | _ => mvcgen [Interp.invokeNative, invoke]

theorem Sustained.foreachLoop_step (m₀ : Machine) (fn : Value) (ref i count scope : Nat) :
    I.Keeps m₀ (I.ValueOk fn ∧ I.ValueOk (.array ref) ∧ I.ScopeOk scope) (fun _ => True)
      (Interp.foreachLoop (fuel + 1) fn ref i count scope) := by
  have call := ih.call
  have foreachLoop := ih.foreachLoop
  mvcgen [Interp.foreachLoop, Eval.heap, call, foreachLoop]
  all_goals clear call foreachLoop
  all_goals grind [lawful.elements, Array.mem_of_getElem?, lawful.number_ok]

theorem Sustained.importModule_step (m₀ : Machine) (scope : Nat) (path name : String) :
    I.Keeps m₀ (I.ScopeOk scope) I.ValueOk (Interp.importModule (fuel + 1) scope path name) := by
  have stmts := ih.stmts
  have installed := @Lawful.globalScope I lawful
  have debug := lawful.debug
  have declare := lawful.declare
  have newObject := lawful.newObject
  have resolved : ∀ m₀ builtin work d extensions path, I.Keeps m₀ True (fun _ => True)
      (orFail (resolveModule builtin work d extensions path)) :=
    fun m₀ _ _ _ _ _ => lawful.orFail_keeps m₀ fun _ failed => resolveModule_failure_plain failed
  rw [Interp.importModule]
  mvcgen [resolved, topLevel, Eval.heap, stmts, installed, debug, declare, newObject]
  all_goals clear stmts installed debug declare newObject resolved
  all_goals try simp +zetaDelta only at *
  all_goals try split
  all_goals grind [→ lawful.push, → lawful.pop, → lawful.trans, → lawful.stay, lawful.parsed,
    → lawful.exports, → lawful.escaped_ok, lawful.failure_ok, lawful.moduleError_ok, lawful.nothing_ok,
    restore_save]

theorem Sustained.succ : I.Sustained (fuel + 1) where
  expr := ih.expr_step lawful
  exprs := ih.exprs_step
  entryValues := ih.entryValues_step lawful
  assignment := ih.assignment_step lawful
  stmt := ih.stmt_step lawful
  stmts := ih.stmts_step lawful
  whileLoop := ih.whileLoop_step lawful
  forLoop := ih.forLoop_step lawful
  call := ih.call_step lawful
  invokeNative := ih.invokeNative_step lawful
  foreachLoop := ih.foreachLoop_step lawful
  importModule := ih.importModule_step lawful

end Step

/-- Every function of the evaluator keeps a lawful invariant, at every fuel. -/
theorem Lawful.sustained (lawful : I.Lawful) (fuel : Nat) : I.Sustained fuel := by
  induction fuel with
  | zero => exact lawful.sustained_zero
  | succ fuel ih => exact ih.succ lawful

/-- A program keeps a lawful invariant: the body runs at the full fuel, and
what leaves it escapes into a fault that the invariant allows. -/
theorem Lawful.program (lawful : I.Lawful) (m₀ : Machine) (scope : Nat) (p : Program) :
    I.Keeps m₀ (I.ScopeOk scope ∧ Stmt.allList I.nodeOk p.body = true) I.ValueOk
      (Interp.program scope p) := by
  have stmts := (lawful.sustained fuel).stmts
  mvcgen [Interp.program, topLevel, stmts]
  all_goals clear stmts
  all_goals grind [→ lawful.escaped_ok, → lawful.trans, → lawful.stay, restore_save]

/-- What a `Keeps` triple says about runs. -/
theorem keeps_iff {α : Type} {m₀ : Machine} {pre : Prop} {ok : α → Prop} {x : Eval α} :
    I.Keeps m₀ pre ok x ↔ ∀ m, pre → I.Holds m₀ m →
      match x.run m with
      | .ok a m' => ok a ∧ I.Holds m₀ m'
      | .error sig m' => I.SignalOk sig ∧ I.Holds m₀ m' := by
  constructor
  · intro spec m given holds
    have ran := spec m ⟨given, holds⟩
    simp only [wp, PredTrans.apply] at ran
    cases result : x.run m with
    | ok a m' => simpa [result] using ran
    | error sig m' => simpa [result] using ran
  · intro runs m start
    simp only [wp, PredTrans.apply]
    have ran := runs m start.1 start.2
    cases result : x.run m with
    | ok a m' => simpa [result] using ran
    | error sig m' => simpa [result] using ran

end Invariant

end Interp

end Vernacular
