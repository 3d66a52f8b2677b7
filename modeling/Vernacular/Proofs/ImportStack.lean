import Vernacular.Proofs.Invariants
import Vernacular.Proofs.LibraryCalls
/-!
# The import stack

An import pushes the key of its module before running it and pops it on every
way out, so that a module importing itself, directly or through others, is
refused. Each helper of the evaluator leaves the stack as it is
(`Eval.KeepsStack`); with the push and the pop of an import this makes
`importStack` an invariant of evaluation: every run ends with the stack it
started with, and a stack that held no key twice never comes to.
-/

set_option autoImplicit false
set_option mvcgen.warning false

open Std.Do

namespace Vernacular

namespace Eval

/-- A computation leaves the import stack as it found it, whether it ends
with a value or with a signal. -/
abbrev KeepsStack {α : Type} (x : Eval α) : Prop :=
  ∀ stack : List String, ⦃fun m => ⌜m.importing = stack⌝⦄ x
    ⦃post⟨fun _ m => ⌜m.importing = stack⌝, fun _ m => ⌜m.importing = stack⌝⟩⦄

/-- A computation keeps the stack when each of its runs does. -/
theorem KeepsStack.of_runs {α : Type} {x : Eval α}
    (runs : ∀ m, match x.run m with
      | .ok _ m' => m'.importing = m.importing
      | .error _ m' => m'.importing = m.importing) : KeepsStack x := by
  intro stack m start
  simp only [wp, PredTrans.apply]
  have ran := runs m
  cases result : x.run m with
  | ok a m' => simp_all
  | error sig m' => simp_all

/-- What keeping the stack says about one run. -/
theorem KeepsStack.runs {α : Type} {x : Eval α} (keeps : KeepsStack x) (m : Machine) :
    match x.run m with
    | .ok _ m' => m'.importing = m.importing
    | .error _ m' => m'.importing = m.importing := by
  have ran := keeps m.importing m rfl
  simp only [wp, PredTrans.apply] at ran
  cases result : x.run m with
  | ok a m' => simpa [result] using ran
  | error sig m' => simpa [result] using ran

variable {α : Type}

@[local spec] theorem onHeap_keepsStack {β : Type} (f : Heap → β × Heap) : KeepsStack (onHeap f) := by
  intro; mvcgen [onHeap]

@[local spec] theorem newArray_keepsStack (elements : Array Value) : KeepsStack (newArray elements) := by
  intro; mvcgen [newArray]

@[local spec] theorem newObject_keepsStack (entries : List (Text × Value)) (frozen : Bool) :
    KeepsStack (newObject entries frozen) := by
  intro; mvcgen [newObject]

@[local spec] theorem debug_keepsStack (message : String) (attrs : List (String × LogValue)) :
    KeepsStack (debug message attrs) := by
  intro; mvcgen [debug, writeErr]

@[local spec] theorem getProperty_keepsStack (scope : Nat) (obj key : Value) :
    KeepsStack (getProperty scope obj key) := by
  intro; mvcgen [getProperty, method, heap, newNative, onHeap, unknownProperty, text]

@[local spec] theorem setProperty_keepsStack (obj key v : Value) : KeepsStack (setProperty obj key v) := by
  intro; mvcgen [setProperty, heap, updateHeap, text, describe]

theorem run_bind_ok {α β : Type} {x : Eval α} {f : α → Eval β} {m m' : Machine} {a : α}
    (ran : x.run m = .ok a m') : (x >>= f).run m = (f a).run m' := by
  simp only [EStateM.run] at ran
  simp [bind, EStateM.bind, EStateM.run, ran]

theorem run_bind_error {α β : Type} {x : Eval α} {f : α → Eval β} {m m' : Machine} {sig : Signal}
    (ran : x.run m = .error sig m') : (x >>= f).run m = .error sig m' := by
  simp only [EStateM.run] at ran
  simp [bind, EStateM.bind, EStateM.run, ran]

end Eval

namespace Interp

open Eval

@[local spec] theorem lookup_keepsStack (scope : Nat) (name : String) : KeepsStack (lookup scope name) := by
  intro; mvcgen [lookup, heap, orFail]

@[local spec] theorem assign_keepsStack (scope : Nat) (name : String) (v : Value) :
    KeepsStack (assign scope name v) := by
  intro; mvcgen [assign, heap, orFail]

@[local spec] theorem declare_keepsStack (scope : Nat) (name : String) (v : Value) (constant : Bool) :
    KeepsStack (declare scope name v constant) := by
  intro; mvcgen [declare, heap, orFail]

@[local spec] theorem childScope_keepsStack (parent : Nat) : KeepsStack (childScope parent) := by
  intro; mvcgen [childScope, onHeap]

@[local spec] theorem exportNames_keepsStack (scope : Nat) (names : List String) :
    KeepsStack (exportNames scope names) := by
  intro stack
  mvcgen [exportNames, heap, orFail, updateHeap] invariants
  · post⟨fun _ m => ⌜m.importing = stack⌝, fun _ m => ⌜m.importing = stack⌝⟩

end Interp

namespace Library

open Eval

@[local spec] theorem globalScope_keepsStack (d : Dialect) : KeepsStack (globalScope d) := by
  intro stack
  unfold globalScope
  generalize globalEntries d = entries
  mvcgen [onHeap, newReader, newNative, namespaceOf, newObject, updateHeap] invariants
  · post⟨fun _ m => ⌜m.importing = stack⌝, fun _ m => ⌜m.importing = stack⌝⟩
  · post⟨fun _ m => ⌜m.importing = stack⌝, fun _ m => ⌜m.importing = stack⌝⟩

/-- A native leaves the import stack as it is. -/
theorem invoke_keepsStack (n : Native) (args : List Value) (scope : Nat) :
    KeepsStack (invoke n args scope) := by
  apply KeepsStack.of_runs
  intro m
  have effect := invoke_effect n args scope m
  cases result : (invoke n args scope).run m with
  | ok a m' =>
    rw [result] at effect
    exact effect.importing
  | error sig m' =>
    rw [result] at effect
    exact effect.2.importing

end Library

namespace Interp

open Eval

/-- The import stack of every machine a run reaches is the one it started
with, and holds no key twice. -/
def importStack : Invariant where
  Holds m₀ m := m.importing = m₀.importing ∧ m.importing.Nodup
  ValueOk _ := True
  NativeOk _ := True
  ScopeOk _ := True
  SignalOk _ := True
  nodeOk _ := true

/-- A computation that keeps the stack keeps the invariant. -/
theorem keeps_importStack {α : Type} {x : Eval α} (keeps : KeepsStack x) {ok : α → Prop} (always : ∀ a, ok a)
    (m₀ : Machine) (pre : Prop) : importStack.Keeps m₀ pre ok x := by
  rw [Invariant.keeps_iff]
  intro m _ ⟨same, nodup⟩
  have ran := keeps.runs m
  split
  all_goals simp_all [importStack]

theorem importStack_lawful : importStack.Lawful where
  trans first second := ⟨second.1.trans first.1, second.2⟩
  stay reached := ⟨rfl, reached.2⟩
  plain_value _ _ := trivial
  plain_signal _ _ := trivial
  thrown _ := Iff.rfl
  returned _ := Iff.rfl
  invalidTarget _ _ _ _ _ _ := trivial
  closureScope _ _ := trivial
  closureBody _ _ := Stmt.allList_const_true _
  native _ _ := trivial
  boundMethod _ := trivial
  boundSelf _ := trivial
  elements _ _ _ _ := trivial
  exports _ _ _ _ := trivial
  lookup m₀ scope name := keeps_importStack (lookup_keepsStack scope name) (fun _ => trivial) m₀ _
  assign m₀ scope name v := keeps_importStack (assign_keepsStack scope name v) (fun _ => trivial) m₀ _
  declare m₀ scope name v constant := keeps_importStack (declare_keepsStack scope name v constant) (fun _ => trivial) m₀ _
  childScope m₀ parent := keeps_importStack (childScope_keepsStack parent) (fun _ => trivial) m₀ _
  allocClosure m₀ c := keeps_importStack (onHeap_keepsStack _) (fun _ => trivial) m₀ _
  newArray m₀ vs := keeps_importStack (newArray_keepsStack _) (fun _ => trivial) m₀ _
  newObject m₀ entries frozen := keeps_importStack (newObject_keepsStack entries frozen) (fun _ => trivial) m₀ _
  getProperty m₀ scope obj key := keeps_importStack (getProperty_keepsStack scope obj key) (fun _ => trivial) m₀ _
  setProperty m₀ obj key v := keeps_importStack (setProperty_keepsStack obj key v) (fun _ => trivial) m₀ _
  exportNames m₀ scope names := keeps_importStack (exportNames_keepsStack scope names) (fun _ => trivial) m₀ _
  invoke m₀ n args scope := keeps_importStack (Library.invoke_keepsStack n args scope) (fun _ => trivial) m₀ _
  debug m₀ message attrs := keeps_importStack (debug_keepsStack message attrs) (fun _ => trivial) m₀ _
  globalScope m₀ d := @keeps_importStack _ _ (@Library.globalScope_keepsStack d) _ (fun _ => trivial) m₀ True
  push key checked fresh := by
    obtain ⟨same, nodup⟩ := checked
    refine ⟨rfl, List.nodup_cons.mpr ⟨?_, nodup⟩⟩
    simpa [same] using fresh
  pop key start checked _ body := by
    obtain ⟨pushed, nodup⟩ := body
    simp only [pushed, List.drop_succ_cons, List.drop_zero] at nodup ⊢
    exact ⟨checked.1.trans start.1, checked.2⟩
  parsed _ := Stmt.allList_const_true _

/-- An import whose key is already on the stack is refused before anything runs. -/
theorem importModule_refuses_cycle (fuel scope : Nat) (path name : String) (m : Machine) (source : ModuleSource)
    (resolved : resolveModule m.builtin m.work m.disk m.registry.extensionList path = .ok source)
    (onStack : source.key ∈ m.importing) :
    (importModule (fuel + 1) scope path name).run m =
      .error (.failure .importCycle ("Import cycle through " ++ escapedQuote path)) m := by
  have contains : m.importing.contains source.key = true := by simpa using onStack
  unfold Interp.importModule
  have got : (get : Eval Machine).run m = .ok m m := rfl
  have found : (orFail (resolveModule m.builtin m.work m.disk m.registry.extensionList path)).run m =
      .ok source m := by
    simp [resolved, orFail]
  refine (run_bind_ok got).trans ?_
  refine (run_bind_ok found).trans ?_
  dsimp only
  rw [if_pos contains]
  exact run_bind_error rfl

/-- What an import does once its key is on the stack: it runs the module, binds
its namespace, and pops the key on every way out. -/
def importLoaded (fuel scope : Nat) (boundName : String) (m : Machine) (source : ModuleSource) : Eval Value := do
  let pop : Eval Unit := modify fun m => { m with importing := m.importing.drop 1 }
  tryCatch (do
    let d := (m.registry.forExtension source.ext).getD m.dialect
    debug "import" [("path", .text source.path), ("builtin", .flag source.builtin),
      ("dialect", .text d.name)]
    let program ← match Program.parse d source.source with
      | .ok p => pure p
      | .error f => throw (moduleError source.path f)
    let moduleScope ← Library.globalScope d
    discard <| topLevel (stmts fuel moduleScope program.body)
    let h ← heap
    let entries := match h.exportsOf moduleScope with
      | some ref => (h.object ref).entries.toList
      | none => []
    let ns ← newObject entries true
    declare scope boundName ns true
    pop) fun sig => do
      pop
      throw sig
  return .nothing

/-- An import whose key is not on the stack pushes it and loads the module. -/
theorem importModule_loads (fuel scope : Nat) (path name : String) (m : Machine) (source : ModuleSource)
    (resolved : resolveModule m.builtin m.work m.disk m.registry.extensionList path = .ok source)
    (fresh : source.key ∉ m.importing) :
    (importModule (fuel + 1) scope path name).run m =
      (importLoaded fuel scope name m source).run { m with importing := source.key :: m.importing } := by
  unfold Interp.importModule
  have got : (get : Eval Machine).run m = .ok m m := rfl
  have found : (orFail (resolveModule m.builtin m.work m.disk m.registry.extensionList path)).run m =
      .ok source m := by
    simp [resolved, orFail]
  refine (run_bind_ok got).trans ?_
  refine (run_bind_ok found).trans ?_
  dsimp only
  rw [if_neg (by simpa using fresh)]
  rfl

/-- The import stack, for every machine whose stack holds no key twice: every
statement list, call and import ends with the stack it started on, whichever
way it ends, and so does a program. An import is refused at once, with the
machine as it was, exactly when its key is on the stack; otherwise it loads the
module on the stack with its key pushed, which again holds no key twice and is
no deeper than any set of keys that covers it. -/
theorem import_stack_consistent (fuel scope : Nat) (path name : String) (p : Program) (m : Machine)
    (nodup : m.importing.Nodup) :
    (∀ body : List Stmt, match (stmts fuel scope body).run m with
      | .ok _ m' | .error _ m' => m'.importing = m.importing) ∧
    (∀ (f : Value) (args : List Value), match (call fuel f args scope).run m with
      | .ok _ m' | .error _ m' => m'.importing = m.importing) ∧
    (match (importModule fuel scope path name).run m with
      | .ok _ m' | .error _ m' => m'.importing = m.importing) ∧
    (match (program scope p).run m with
      | .ok _ m' | .error _ m' => m'.importing = m.importing) ∧
    (∀ source, resolveModule m.builtin m.work m.disk m.registry.extensionList path = .ok source →
      (source.key ∈ m.importing →
        (importModule (fuel + 1) scope path name).run m =
          .error (.failure .importCycle ("Import cycle through " ++ escapedQuote path)) m) ∧
      (source.key ∉ m.importing →
        (importModule (fuel + 1) scope path name).run m =
          (importLoaded fuel scope name m source).run { m with importing := source.key :: m.importing } ∧
        (source.key :: m.importing).Nodup ∧
        ∀ keys : Finset String, (∀ k ∈ source.key :: m.importing, k ∈ keys) →
          (source.key :: m.importing).length ≤ keys.card)) := by
  have start : importStack.Holds m m := ⟨rfl, nodup⟩
  have sustained := importStack_lawful.sustained fuel
  refine ⟨?statements, ?calls, ?imported, ?run, ?check⟩
  case statements =>
    intro body
    have ran := Invariant.keeps_iff.mp (sustained.stmts m scope body) m ⟨trivial, Stmt.allList_const_true _⟩ start
    cases result : (stmts fuel scope body).run m with
    | ok v m' => rw [result] at ran; exact ran.2.1
    | error sig m' => rw [result] at ran; exact ran.2.1
  case calls =>
    intro f args
    have ran := Invariant.keeps_iff.mp (sustained.call m f args scope) m ⟨trivial, fun _ _ => trivial, trivial⟩ start
    cases result : (call fuel f args scope).run m with
    | ok v m' => rw [result] at ran; exact ran.2.1
    | error sig m' => rw [result] at ran; exact ran.2.1
  case imported =>
    have ran := Invariant.keeps_iff.mp (sustained.importModule m scope path name) m trivial start
    cases result : (importModule fuel scope path name).run m with
    | ok v m' => rw [result] at ran; exact ran.2.1
    | error sig m' => rw [result] at ran; exact ran.2.1
  case run =>
    have ran := Invariant.keeps_iff.mp (importStack_lawful.program m scope p) m ⟨trivial, Stmt.allList_const_true _⟩ start
    cases result : (program scope p).run m with
    | ok v m' => rw [result] at ran; exact ran.2.1
    | error sig m' => rw [result] at ran; exact ran.2.1
  case check =>
    intro source resolved
    refine ⟨importModule_refuses_cycle fuel scope path name m source resolved, fun fresh => ?_⟩
    have pushed : (source.key :: m.importing).Nodup := List.nodup_cons.mpr ⟨fresh, nodup⟩
    refine ⟨importModule_loads fuel scope path name m source resolved fresh, pushed, fun keys covered => ?_⟩
    calc (source.key :: m.importing).length = (source.key :: m.importing).toFinset.card :=
          (List.toFinset_card_of_nodup pushed).symm
      _ ≤ keys.card := Finset.card_le_card fun k member => covered k (List.mem_toFinset.mp member)

/-- The stack of a fresh machine is empty, and an import from it gives it back. -/
theorem fresh_import_restores_stack :
    (default : Machine).importing.Nodup ∧
      (match (importModule 1 0 "lib" "lib").run default with
        | .ok _ m' | .error _ m' => m'.importing = (default : Machine).importing) :=
  ⟨List.nodup_nil, (import_stack_consistent 1 0 "lib" "lib" ⟨[]⟩ default List.nodup_nil).2.2.1⟩

end Interp

end Vernacular
