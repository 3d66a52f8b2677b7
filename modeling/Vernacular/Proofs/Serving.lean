import Mathlib
import Vernacular.Proofs.Invariants
import Vernacular.Proofs.Responses
import Vernacular.Interpreter.Session
/-!
# Serving a request

Only the methods of a response object touch the responses of the machine:
every other helper of the evaluator and every other native leaves them as it
found them (`Eval.KeepsResponses`). A response is then changed, through any
run of the evaluator, only by the calls its own methods make
(`Interp.responseAt`, an invariant of evaluation), so a handler leaves the
fresh response it was given as some sequence of calls made it, and finishing
it shows the answer those calls ask for.
-/

set_option autoImplicit false
set_option mvcgen.warning false

open Std.Do

namespace Vernacular

open Eval

/-- A computation leaves the responses as it found them, whether it ends with
a value or with a signal. -/
abbrev Eval.KeepsResponses {α : Type} (rs : Array Response) (x : Eval α) : Prop :=
  ⦃fun m => ⌜m.responses = rs⌝⦄ x
    ⦃post⟨fun _ m => ⌜m.responses = rs⌝, fun _ m => ⌜m.responses = rs⌝⟩⦄

/-- What keeping the responses says about one run. -/
theorem Eval.KeepsResponses.runs {α : Type} {x : Eval α} (keeps : ∀ rs, KeepsResponses rs x) (m : Machine) :
    match x.run m with
    | .ok _ m' | .error _ m' => m'.responses = m.responses := by
  have ran := keeps m.responses m rfl
  simp only [wp, PredTrans.apply] at ran
  cases result : x.run m with
  | ok a m' => simpa [result] using ran
  | error sig m' => simpa [result] using ran

variable {α : Type} {rs : Array Response}

@[local spec] theorem Eval.heap_keepsResponses : KeepsResponses rs heap := by
  mvcgen [heap]

@[local spec] theorem Eval.onHeap_keepsResponses {β : Type} (f : Heap → β × Heap) :
    KeepsResponses rs (onHeap f) := by
  mvcgen [onHeap]

@[local spec] theorem Eval.updateHeap_keepsResponses (f : Heap → Heap) :
    KeepsResponses rs (updateHeap f) := by
  mvcgen [updateHeap]

@[local spec] theorem Eval.newArray_keepsResponses (elements : Array Value) :
    KeepsResponses rs (newArray elements) := by
  mvcgen [newArray]

@[local spec] theorem Eval.newObject_keepsResponses (entries : List (Text × Value)) (frozen : Bool) :
    KeepsResponses rs (newObject entries frozen) := by
  mvcgen [newObject]

@[local spec] theorem Eval.newNative_keepsResponses (n : Native) : KeepsResponses rs (newNative n) := by
  mvcgen [newNative]

@[local spec] theorem Eval.text_keepsResponses (v : Value) : KeepsResponses rs (text v) := by
  mvcgen [text]
  all_goals simp_all +zetaDelta

@[local spec] theorem Eval.describe_keepsResponses (v : Value) : KeepsResponses rs (describe v) := by
  mvcgen [describe]
  all_goals simp_all +zetaDelta

@[local spec] theorem Eval.writeOut_keepsResponses (t : Text) : KeepsResponses rs (writeOut t) := by
  mvcgen [writeOut]

@[local spec] theorem Eval.writeErr_keepsResponses (t : Text) : KeepsResponses rs (writeErr t) := by
  mvcgen [writeErr]

@[local spec] theorem Eval.throwMessage_keepsResponses (message : String) :
    KeepsResponses rs (throwMessage message : Eval α) := by
  mvcgen [throwMessage, throwText]

@[local spec] theorem Eval.debug_keepsResponses (message : String) (attrs : List (String × LogValue)) :
    KeepsResponses rs (debug message attrs) := by
  mvcgen [debug]

@[local spec] theorem Eval.unknownProperty_keepsResponses (obj key : Value) :
    KeepsResponses rs (unknownProperty obj key : Eval α) := by
  mvcgen [unknownProperty]
  all_goals simp_all +zetaDelta

@[local spec] theorem Eval.method_keepsResponses (scope : Nat) (table : String) (self key : Value) :
    KeepsResponses rs (method scope table self key) := by
  mvcgen [method]
  all_goals simp_all +zetaDelta

@[local spec] theorem Eval.getProperty_keepsResponses (scope : Nat) (obj key : Value) :
    KeepsResponses rs (getProperty scope obj key) := by
  mvcgen [getProperty]
  all_goals simp_all +zetaDelta

@[local spec] theorem Eval.setProperty_keepsResponses (obj key v : Value) :
    KeepsResponses rs (setProperty obj key v) := by
  mvcgen [setProperty]
  all_goals simp_all +zetaDelta

theorem Eval.orFail_keepsResponses (r : Except Signal α) : KeepsResponses rs (orFail r) := by
  cases r <;> mvcgen [orFail]

@[local spec] theorem Eval.requireArgs_keepsResponses (name : String) (args : List Value) (count : Nat) :
    KeepsResponses rs (requireArgs name args count) := by
  mvcgen [requireArgs]

@[local spec] theorem Eval.stringArg_keepsResponses (name : String) (args : List Value) (i : Nat) :
    KeepsResponses rs (stringArg name args i) := by
  mvcgen [stringArg]

@[local spec] theorem Eval.numberArg_keepsResponses (name : String) (args : List Value) (i : Nat) :
    KeepsResponses rs (numberArg name args i) := by
  mvcgen [numberArg]

theorem Eval.mapM_keepsResponses {β : Type} (f : α → Eval β) (each : ∀ a, KeepsResponses rs (f a))
    (xs : List α) : KeepsResponses rs (xs.mapM f) := by
  induction xs with
  | nil => mvcgen
  | cons x xs ih =>
    rw [List.mapM_cons]
    mvcgen [each, ih]

theorem Eval.ofJson_keepsResponses (fuel : Nat) (tree : JsonTree) : KeepsResponses rs (ofJson fuel tree) := by
  induction fuel generalizing tree with
  | zero => mvcgen [ofJson]
  | succ fuel ih =>
    cases tree with
    | array elements =>
      have values := mapM_keepsResponses _ ih elements
      mvcgen [ofJson, values]
    | object entries =>
      have members := mapM_keepsResponses (fun (entry : Text × JsonTree) => do
        return (entry.1, ← ofJson fuel entry.2)) (fun entry => by mvcgen [ih]) entries
      mvcgen [ofJson, members]
    | _ => mvcgen [ofJson]

@[local spec] theorem Eval.decodeJson_keepsResponses (t : Text) : KeepsResponses rs (decodeJson t) := by
  have trees := @ofJson_keepsResponses rs (t.size + 2)
  mvcgen [decodeJson, trees]


@[local spec] theorem Interp.lookup_keepsResponses (scope : Nat) (name : String) :
    KeepsResponses rs (Interp.lookup scope name) := by
  mvcgen [Interp.lookup, orFail]
  all_goals simp_all +zetaDelta

@[local spec] theorem Interp.assign_keepsResponses (scope : Nat) (name : String) (v : Value) :
    KeepsResponses rs (Interp.assign scope name v) := by
  mvcgen [Interp.assign, orFail]
  all_goals simp_all +zetaDelta

@[local spec] theorem Interp.declare_keepsResponses (scope : Nat) (name : String) (v : Value)
    (constant : Bool) : KeepsResponses rs (Interp.declare scope name v constant) := by
  mvcgen [Interp.declare, orFail]
  all_goals simp_all +zetaDelta

@[local spec] theorem Interp.childScope_keepsResponses (parent : Nat) :
    KeepsResponses rs (Interp.childScope parent) := by
  mvcgen [Interp.childScope]

@[local spec] theorem Interp.exportNames_keepsResponses (scope : Nat) (names : List String) :
    KeepsResponses rs (Interp.exportNames scope names) := by
  mvcgen [Interp.exportNames, orFail] invariants
  · post⟨fun _ m => ⌜m.responses = rs⌝, fun _ m => ⌜m.responses = rs⌝⟩
  all_goals simp_all +zetaDelta

open Library


@[local spec] theorem Library.arrayArg_keepsResponses (name : String) (args : List Value) :
    KeepsResponses rs (arrayArg name args) := by
  mvcgen [arrayArg]

@[local spec] theorem Library.print_keepsResponses (args : List Value) : KeepsResponses rs (print args) := by
  mvcgen [print]
  all_goals simp_all +zetaDelta

@[local spec] theorem Library.readLine_keepsResponses (reader : Nat) : KeepsResponses rs (readLine reader) := by
  mvcgen [readLine]

@[local spec] theorem Library.input_keepsResponses (reader : Nat) (args : List Value) :
    KeepsResponses rs (input reader args) := by
  mvcgen [input]
  all_goals simp_all +zetaDelta

@[local spec] theorem Library.format_keepsResponses (args : List Value) : KeepsResponses rs (format args) := by
  mvcgen [format]
  all_goals simp_all +zetaDelta

@[local spec] theorem Library.typeOf_keepsResponses (args : List Value) : KeepsResponses rs (typeOf args) := by
  mvcgen [typeOf]
  all_goals simp_all +zetaDelta

@[local spec] theorem Library.length_keepsResponses (args : List Value) : KeepsResponses rs (length args) := by
  mvcgen [length]
  all_goals simp_all +zetaDelta

@[local spec] theorem Library.stringMethod_keepsResponses (m : StringMethod) (args : List Value) :
    KeepsResponses rs (stringMethod m args) := by
  mvcgen [stringMethod]
  all_goals simp_all +zetaDelta

@[local spec] theorem Library.arrayMethod_keepsResponses (m : ArrayMethod) (args : List Value) :
    KeepsResponses rs (arrayMethod m args) := by
  mvcgen [arrayMethod]
  all_goals simp_all +zetaDelta

@[local spec] theorem Library.codeToStr_keepsResponses (args : List Value) :
    KeepsResponses rs (codeToStr args) := by
  mvcgen [codeToStr]
  all_goals simp_all +zetaDelta

@[local spec] theorem Library.math_keepsResponses (fn : MathFn) (args : List Value) :
    KeepsResponses rs (math fn args) := by
  mvcgen [math]
  all_goals simp_all +zetaDelta

@[local spec] theorem Library.random_keepsResponses : KeepsResponses rs random := by
  mvcgen [random]

@[local spec] theorem Library.jsonParse_keepsResponses (args : List Value) :
    KeepsResponses rs (jsonParse args) := by
  mvcgen [jsonParse]
  all_goals simp_all +zetaDelta

@[local spec] theorem Library.jsonStringify_keepsResponses (args : List Value) :
    KeepsResponses rs (jsonStringify args) := by
  unfold jsonStringify
  -- `mvcgen` does not split the test for a NaN indent, which matches on the argument
  cases second : argAt args 1 with
  | number x => cases nan : x.isNaN <;> simp only [nan] <;> mvcgen <;> simp_all +zetaDelta
  | _ => mvcgen <;> simp_all +zetaDelta

@[local spec] theorem Library.numberFormat_keepsResponses (args : List Value) :
    KeepsResponses rs (numberFormat args) := by
  mvcgen [numberFormat]
  all_goals simp_all +zetaDelta

@[local spec] theorem Library.now_keepsResponses : KeepsResponses rs now := by
  mvcgen [now]

-- Checking a term whose type mentions `dateObject ms` makes Lean unfold it into
-- the calendar arithmetic; it is opened by its equation only.
attribute [local irreducible] dateObject

@[local spec] theorem Library.dateObject_keepsResponses (ms : Int) : KeepsResponses rs (dateObject ms) := by
  have constants : ∀ fields : List (String × Float), KeepsResponses rs (fields.mapM fun field => do
      return (Text.ofString field.1, ← newNative (.constant (.number field.2)))) :=
    mapM_keepsResponses _ fun field => by
      mvcgen
      all_goals simp_all
  unfold dateObject
  -- keep the calendar fields opaque: unfolding `CivilTime.ofMillis` blows up
  generalize CivilTime.ofMillis ms = t
  mvcgen [constants]

@[local spec] theorem Library.dateInstant_keepsResponses (args : List Value) :
    KeepsResponses rs (dateInstant args) := by
  mvcgen [dateInstant]
  all_goals simp_all +zetaDelta

@[local spec] theorem Library.date_keepsResponses (args : List Value) : KeepsResponses rs (date args) := by
  mvcgen [date]
  all_goals simp_all +zetaDelta

@[local spec] theorem Library.dateFormat_keepsResponses (ms : Int) (args : List Value) :
    KeepsResponses rs (dateFormat ms args) := by
  mvcgen [dateFormat]
  all_goals simp_all +zetaDelta

@[local spec] theorem Library.workVolume_keepsResponses : KeepsResponses rs workVolume := by
  mvcgen [workVolume]

@[local spec] theorem Library.setWork_keepsResponses (change : Volume × Disk) :
    KeepsResponses rs (setWork change) := by
  mvcgen [setWork]

@[local spec] theorem Library.fileResult_keepsResponses {α : Type} (name : String) (r : Except FileError α) :
    KeepsResponses rs (fileResult name r) := by
  cases r <;> mvcgen [fileResult]

@[local spec] theorem Library.statObject_keepsResponses (info : FileInfo) :
    KeepsResponses rs (statObject info) := by
  mvcgen [statObject]
  all_goals simp_all +zetaDelta

@[local spec] theorem Library.fileOp_keepsResponses (op : FileOp) (args : List Value) :
    KeepsResponses rs (fileOp op args) := by
  cases op <;> mvcgen [fileOp]
  all_goals simp_all +zetaDelta

@[local spec] theorem Library.server_keepsResponses (args : List Value) (scope : Nat) :
    KeepsResponses rs (server args scope) := by
  mvcgen [server]
  all_goals simp_all +zetaDelta

@[local spec] theorem Library.listen_keepsResponses (args : List Value) : KeepsResponses rs (listen args) := by
  mvcgen [listen]
  all_goals simp_all +zetaDelta

/-- Every native but the methods of a response object leaves the responses as
they are. -/
theorem Library.invoke_keepsResponses (n : Native) (args : List Value) (scope : Nat)
    (other : ∀ ref action, n ≠ .response ref action) : KeepsResponses rs (invoke n args scope) := by
  cases n
  case response ref action => exact absurd rfl (other ref action)
  all_goals mvcgen [invoke]
  all_goals simp_all +zetaDelta

@[local spec] theorem Library.newReader_keepsResponses : KeepsResponses rs newReader := by
  mvcgen [newReader]

@[local spec] theorem Library.namespaceOf_keepsResponses (entries : List (String × Sum Native Value)) :
    KeepsResponses rs (namespaceOf entries) := by
  mvcgen [namespaceOf] invariants
  · post⟨fun _ m => ⌜m.responses = rs⌝, fun _ m => ⌜m.responses = rs⌝⟩
  all_goals simp_all +zetaDelta

theorem Library.globalScope_keepsResponses (d : Dialect) : KeepsResponses rs (globalScope d) := by
  unfold globalScope
  generalize globalEntries d = entries
  mvcgen invariants
  · post⟨fun _ m => ⌜m.responses = rs⌝, fun _ m => ⌜m.responses = rs⌝⟩
  all_goals simp_all +zetaDelta

/-! ## The response of a handler -/

/-- Calls on any response leave response `ref` as some calls on it would, and
keep the number of responses. -/
theorem Machine.callResponse_getD (m : Machine) (ref' ref : Nat) (calls : List ResponseCall) :
    ∃ calls', (m.callResponse ref' calls).responses.getD ref default =
      ResponseCall.run (m.responses.getD ref default) calls' := by
  simp only [Machine.callResponse, Array.getD_eq_getD_getElem?, Array.getElem?_modify]
  split
  next same =>
    subst same
    cases found : m.responses[ref']? with
    | none => exact ⟨[], rfl⟩
    | some r => exact ⟨calls, rfl⟩
  next => exact ⟨[], rfl⟩

@[simp] theorem Machine.callResponse_size (m : Machine) (ref : Nat) (calls : List ResponseCall) :
    (m.callResponse ref calls).responses.size = m.responses.size := Array.size_modify

namespace Interp

/-- Response `ref` of every machine a run reaches is the one it started with
after some calls on it, and no response is dropped. -/
def responseAt (ref : Nat) : Invariant where
  Holds m₀ m := m₀.responses.size ≤ m.responses.size ∧
    ∃ calls, m.responses.getD ref default = ResponseCall.run (m₀.responses.getD ref default) calls
  ValueOk _ := True
  NativeOk _ := True
  ScopeOk _ := True
  SignalOk _ := True
  nodeOk _ := true

variable {ref : Nat}

/-- A computation keeps the invariant when each of its runs ends on a machine
whose response `ref` is its first one after some calls. -/
theorem keeps_responseAt {α : Type} {x : Eval α} {ok : α → Prop} (always : ∀ a, ok a)
    (m₀ : Machine) (pre : Prop)
    (runs : ∀ m, match x.run m with
      | .ok _ m' | .error _ m' => m.responses.size ≤ m'.responses.size ∧
        ∃ calls, m'.responses.getD ref default = ResponseCall.run (m.responses.getD ref default) calls) :
    (responseAt ref).Keeps m₀ pre ok x := by
  rw [Invariant.keeps_iff]
  intro m _ ⟨grown, before, start⟩
  have ran := runs m
  cases result : x.run m with
  | ok a m' =>
    obtain ⟨grown', after, reached⟩ : m.responses.size ≤ m'.responses.size ∧ ∃ calls,
        m'.responses.getD ref default = ResponseCall.run (m.responses.getD ref default) calls := by
      simpa [result] using ran
    exact ⟨always a, grown.trans grown', before ++ after,
      by rw [reached, start, ResponseCall.run_append]⟩
  | error sig m' =>
    obtain ⟨grown', after, reached⟩ : m.responses.size ≤ m'.responses.size ∧ ∃ calls,
        m'.responses.getD ref default = ResponseCall.run (m.responses.getD ref default) calls := by
      simpa [result] using ran
    exact ⟨trivial, grown.trans grown', before ++ after,
      by rw [reached, start, ResponseCall.run_append]⟩

/-- A computation that keeps the responses keeps the invariant. -/
theorem keeps_responseAt_of_keeps {α : Type} {x : Eval α} (keeps : ∀ rs, KeepsResponses rs x)
    {ok : α → Prop} (always : ∀ a, ok a) (m₀ : Machine) (pre : Prop) :
    (responseAt ref).Keeps m₀ pre ok x :=
  keeps_responseAt always m₀ pre fun m => by
    have kept := KeepsResponses.runs keeps m
    cases result : x.run m with
    | ok a m' =>
      have same : m'.responses = m.responses := by simpa [result] using kept
      exact ⟨by rw [same], [], by rw [same]; rfl⟩
    | error sig m' =>
      have same : m'.responses = m.responses := by simpa [result] using kept
      exact ⟨by rw [same], [], by rw [same]; rfl⟩

/-- A method of any response keeps the invariant: it calls on its own response. -/
theorem responseAction_responseAt (ref' : Nat) (action : ResponseAction) (args : List Value)
    (m₀ : Machine) (pre : Prop) :
    (responseAt ref).Keeps m₀ pre (fun _ => True) (Library.responseAction ref' action args) :=
  keeps_responseAt (fun _ => trivial) m₀ pre fun m => by
    have ran := Library.responseAction_calls ref' action args m m rfl
    simp only [wp, PredTrans.apply] at ran
    cases result : (Library.responseAction ref' action args).run m with
    | ok a m' =>
      have called : m' = m.callResponse ref' (action.call m.heap args).toList := by
        simpa [result] using ran
      subst called
      exact ⟨(Machine.callResponse_size ..).ge, Machine.callResponse_getD ..⟩
    | error sig m' =>
      have called : m' = m.callResponse ref' (action.call m.heap args).toList := by
        simpa [result] using ran
      subst called
      exact ⟨(Machine.callResponse_size ..).ge, Machine.callResponse_getD ..⟩

theorem invoke_responseAt (n : Native) (args : List Value) (scope : Nat) (m₀ : Machine)
    (pre : Prop) : (responseAt ref).Keeps m₀ pre (fun _ => True) (Library.invoke n args scope) := by
  cases n
  case response ref' action => exact responseAction_responseAt ref' action args m₀ pre
  all_goals
    exact keeps_responseAt_of_keeps
      (fun _ => Library.invoke_keepsResponses _ args scope (by simp)) (fun _ => trivial) m₀ pre

theorem responseAt_lawful (ref : Nat) : (responseAt ref).Lawful where
  trans first second := by
    obtain ⟨grown, before, start⟩ := first
    obtain ⟨grown', after, reached⟩ := second
    exact ⟨grown.trans grown', before ++ after, by rw [reached, start, ResponseCall.run_append]⟩
  stay _ := ⟨le_rfl, [], rfl⟩
  plain_value _ _ := trivial
  plain_signal _ _ := trivial
  thrown _ := Iff.rfl
  returned _ := Iff.rfl
  invalidTarget _ _ _ _ _ _ := trivial
  closureScope _ _ := trivial
  closureBody _ _ := Stmt.allList_const_true _
  native _ _ := trivial
  boundMethod _ := trivial
  boundSelf _ := trivial
  elements _ _ _ _ := trivial
  exports _ _ _ _ := trivial
  lookup m₀ scope name :=
    keeps_responseAt_of_keeps (fun _ => lookup_keepsResponses scope name) (fun _ => trivial) m₀ _
  assign m₀ scope name v :=
    keeps_responseAt_of_keeps (fun _ => assign_keepsResponses scope name v) (fun _ => trivial) m₀ _
  declare m₀ scope name v constant :=
    keeps_responseAt_of_keeps (fun _ => declare_keepsResponses scope name v constant)
      (fun _ => trivial) m₀ _
  childScope m₀ parent :=
    keeps_responseAt_of_keeps (fun _ => childScope_keepsResponses parent) (fun _ => trivial) m₀ _
  allocClosure m₀ _ :=
    keeps_responseAt_of_keeps (fun _ => onHeap_keepsResponses _) (fun _ => trivial) m₀ _
  newArray m₀ _ :=
    keeps_responseAt_of_keeps (fun _ => newArray_keepsResponses _) (fun _ => trivial) m₀ _
  newObject m₀ entries frozen :=
    keeps_responseAt_of_keeps (fun _ => newObject_keepsResponses entries frozen)
      (fun _ => trivial) m₀ _
  getProperty m₀ scope obj key :=
    keeps_responseAt_of_keeps (fun _ => getProperty_keepsResponses scope obj key)
      (fun _ => trivial) m₀ _
  setProperty m₀ obj key v :=
    keeps_responseAt_of_keeps (fun _ => setProperty_keepsResponses obj key v) (fun _ => trivial) m₀ _
  exportNames m₀ scope names :=
    keeps_responseAt_of_keeps (fun _ => exportNames_keepsResponses scope names)
      (fun _ => trivial) m₀ _
  invoke m₀ n args scope := invoke_responseAt n args scope m₀ _
  debug m₀ message attrs :=
    keeps_responseAt_of_keeps (fun _ => debug_keepsResponses message attrs) (fun _ => trivial) m₀ _
  globalScope m₀ d :=
    @keeps_responseAt_of_keeps ref _ _ (fun _ => @Library.globalScope_keepsResponses _ d) _
      (fun _ => trivial) m₀ True
  push _ _ _ := ⟨le_rfl, [], rfl⟩
  pop _ first second _ third := by
    obtain ⟨grown₁, calls₁, reached₁⟩ := first
    obtain ⟨grown₂, calls₂, reached₂⟩ := second
    obtain ⟨grown₃, calls₃, reached₃⟩ := third
    -- pushing and popping the key changes the import stack only
    dsimp only at grown₃ reached₃ ⊢
    exact ⟨grown₁.trans (grown₂.trans grown₃), calls₁ ++ calls₂ ++ calls₃, by
      rw [reached₃, reached₂, reached₁, ResponseCall.run_append, ResponseCall.run_append]⟩
  parsed _ := Stmt.allList_const_true _

end Interp

/-! ## Serving a request -/

theorem Library.newResponse_fresh (rs : Array Response) :
    ⦃fun m => ⌜m.responses = rs⌝⦄ Library.newResponse
    ⦃post⟨fun made m => ⌜made.1 = rs.size ∧ m.responses = rs.push Response.fresh⌝,
      fun _ _ => ⌜False⌝⟩⦄ := by
  mvcgen [Library.newResponse, newObject, newNative, onHeap]
  all_goals simp_all +zetaDelta

theorem Library.requestObject_keeps (rs : Array Response) (req : HttpRequest) (method uri : String) :
    ⦃fun m => ⌜m.responses = rs⌝⦄ Library.requestObject req method uri
    ⦃post⟨fun _ m => ⌜m.responses = rs⌝, fun _ _ => ⌜False⌝⟩⦄ := by
  mvcgen [Library.requestObject, newObject, newArray, onHeap] invariants
  · post⟨fun _ m => ⌜m.responses = rs⌝, fun _ _ => ⌜False⌝⟩

/-- The responses of a machine with a fresh response pushed: the invariant
about that response reads no other part of the machine. -/
def Interp.pushedFresh (rs : Array Response) : Machine :=
  { (default : Machine) with responses := rs.push Response.fresh }

theorem Interp.responseAt_pushed {rs : Array Response} {m : Machine}
    (pushed : m.responses = rs.push Response.fresh) :
    (Interp.responseAt rs.size).Holds (Interp.pushedFresh rs) m :=
  ⟨by rw [pushed]; rfl, [], by rw [pushed]; rfl⟩

/-- The response pushed fresh, reached by the invariant and finished, is the
fresh response after the calls that reached it, finished, and shows the answer
of those calls. -/
theorem Interp.responseAt_finish {rs : Array Response} {m : Machine} {ref : Nat}
    (pushed : ref = rs.size) (holds : (Interp.responseAt rs.size).Holds (Interp.pushedFresh rs) m)
    (failure : Option Text) :
    ∃ calls, (m.responses.modify ref (·.finish failure)).getD ref default =
        (ResponseCall.run Response.fresh calls).finish failure ∧
      ((m.responses.modify ref (·.finish failure)).getD ref default).shown =
        ResponseCall.outcome (ResponseCall.answer calls failure) := by
  subst pushed
  obtain ⟨grown, calls, reached⟩ := holds
  have inside : rs.size < m.responses.size :=
    lt_of_lt_of_le (by simp [Interp.pushedFresh]) grown
  have finished : (m.responses.modify rs.size (·.finish failure)).getD rs.size default =
      (m.responses.getD rs.size default).finish failure := by
    rw [Array.getD_eq_getD_getElem?, Array.getD_eq_getD_getElem?, Array.getElem?_modify, if_pos rfl,
      Array.getElem?_eq_getElem inside]
    rfl
  have fresh : (Interp.pushedFresh rs).responses.getD rs.size default = Response.fresh := by
    simp [Interp.pushedFresh]
  rw [finished, reached, fresh]
  exact ⟨calls, rfl, Response.pending_fresh.finish_run calls failure⟩

/-- Handling a request either stops with the handler's stop of the program, or
ends with the response it made, at the next index: the fresh response after the
calls the handler made on it, finished with the handler's failure if it failed,
showing the answer of those calls. -/
theorem Session.handle_answers (handler : Value) (req : HttpRequest) (method uri : String)
    (scope : Nat) (rs : Array Response) :
    ⦃fun m => ⌜m.responses = rs⌝⦄ Session.handle handler req method uri scope
    ⦃post⟨fun ref m => ⌜ref = rs.size ∧ ∃ calls failure,
        m.responses.getD ref default = (ResponseCall.run Response.fresh calls).finish failure ∧
        (m.responses.getD ref default).shown = ResponseCall.outcome (ResponseCall.answer calls failure)⌝,
      fun sig _ => ⌜∃ why, sig = .panicked why⌝⟩⦄ := by
  have made := Library.newResponse_fresh rs
  have request := Library.requestObject_keeps (rs.push Response.fresh)
  -- the handler runs from a machine whose responses are those of `pushedFresh rs`
  have call := ((Interp.responseAt_lawful rs.size).sustained Interp.fuel).call
    (Interp.pushedFresh rs)
  mvcgen [Session.handle, made, request, call, Library.finishResponse, Library.updateResponse,
    Eval.heap]
  case vc2 => rename_i made; exact made.2
  case vc3 => rename_i pushed; exact ⟨⟨trivial, fun _ _ => trivial, trivial⟩, Interp.responseAt_pushed pushed⟩
  case vc4 =>
    rename_i made _ _ _ _ _ called _
    obtain ⟨calls, reached, shown⟩ := Interp.responseAt_finish made.1 called.2 none
    exact ⟨made.1, calls, none, reached, shown⟩
  case vc5 => exact ⟨_, rfl⟩
  case vc6 =>
    rename_i made _ _ _ _ _ _ _ _ called _
    obtain ⟨calls, reached, shown⟩ := Interp.responseAt_finish made.1 called.2 _
    exact ⟨made.1, calls, _, reached, shown⟩

/-- What handling a request does, read on one run. -/
theorem Session.handle_runs (handler : Value) (req : HttpRequest) (method uri : String)
    (scope : Nat) (m : Machine) :
    match (Session.handle handler req method uri scope).run m with
    | .ok ref m' => ref = m.responses.size ∧ ∃ calls failure,
        m'.responses.getD ref default = (ResponseCall.run Response.fresh calls).finish failure ∧
        (m'.responses.getD ref default).shown = ResponseCall.outcome (ResponseCall.answer calls failure)
    | .error sig _ => ∃ why, sig = .panicked why := by
  have ran := Session.handle_answers handler req method uri scope m.responses m rfl
  simp only [wp, PredTrans.apply] at ran
  cases result : (Session.handle handler req method uri scope).run m with
  | ok ref m' => simpa [result] using ran
  | error sig m' => simpa [result] using ran

end Vernacular
