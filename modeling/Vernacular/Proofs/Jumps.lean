import Mathlib
import Vernacular.Interpreter.Eval
/-!
# Jumps

`return`, `break` and `continue` travel as signals (`Signal.returned`,
`Signal.broke`, `Signal.continued`) from the statement that issues them to the
construct that ends them. This module names the three jumps, states "a
computation stops with no jump other than these" as a Std.Do triple, so that
`mvcgen` can discharge it through `do` blocks, and proves it for the helpers
the evaluator calls: none of them stops with a jump.
-/

set_option autoImplicit false
set_option mvcgen.warning false

open Std.Do

namespace Vernacular

/-- The three jumps: `break`, `continue` and `return`. -/
inductive Jump where
  | brk
  | cont
  | ret
deriving DecidableEq, Repr

/-- The jump a signal carries, if it is one. -/
def Signal.jump? : Signal → Option Jump
  | .broke => some .brk
  | .continued => some .cont
  | .returned _ => some .ret
  | _ => none

/-- A signal that left its construct is no jump any more. -/
@[simp] theorem Signal.escaped_jump (sig : Signal) : sig.escaped.jump? = none := by
  cases sig <;> rfl

namespace Eval

/-- `x` stops with no jump outside `allowed`. -/
abbrev LetsOut {α : Type} (allowed : Jump → Bool) (x : Eval α) : Prop :=
  ⦃⌜True⌝⦄ x ⦃post⟨fun _ => ⌜True⌝, fun sig => ⌜∀ j ∈ sig.jump?, allowed j = true⌝⟩⦄

/-- `x` stops with no jump at all. -/
abbrev Quiet {α : Type} (x : Eval α) : Prop :=
  ⦃⌜True⌝⦄ x ⦃post⟨fun _ => ⌜True⌝, fun sig => ⌜sig.jump? = none⌝⟩⦄

variable {α : Type}

/-- What a triple on the ways a computation stops says about its runs. -/
theorem triple_iff_runs (x : Eval α) (stops : Signal → Prop) :
    ⦃⌜True⌝⦄ x ⦃post⟨fun _ => ⌜True⌝, fun sig => ⌜stops sig⌝⟩⦄ ↔
      ∀ m sig m', x.run m = .error sig m' → stops sig := by
  constructor
  · intro spec m sig m' stopped
    have holds := spec m trivial
    simp only [wp, PredTrans.apply, stopped] at holds
    exact holds
  · intro runs m _
    simp only [wp, PredTrans.apply]
    cases ran : x.run m with
    | ok a m' => trivial
    | error sig m' => exact runs m sig m' ran

theorem letsOut_iff {allowed : Jump → Bool} {x : Eval α} :
    LetsOut allowed x ↔ ∀ m sig m', x.run m = .error sig m' → ∀ j ∈ sig.jump?, allowed j = true :=
  triple_iff_runs x _

theorem quiet_iff {x : Eval α} : Quiet x ↔ ∀ m sig m', x.run m = .error sig m' → sig.jump? = none :=
  triple_iff_runs x _

theorem Quiet.pure (a : α) : Quiet (Pure.pure a : Eval α) := by mvcgen

/-- Sequencing two quiet computations is quiet. `mvcgen` does the same through
`do` blocks, but its obligations grow with the length of a block; long blocks
of allocations are chained with this lemma instead. -/
theorem Quiet.bind {β : Type} {x : Eval α} {f : α → Eval β} (first : Quiet x)
    (rest : ∀ a, Quiet (f a)) : Quiet (x >>= f) := by
  rw [quiet_iff] at first ⊢
  intro m sig m' stopped
  rw [EStateM.run_bind] at stopped
  cases ran : x.run m with
  | ok a m₁ =>
    rw [ran] at stopped
    exact quiet_iff.mp (rest a) m₁ sig m' stopped
  | error e m₁ =>
    rw [ran] at stopped
    obtain ⟨rfl, rfl⟩ : e = sig ∧ m₁ = m' := by simpa using stopped
    exact first m e m₁ ran

/-! ## Helpers of the evaluator -/

@[local spec] theorem heap_quiet : Quiet heap := by mvcgen [heap]

@[local spec] theorem onHeap_quiet {β : Type} (f : Heap → β × Heap) : Quiet (onHeap f) := by
  mvcgen [onHeap]

@[local spec] theorem updateHeap_quiet (f : Heap → Heap) : Quiet (updateHeap f) := by
  mvcgen [updateHeap]

@[local spec] theorem newArray_quiet (elements : Array Value) : Quiet (newArray elements) := by
  mvcgen [newArray]

@[local spec] theorem newObject_quiet (entries : List (Text × Value)) (frozen : Bool) :
    Quiet (newObject entries frozen) := by
  mvcgen [newObject]

@[local spec] theorem newNative_quiet (n : Native) : Quiet (newNative n) := by mvcgen [newNative]

@[local spec] theorem text_quiet (v : Value) : Quiet (text v) := by mvcgen [text]

@[local spec] theorem describe_quiet (v : Value) : Quiet (describe v) := by mvcgen [describe]

@[local spec] theorem writeOut_quiet (t : Text) : Quiet (writeOut t) := by mvcgen [writeOut]

@[local spec] theorem writeErr_quiet (t : Text) : Quiet (writeErr t) := by mvcgen [writeErr]

@[local spec] theorem throwMessage_quiet (message : String) : Quiet (throwMessage message : Eval α) := by
  mvcgen [throwMessage, throwText]

@[local spec] theorem debug_quiet (message : String) (attrs : List (String × LogValue)) :
    Quiet (debug message attrs) := by
  mvcgen [debug]

@[local spec] theorem unknownProperty_quiet (obj key : Value) : Quiet (unknownProperty obj key : Eval α) := by
  mvcgen [unknownProperty]

@[local spec] theorem method_quiet (scope : Nat) (table : String) (self key : Value) :
    Quiet (method scope table self key) := by
  mvcgen [method]

@[local spec] theorem getProperty_quiet (scope : Nat) (obj key : Value) : Quiet (getProperty scope obj key) := by
  mvcgen [getProperty]

@[local spec] theorem setProperty_quiet (obj key v : Value) : Quiet (setProperty obj key v) := by
  mvcgen [setProperty]

/-- `orFail` stops with no jump when the failures it passes on are none. -/
theorem orFail_quiet {r : Except Signal α} (failures : ∀ sig, r = .error sig → sig.jump? = none) :
    Quiet (orFail r) := by
  cases r with
  | ok a => mvcgen [orFail]
  | error sig =>
    have quiet := failures sig rfl
    mvcgen [orFail]

end Eval

/-! ## Scopes and modules

The failures of binding, reading and updating names, and of finding a module,
are faults or host errors. -/

namespace Heap

theorem lookup_failure_quiet {h : Heap} {ref : Nat} {name : String} {sig : Signal}
    (failed : h.lookup ref name = .error sig) : sig.jump? = none := by
  unfold lookup at failed
  split at failed
  · split at failed
    · cases failed
    · cases failed; rfl
  · cases failed; rfl

theorem declare_failure_quiet {h : Heap} {ref : Nat} {name : String} {v : Value} {constant : Bool}
    {sig : Signal} (failed : h.declare ref name v constant = .error sig) : sig.jump? = none := by
  unfold declare at failed
  dsimp only at failed
  split at failed
  · cases failed; rfl
  · cases failed

theorem assign_failure_quiet {h : Heap} {ref : Nat} {name : String} {v : Value} {sig : Signal}
    (failed : h.assign ref name v = .error sig) : sig.jump? = none := by
  unfold assign at failed
  split at failed
  · cases failed; rfl
  · dsimp only at failed
    split at failed
    · cases failed; rfl
    · split at failed
      · cases failed; rfl
      · cases failed

end Heap

theorem loadModule_failure_quiet {v : Volume} {d : Disk} {name : String} {builtin : Bool} {sig : Signal}
    (failed : loadModule v d name builtin = .error sig) : sig.jump? = none := by
  unfold loadModule at failed
  split at failed
  · cases failed; rfl
  · cases failed

theorem resolveModule_failure_quiet {builtin work : Option Volume} {d : Disk} {extensions : List String}
    {path : String} {sig : Signal} (failed : resolveModule builtin work d extensions path = .error sig) :
    sig.jump? = none := by
  unfold resolveModule at failed
  dsimp only at failed
  repeat' split at failed
  all_goals first
    | (cases failed; rfl)
    | exact loadModule_failure_quiet failed

namespace Interp

open Eval

attribute [local spec] heap_quiet onHeap_quiet updateHeap_quiet

@[local spec] theorem lookup_quiet (scope : Nat) (name : String) : Quiet (lookup scope name) := by
  mvcgen [lookup, orFail]
  exact Heap.lookup_failure_quiet ‹_›

@[local spec] theorem assign_quiet (scope : Nat) (name : String) (v : Value) : Quiet (assign scope name v) := by
  mvcgen [assign, orFail]
  exact Heap.assign_failure_quiet ‹_›

@[local spec] theorem declare_quiet (scope : Nat) (name : String) (v : Value) (constant : Bool) :
    Quiet (declare scope name v constant) := by
  mvcgen [declare, orFail]
  exact Heap.declare_failure_quiet ‹_›

@[local spec] theorem childScope_quiet (parent : Nat) : Quiet (childScope parent) := by
  mvcgen [childScope]

@[local spec] theorem exportNames_quiet (scope : Nat) (names : List String) : Quiet (exportNames scope names) := by
  mvcgen [exportNames, orFail] invariants
  · post⟨fun _ => ⌜True⌝, fun sig => ⌜sig.jump? = none⌝⟩
  all_goals first
    | exact fun _ quiet => quiet
    | exact Heap.lookup_failure_quiet ‹_›

end Interp

end Vernacular
