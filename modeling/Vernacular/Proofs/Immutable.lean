import Mathlib
import Vernacular.Proofs.ImportStack
/-!
# Constants and frozen objects stay fixed

A binding made constant (by `const`, a `catch` parameter, an import alias or
the library's globals) is never written again, and an object made frozen (the
library's namespaces and method tables, and imported modules) never changes:
`Heap.Preserves h h'` says that `h'` still has every constant binding and every
frozen object of `h`, with its tables no shorter. Writes into the table of a
module's exports are the one write into an object that no frozen check guards,
so the invariant also carries that every scope's table of exports is an object
of the heap that is not frozen (`Heap.ExportsOpen`).
-/

set_option autoImplicit false
set_option mvcgen.warning false

open Std.Do

namespace Vernacular

@[simp] theorem Scope.default_bindings : (default : Scope).bindings = #[] := rfl

@[simp] theorem Scope.default_exports : (default : Scope).exports = none := rfl

/-! ## Bindings and objects -/

@[simp] theorem ObjectCell.set_frozen (o : ObjectCell) (key : Text) (v : Value) :
    (o.set key v).frozen = o.frozen := by
  unfold ObjectCell.set
  split <;> rfl

/-- A binding of a scope, found again after another binding is added. -/
theorem Scope.binding?_push {s : Scope} {name : String} {b new : Binding}
    (found : s.binding? name = some b) : ({ s with bindings := s.bindings.push new }).binding? name = some b := by
  simp only [Scope.binding?, Array.find?_push] at found ⊢
  simp [found]

theorem List.find?_set_of_not {α : Type} {p : α → Bool} {x : α} (new : p x = false) :
    ∀ (l : List α) (i : Nat), (∀ y ∈ l[i]?, p y = false) → (l.set i x).find? p = l.find? p
  | [], _, _ => rfl
  | a :: l, 0, old => by
    simp only [List.getElem?_cons_zero, Option.mem_def, Option.some.injEq, forall_eq'] at old
    simp [new, old]
  | a :: l, i + 1, old => by
    simp only [List.getElem?_cons_succ] at old
    simp [List.find?_cons, List.find?_set_of_not new l i old]

/-- The binding of a name is the one at the first index that names it. -/
theorem Scope.binding?_of_findIdx? {s : Scope} {name : String} {i : Nat}
    (first : s.bindings.findIdx? (·.name == name) = some i) : s.binding? name = s.bindings[i]? := by
  rw [Scope.binding?, Array.find?_eq_getElem?_findIdx, (Array.findIdx?_eq_some_iff_findIdx_eq.mp first).2]

/-- Rewriting a binding of one name leaves the bindings of the other names. -/
theorem Scope.binding?_set_of_ne {s : Scope} {i : Nat} {b : Binding} {name n : String}
    (named : b.name = name) (old : ∀ y ∈ s.bindings[i]?, y.name = name) (other : n ≠ name) :
    ({ s with bindings := s.bindings.set! i b }).binding? n = s.binding? n := by
  simp only [Scope.binding?, ← Array.find?_toList, Array.set!_eq_setIfInBounds, Array.toList_setIfInBounds]
  apply List.find?_set_of_not
  · simp [named, Ne.symm other]
  · intro y member
    simp only [Array.getElem?_toList] at member
    simp [old y member, Ne.symm other]

namespace Heap

/-- Every scope's table of exports is an allocated object that is not frozen. -/
def ExportsOpen (h : Heap) : Prop :=
  ∀ ref r, (h.scope ref).exports = some r → r < h.objects.size ∧ (h.object r).frozen = false

/-- `h'` keeps what `h` fixed: each constant binding of a scope and each frozen
object, with no table shorter. -/
structure Preserves (h h' : Heap) : Prop where
  scopes_size : h.scopes.size ≤ h'.scopes.size
  objects_size : h.objects.size ≤ h'.objects.size
  constants : ∀ {ref name b}, (h.scope ref).binding? name = some b → b.constant = true →
    (h'.scope ref).binding? name = some b
  frozen : ∀ {ref}, (h.object ref).frozen = true → h'.object ref = h.object ref

namespace Preserves

@[refl] theorem refl (h : Heap) : h.Preserves h := ⟨le_rfl, le_rfl, fun found _ => found, fun _ => rfl⟩

@[trans] theorem trans {h₁ h₂ h₃ : Heap} (first : h₁.Preserves h₂) (second : h₂.Preserves h₃) :
    h₁.Preserves h₃ where
  scopes_size := first.scopes_size.trans second.scopes_size
  objects_size := first.objects_size.trans second.objects_size
  constants found constant := second.constants (first.constants found constant) constant
  frozen {ref} frozen := by
    have kept := first.frozen frozen
    rw [second.frozen (kept ▸ frozen), kept]

end Preserves

/-! ## Where constants and frozen objects live -/

theorem scope_out_of_range {h : Heap} {ref : Nat} (outside : h.scopes.size ≤ ref) :
    h.scope ref = default := by
  simp [scope, Array.getD_eq_getD_getElem?, Array.getElem?_eq_none outside]

theorem object_out_of_range {h : Heap} {ref : Nat} (outside : h.objects.size ≤ ref) :
    h.object ref = .empty := by
  simp [object, Array.getD_eq_getD_getElem?, Array.getElem?_eq_none outside]

/-- A scope that binds a name is allocated. -/
theorem lt_of_binding {h : Heap} {ref : Nat} {name : String} {b : Binding}
    (found : (h.scope ref).binding? name = some b) : ref < h.scopes.size := by
  by_contra outside
  rw [scope_out_of_range (Nat.le_of_not_lt outside)] at found
  simp [Scope.binding?] at found

/-- A heap with no scopes has no table of exports to close. -/
theorem ExportsOpen.of_no_scopes {h : Heap} (empty : h.scopes = #[]) : h.ExportsOpen := by
  intro ref r exported
  rw [scope_out_of_range (by simp [empty])] at exported
  simp at exported

/-- A frozen object is allocated. -/
theorem lt_of_frozen {h : Heap} {ref : Nat} (frozen : (h.object ref).frozen = true) :
    ref < h.objects.size := by
  by_contra outside
  rw [object_out_of_range (Nat.le_of_not_lt outside)] at frozen
  simp [ObjectCell.empty] at frozen

/-! ## Each operation of the heap keeps what is fixed -/

section Operations

variable {h : Heap}

@[simp] theorem object_allocScope (parent : Option Nat) (r : Nat) :
    (h.allocScope parent).2.object r =
      if parent.isNone ∧ r = h.objects.size then .empty else h.object r := by
  cases parent with
  | some p => simp [allocScope, object]
  | none =>
    simp only [allocScope, Option.isNone_none, true_and]
    exact object_allocObject h r .empty

theorem objects_size_allocScope (parent : Option Nat) :
    h.objects.size ≤ (h.allocScope parent).2.objects.size := by
  cases parent <;> simp [allocScope, allocObject]

theorem Preserves.allocObject (o : ObjectCell) : h.Preserves (h.allocObject o).2 where
  scopes_size := le_rfl
  objects_size := by simp [Heap.allocObject]
  constants found _ := found
  frozen frozen := by
    simp [Nat.ne_of_lt (lt_of_frozen frozen)]

theorem ExportsOpen.allocObject (o : ObjectCell) (opened : h.ExportsOpen) :
    (h.allocObject o).2.ExportsOpen := by
  intro ref r exported
  obtain ⟨inside, unfrozen⟩ := opened ref r exported
  refine ⟨by simp [Heap.allocObject]; omega, ?_⟩
  simp [Nat.ne_of_lt inside, unfrozen]

theorem Preserves.allocScope (parent : Option Nat) : h.Preserves (h.allocScope parent).2 where
  scopes_size := by cases parent <;> simp [Heap.allocScope, Heap.allocObject]
  objects_size := objects_size_allocScope parent
  constants {ref name b} found _ := by
    rw [scope_allocScope, if_neg (Nat.ne_of_lt (lt_of_binding found))]
    exact found
  frozen {ref} frozen := by
    rw [object_allocScope]
    simp [Nat.ne_of_lt (lt_of_frozen frozen)]

theorem ExportsOpen.allocScope (parent : Option Nat) (opened : h.ExportsOpen) :
    (h.allocScope parent).2.ExportsOpen := by
  intro ref r exported
  have grown := @objects_size_allocScope h parent
  rw [scope_allocScope] at exported
  split at exported
  case isTrue =>
    -- the new scope: a root gets the fresh, empty table of exports
    cases parent with
    | some p => simp at exported
    | none =>
      simp only [Option.isSome_none] at exported
      cases exported
      simp [Heap.allocScope, Heap.allocObject, object, Array.getD_eq_getD_getElem?, ObjectCell.empty]
  case isFalse =>
    obtain ⟨inside, unfrozen⟩ := opened ref r exported
    refine ⟨by omega, ?_⟩
    rw [object_allocScope]
    simp [Nat.ne_of_lt inside, unfrozen]

theorem Preserves.objectSet {ref : Nat} (key : Text) (v : Value) (open_ : (h.object ref).frozen = false) :
    h.Preserves (h.objectSet ref key v) where
  scopes_size := le_rfl
  objects_size := by simp [Heap.objectSet, setObject]
  constants found _ := found
  frozen {r} frozen := by
    have other : r ≠ ref := by
      rintro rfl
      simp [open_] at frozen
    simp [Heap.objectSet, other]

theorem ExportsOpen.objectSet {ref : Nat} (key : Text) (v : Value) (opened : h.ExportsOpen) :
    (h.objectSet ref key v).ExportsOpen := by
  intro s r exported
  obtain ⟨inside, unfrozen⟩ := opened s r exported
  refine ⟨by simpa [Heap.objectSet, setObject] using inside, ?_⟩
  simp only [Heap.objectSet, object_setObject]
  split <;> simp_all

theorem Preserves.of_declare {h' : Heap} {ref : Nat} {name : String} {v : Value} {constant : Bool}
    (ran : h.declare ref name v constant = .ok h') : h.Preserves h' := by
  unfold Heap.declare at ran
  dsimp only at ran
  split at ran
  · simp at ran
  · cases ran
    refine ⟨by simp, le_rfl, ?_, fun _ => rfl⟩
    intro r n b found _
    rw [scope_setScope]
    split
    case isTrue same =>
      obtain ⟨rfl, -⟩ := same
      exact Scope.binding?_push found
    case isFalse => exact found

theorem ExportsOpen.of_declare {h' : Heap} {ref : Nat} {name : String} {v : Value} {constant : Bool}
    (ran : h.declare ref name v constant = .ok h') (opened : h.ExportsOpen) : h'.ExportsOpen := by
  unfold Heap.declare at ran
  dsimp only at ran
  split at ran
  · simp at ran
  · cases ran
    intro s r exported
    rw [scope_setScope] at exported
    split at exported
    case isTrue same =>
      obtain ⟨rfl, -⟩ := same
      exact opened s r exported
    case isFalse => exact opened s r exported

theorem Preserves.of_assign {h' : Heap} {ref : Nat} {name : String} {v : Value}
    (ran : h.assign ref name v = .ok h') : h.Preserves h' := by
  unfold Heap.assign at ran
  split at ran
  · simp at ran
  rename_i r _
  dsimp only at ran
  split at ran
  · simp at ran
  rename_i i first
  split at ran
  · simp at ran
  rename_i writable
  cases ran
  have inside := (Array.findIdx?_eq_some_iff_getElem.mp first).1
  have named := (Array.findIdx?_eq_some_iff_getElem.mp first).2.1
  refine ⟨by simp, le_rfl, ?_, fun _ => rfl⟩
  intro r' n b found constant
  rw [scope_setScope]
  split
  case isFalse => exact found
  case isTrue same =>
    obtain ⟨rfl, -⟩ := same
    by_cases renamed : n = name
    case pos =>
      -- the binding found is the one the assignment writes, which is not constant
      subst renamed
      rw [Scope.binding?_of_findIdx? first, Array.getElem?_eq_getElem inside] at found
      cases found
      simp [Array.getD_eq_getD_getElem?, Array.getElem?_eq_getElem inside, constant] at writable
    case neg =>
      rw [Scope.binding?_set_of_ne (by simpa [Array.getD_eq_getD_getElem?, Array.getElem?_eq_getElem inside]
        using named) (by simpa [Array.getElem?_eq_getElem inside] using named) renamed]
      exact found

theorem ExportsOpen.of_assign {h' : Heap} {ref : Nat} {name : String} {v : Value}
    (ran : h.assign ref name v = .ok h') (opened : h.ExportsOpen) : h'.ExportsOpen := by
  unfold Heap.assign at ran
  split at ran
  · simp at ran
  dsimp only at ran
  split at ran
  · simp at ran
  split at ran
  · simp at ran
  cases ran
  intro s r exported
  rw [scope_setScope] at exported
  split at exported
  case isTrue same =>
    obtain ⟨rfl, -⟩ := same
    exact opened s r exported
  case isFalse => exact opened s r exported

/-- The library's globals are installed into a scope allocated after `h₀`. -/
theorem Preserves.install {h₀ : Heap} (fixed : h₀.Preserves h) {ref : Nat} (fresh : h₀.scopes.size ≤ ref)
    (name : String) (v : Value) : h₀.Preserves (h.install ref name v) where
  scopes_size := by simpa [Heap.install] using fixed.scopes_size
  objects_size := fixed.objects_size
  constants {r n b} found constant := by
    have other : r ≠ ref := Nat.ne_of_lt (lt_of_lt_of_le (lt_of_binding found) fresh)
    simp only [Heap.install]
    rw [scope_setScope, if_neg fun same => other same.1]
    exact fixed.constants found constant
  frozen frozen := fixed.frozen frozen

theorem ExportsOpen.install {ref : Nat} (name : String) (v : Value) (opened : h.ExportsOpen) :
    (h.install ref name v).ExportsOpen := by
  intro s r exported
  simp only [Heap.install] at exported
  rw [scope_setScope] at exported
  split at exported
  case isTrue same =>
    obtain ⟨rfl, -⟩ := same
    exact opened s r exported
  case isFalse => exact opened s r exported

end Operations

/-- What a run keeps of the heap `h₀` it started from, in a heap `h` it reaches:
`h` preserves what `h₀` fixed, and its tables of exports are open. -/
def Fixes (h₀ h : Heap) : Prop := h₀.Preserves h ∧ h.ExportsOpen

namespace Fixes

variable {h₀ h : Heap}

theorem refl (opened : h.ExportsOpen) : h.Fixes h := ⟨.refl h, opened⟩

/-- A step that preserves what the heap fixed and keeps its tables of exports open. -/
theorem step {h' : Heap} (fixes : h₀.Fixes h) (preserves : h.Preserves h') (opened : h.ExportsOpen → h'.ExportsOpen) :
    h₀.Fixes h' := ⟨fixes.1.trans preserves, opened fixes.2⟩

theorem allocArray (fixes : h₀.Fixes h) (els : Array Value) : h₀.Fixes (h.allocArray els).2 :=
  ⟨⟨fixes.1.scopes_size, fixes.1.objects_size, fixes.1.constants, fixes.1.frozen⟩, fixes.2⟩

theorem allocClosure (fixes : h₀.Fixes h) (c : Closure) : h₀.Fixes (h.allocClosure c).2 :=
  ⟨⟨fixes.1.scopes_size, fixes.1.objects_size, fixes.1.constants, fixes.1.frozen⟩, fixes.2⟩

theorem allocNative (fixes : h₀.Fixes h) (n : Native) : h₀.Fixes (h.allocNative n).2 :=
  ⟨⟨fixes.1.scopes_size, fixes.1.objects_size, fixes.1.constants, fixes.1.frozen⟩, fixes.2⟩

theorem setElements (fixes : h₀.Fixes h) (ref : Nat) (els : Array Value) : h₀.Fixes (h.setElements ref els) :=
  ⟨⟨fixes.1.scopes_size, fixes.1.objects_size, fixes.1.constants, fixes.1.frozen⟩, fixes.2⟩

theorem allocObject (fixes : h₀.Fixes h) (o : ObjectCell) : h₀.Fixes (h.allocObject o).2 :=
  fixes.step (.allocObject o) (.allocObject o)

theorem allocScope (fixes : h₀.Fixes h) (parent : Option Nat) : h₀.Fixes (h.allocScope parent).2 :=
  fixes.step (.allocScope parent) (.allocScope parent)

theorem objectSet (fixes : h₀.Fixes h) {ref : Nat} (key : Text) (v : Value)
    (open_ : (h.object ref).frozen = false) : h₀.Fixes (h.objectSet ref key v) :=
  fixes.step (.objectSet key v open_) (.objectSet key v)

theorem declare {h' : Heap} {ref : Nat} {name : String} {v : Value} {constant : Bool} (fixes : h₀.Fixes h)
    (ran : h.declare ref name v constant = .ok h') : h₀.Fixes h' :=
  fixes.step (.of_declare ran) (.of_declare ran)

theorem assign {h' : Heap} {ref : Nat} {name : String} {v : Value} (fixes : h₀.Fixes h)
    (ran : h.assign ref name v = .ok h') : h₀.Fixes h' :=
  fixes.step (.of_assign ran) (.of_assign ran)

theorem install (fixes : h₀.Fixes h) {ref : Nat} (fresh : h₀.scopes.size ≤ ref) (name : String) (v : Value) :
    h₀.Fixes (h.install ref name v) :=
  ⟨fixes.1.install fresh name v, .install name v fixes.2⟩

/-- The table of exports of a scope's root is not frozen. -/
theorem exports_open {scope ref : Nat} (fixes : h₀.Fixes h) (exported : h.exportsOf scope = some ref) :
    (h.object ref).frozen = false :=
  (fixes.2 _ _ exported).2

end Fixes

end Heap

namespace Machine.LibraryEffect

variable {m m' : Machine}

/-- A call of the library keeps the scopes and the objects it found. -/
theorem preserves (effect : m.LibraryEffect m') : m.heap.Preserves m'.heap where
  scopes_size := effect.scopes ▸ le_rfl
  objects_size := effect.objects_size
  constants found _ := by
    rw [Heap.scope, effect.scopes]
    exact found
  frozen frozen := effect.objects _ (Heap.lt_of_frozen frozen)

theorem exportsOpen (effect : m.LibraryEffect m') (opened : m.heap.ExportsOpen) : m'.heap.ExportsOpen := by
  intro s r exported
  rw [Heap.scope, effect.scopes] at exported
  obtain ⟨inside, unfrozen⟩ := opened s r exported
  exact ⟨lt_of_lt_of_le inside effect.objects_size, by rw [effect.objects r inside]; exact unfrozen⟩

theorem fixes {h₀ : Heap} (effect : m.LibraryEffect m') (fixes : h₀.Fixes m.heap) : h₀.Fixes m'.heap :=
  fixes.step effect.preserves effect.exportsOpen

end Machine.LibraryEffect

/-! ## Each helper of the evaluator keeps what is fixed -/

namespace Eval

/-- A computation keeps what `h₀` fixed: started in a machine whose heap
preserves it, with open tables of exports, it ends in one, whichever way it ends. -/
abbrev KeepsFixed {α : Type} (x : Eval α) : Prop :=
  ∀ h₀ : Heap, ⦃fun m => ⌜h₀.Fixes m.heap⌝⦄ x
    ⦃post⟨fun _ m => ⌜h₀.Fixes m.heap⌝, fun _ m => ⌜h₀.Fixes m.heap⌝⟩⦄

/-- What keeping what is fixed says about runs. -/
theorem keepsFixed_iff {α : Type} {x : Eval α} :
    KeepsFixed x ↔ ∀ (h₀ : Heap) m, h₀.Fixes m.heap →
      match x.run m with
      | .ok _ m' | .error _ m' => h₀.Fixes m'.heap := by
  constructor
  · intro keeps h₀ m start
    have ran := keeps h₀ m start
    simp only [wp, PredTrans.apply] at ran
    cases result : x.run m with
    | ok a m' => simpa [result] using ran
    | error sig m' => simpa [result] using ran
  · intro runs h₀ m start
    simp only [wp, PredTrans.apply]
    have ran := runs h₀ m start
    cases result : x.run m with
    | ok a m' => simpa [result] using ran
    | error sig m' => simpa [result] using ran


@[local spec] theorem getProperty_keepsFixed (scope : Nat) (obj key : Value) :
    KeepsFixed (getProperty scope obj key) := by
  intro h₀
  mvcgen [getProperty, method, heap, newNative, onHeap, unknownProperty, text]
  all_goals exact Heap.Fixes.allocNative ‹_› _


@[local spec] theorem newArray_keepsFixed (elements : Array Value) : KeepsFixed (newArray elements) := by
  intro h₀
  mvcgen [newArray, onHeap]
  exact Heap.Fixes.allocArray ‹_› _

@[local spec] theorem newObject_keepsFixed (entries : List (Text × Value)) (frozen : Bool) :
    KeepsFixed (newObject entries frozen) := by
  intro h₀
  mvcgen [newObject, onHeap]
  exact Heap.Fixes.allocObject ‹_› _

@[local spec] theorem debug_keepsFixed (message : String) (attrs : List (String × LogValue)) :
    KeepsFixed (debug message attrs) := by
  intro h₀
  mvcgen [debug, writeErr]

@[local spec] theorem setProperty_keepsFixed (obj key v : Value) : KeepsFixed (setProperty obj key v) := by
  intro h₀
  mvcgen [setProperty, heap, updateHeap, text, describe]
  all_goals first
    | exact Heap.Fixes.setElements ‹_› _ _
    | exact Heap.Fixes.objectSet ‹_› _ _ (Bool.eq_false_iff.mpr ‹_›)

end Eval

namespace Interp

open Eval

@[local spec] theorem lookup_keepsFixed (scope : Nat) (name : String) : KeepsFixed (lookup scope name) := by
  intro h₀
  mvcgen [lookup, heap, orFail]

@[local spec] theorem assign_keepsFixed (scope : Nat) (name : String) (v : Value) :
    KeepsFixed (assign scope name v) := by
  intro h₀
  mvcgen [assign, heap, orFail]
  exact Heap.Fixes.assign ‹_› ‹_›

@[local spec] theorem declare_keepsFixed (scope : Nat) (name : String) (v : Value) (constant : Bool) :
    KeepsFixed (declare scope name v constant) := by
  intro h₀
  mvcgen [declare, heap, orFail]
  exact Heap.Fixes.declare ‹_› ‹_›

@[local spec] theorem childScope_keepsFixed (parent : Nat) : KeepsFixed (childScope parent) := by
  intro h₀
  mvcgen [childScope, onHeap]
  exact Heap.Fixes.allocScope ‹_› _

@[local spec] theorem exportNames_keepsFixed (scope : Nat) (names : List String) :
    KeepsFixed (exportNames scope names) := by
  intro h₀
  mvcgen [exportNames, heap, orFail, updateHeap] invariants
  · post⟨fun _ m => ⌜h₀.Fixes m.heap⌝, fun _ m => ⌜h₀.Fixes m.heap⌝⟩
  -- the one write: the module's table of exports, which is open
  exact Heap.Fixes.objectSet ‹_› _ _ (Heap.Fixes.exports_open ‹_› ‹_›)

end Interp

namespace Library

open Eval

@[local spec] theorem globalScope_keepsFixed (d : Dialect) : KeepsFixed (globalScope d) := by
  intro h₀
  unfold globalScope
  generalize globalEntries d = entries
  -- the globals go into the scope just allocated, which `h₀` did not have
  mvcgen [onHeap, newReader, newNative, namespaceOf, newObject, updateHeap] invariants
  · by
      rename_i allocated _
      exact post⟨fun _ m => ⌜h₀.Fixes m.heap ∧ h₀.scopes.size ≤ allocated.1⌝, fun _ m => ⌜h₀.Fixes m.heap⌝⟩
  · post⟨fun _ m => ⌜h₀.Fixes m.heap⌝, fun _ m => ⌜h₀.Fixes m.heap⌝⟩
  case vc7.pre =>
    rename_i initial _ _
    exact ⟨initial.allocScope none, initial.1.scopes_size⟩
  case vc1.step.h_1 =>
    rename_i state _ _
    exact ⟨(state.1.allocNative _).install state.2 _ _, state.2⟩
  case vc2.step.h_1 => exact Heap.Fixes.allocNative ‹_› _
  case vc4.step.h_2.pre =>
    rename_i state _
    exact state.1
  case vc5.step.h_2.post.success =>
    rename_i outer _ _ _ inner _ _
    exact ⟨(inner.allocObject _).install outer.2 _ _, outer.2⟩
  case vc8.post.success =>
    rename_i state
    exact state.1

/-- A native keeps the scopes and the objects it found. -/
theorem invoke_keepsFixed (n : Native) (args : List Value) (scope : Nat) : KeepsFixed (invoke n args scope) := by
  rw [keepsFixed_iff]
  intro h₀ m start
  have effect := invoke_effect n args scope m
  cases result : (invoke n args scope).run m with
  | ok a m' =>
    rw [result] at effect
    exact effect.fixes start
  | error sig m' =>
    rw [result] at effect
    exact effect.2.fixes start

end Library

namespace Interp

open Eval

/-- Every machine a run reaches keeps the constant bindings and the frozen
objects of the machine it started in. -/
def fixedCells : Invariant where
  Holds m₀ m := m₀.heap.Fixes m.heap
  ValueOk _ := True
  NativeOk _ := True
  ScopeOk _ := True
  SignalOk _ := True
  nodeOk _ := true

/-- A computation that keeps what is fixed keeps the invariant. -/
theorem keeps_fixedCells {α : Type} {x : Eval α} (keeps : KeepsFixed x) {ok : α → Prop} (always : ∀ a, ok a)
    (m₀ : Machine) (pre : Prop) : fixedCells.Keeps m₀ pre ok x := by
  rw [Invariant.keeps_iff]
  intro m _ holds
  have ran := keepsFixed_iff.mp keeps m₀.heap m holds
  cases result : x.run m with
  | ok a m' =>
    rw [result] at ran
    exact ⟨always a, ran⟩
  | error sig m' =>
    rw [result] at ran
    exact ⟨trivial, ran⟩

theorem fixedCells_lawful : fixedCells.Lawful where
  trans first second := first.step second.1 fun _ => second.2
  stay reached := .refl reached.2
  plain_value _ _ := trivial
  plain_signal _ _ := trivial
  thrown _ := Iff.rfl
  returned _ := Iff.rfl
  invalidTarget _ _ _ _ _ _ := trivial
  closureScope _ _ := trivial
  closureBody _ _ := Stmt.allList_const_true _
  native _ _ := trivial
  boundMethod _ := trivial
  boundSelf _ := trivial
  elements _ _ _ _ := trivial
  exports _ _ _ _ := trivial
  lookup m₀ scope name := keeps_fixedCells (lookup_keepsFixed scope name) (fun _ => trivial) m₀ _
  assign m₀ scope name v := keeps_fixedCells (assign_keepsFixed scope name v) (fun _ => trivial) m₀ _
  declare m₀ scope name v constant :=
    keeps_fixedCells (declare_keepsFixed scope name v constant) (fun _ => trivial) m₀ _
  childScope m₀ parent := keeps_fixedCells (childScope_keepsFixed parent) (fun _ => trivial) m₀ _
  allocClosure m₀ c := by
    refine keeps_fixedCells ?_ (fun _ => trivial) m₀ _
    intro h₀
    mvcgen [onHeap]
    exact Heap.Fixes.allocClosure ‹_› _
  newArray m₀ vs := keeps_fixedCells (newArray_keepsFixed _) (fun _ => trivial) m₀ _
  newObject m₀ entries frozen := keeps_fixedCells (newObject_keepsFixed entries frozen) (fun _ => trivial) m₀ _
  getProperty m₀ scope obj key := keeps_fixedCells (getProperty_keepsFixed scope obj key) (fun _ => trivial) m₀ _
  setProperty m₀ obj key v := keeps_fixedCells (setProperty_keepsFixed obj key v) (fun _ => trivial) m₀ _
  exportNames m₀ scope names := keeps_fixedCells (exportNames_keepsFixed scope names) (fun _ => trivial) m₀ _
  invoke m₀ n args scope := keeps_fixedCells (Library.invoke_keepsFixed n args scope) (fun _ => trivial) m₀ _
  debug m₀ message attrs := keeps_fixedCells (debug_keepsFixed message attrs) (fun _ => trivial) m₀ _
  globalScope m₀ d := @keeps_fixedCells _ _ (@Library.globalScope_keepsFixed d) _ (fun _ => trivial) m₀ True
  push _ checked _ := .refl checked.2
  pop _ start checked _ body := (start.step checked.1 fun _ => checked.2).step body.1 fun _ => body.2
  parsed _ := Stmt.allList_const_true _

/-- A run of statements, and a run of a whole program, whichever way it ends:
every constant binding of every scope is still there with its value, and every
frozen object is as it was. The machine it starts in needs only that no scope's
table of exports is frozen, which holds of every machine evaluation builds, and
the run hands the same on: no table of exports is frozen where it ends. -/
theorem constants_and_frozen_objects_stay (fuel scope : Nat) (body : List Stmt) (p : Program)
    (m : Machine) (opened : m.heap.ExportsOpen) :
    (match (stmts fuel scope body).run m with
      | .ok _ m' | .error _ m' => m.heap.Preserves m'.heap ∧ m'.heap.ExportsOpen) ∧
    (match (program scope p).run m with
      | .ok _ m' | .error _ m' => m.heap.Preserves m'.heap ∧ m'.heap.ExportsOpen) := by
  have start : fixedCells.Holds m m := .refl opened
  constructor
  · have keeps := Invariant.keeps_iff.mp ((fixedCells_lawful.sustained fuel).stmts m scope body)
    have ran := keeps m ⟨trivial, Stmt.allList_const_true _⟩ start
    cases result : (stmts fuel scope body).run m with
    | ok v m' => rw [result] at ran; exact ran.2
    | error sig m' => rw [result] at ran; exact ran.2
  · have keeps := Invariant.keeps_iff.mp (fixedCells_lawful.program m scope p)
    have ran := keeps m ⟨trivial, Stmt.allList_const_true _⟩ start
    cases result : (program scope p).run m with
    | ok v m' => rw [result] at ran; exact ran.2
    | error sig m' => rw [result] at ran; exact ran.2

/-- A fresh machine has no scopes, and a program run from it keeps what it fixed. -/
theorem fresh_program_keeps_constants :
    (default : Machine).heap.ExportsOpen ∧
      (match (program 0 ⟨[.declare true "x" (some (.number 1))]⟩).run default with
        | .ok _ m' | .error _ m' => (default : Machine).heap.Preserves m'.heap ∧ m'.heap.ExportsOpen) :=
  ⟨Heap.ExportsOpen.of_no_scopes rfl,
    (constants_and_frozen_objects_stay 1 0 [] ⟨[.declare true "x" (some (.number 1))]⟩ default
      (Heap.ExportsOpen.of_no_scopes rfl)).2⟩

end Interp

end Vernacular
