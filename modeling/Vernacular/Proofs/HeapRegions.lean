import Mathlib
import Vernacular.Interpreter.Eval
/-!
# Regions of the heap

The heap only grows: every table is appended to and a reference, once
allocated, names a cell of its table for the rest of a run. A *mark* records
the sizes of the tables at one moment, and the cells at or past it are the
ones allocated since. The cells allocated since a mark form a *closed* region
when everything they hold refers again to cells of the region: code that runs
in such a region, on values of it, reaches no older cell.

A call of the library changes the machine in a few ways only
(`Machine.LibraryEffect`): it allocates objects, arrays and natives, changes
the elements of arrays, and touches output, input, files, the random source
and responses. Scopes, closures, cells already allocated other than arrays,
the import stack and the dialects stay as they are.
-/

set_option autoImplicit false

namespace Vernacular

/-- A value that holds no reference into the heap. -/
def Value.Plain : Value → Prop
  | .array _ | .object _ | .closure _ | .native _ => False
  | _ => True

theorem Value.binary_plain (op : BinaryOp) (l r : Value) : (Value.binary op l r).Plain := by
  unfold Value.binary
  repeat' split
  all_goals trivial

theorem Value.unary_plain (op : UnaryOp) (v : Value) : (Value.unary op v).Plain := by
  unfold Value.unary
  split <;> trivial

namespace Heap

/-- The sizes of the heap's tables at one moment. -/
structure Mark where
  arrays : Nat
  objects : Nat
  closures : Nat
  natives : Nat
  scopes : Nat

/-- The sizes of the tables now. -/
def mark (h : Heap) : Mark :=
  ⟨h.arrays.size, h.objects.size, h.closures.size, h.natives.size, h.scopes.size⟩

namespace Mark

/-- Marks compare table by table. -/
instance : LE Mark :=
  ⟨fun k l => k.arrays ≤ l.arrays ∧ k.objects ≤ l.objects ∧ k.closures ≤ l.closures ∧
    k.natives ≤ l.natives ∧ k.scopes ≤ l.scopes⟩

/-- The mark before anything is allocated. -/
def origin : Mark := ⟨0, 0, 0, 0, 0⟩

variable (k : Mark)

/-- A value refers to no cell allocated before the mark. -/
def Fresh : Value → Prop
  | .array r => k.arrays ≤ r
  | .object r => k.objects ≤ r
  | .closure r => k.closures ≤ r
  | .native r => k.natives ≤ r
  | _ => True

/-- A native's payload refers to no cell allocated before the mark. -/
def FreshNative : Native → Prop
  | .constant v => k.Fresh v
  | .listen handler scope => k.Fresh handler ∧ k.scopes ≤ scope
  | .bound method self => k.Fresh method ∧ k.Fresh self
  | _ => True

/-- A scope refers to no cell allocated before the mark: its parent, the
values it binds and its table of exports. -/
structure FreshScope (s : Scope) : Prop where
  parent : ∀ p ∈ s.parent, k.scopes ≤ p
  bindings : ∀ b ∈ s.bindings, k.Fresh b.value
  exports : ∀ o ∈ s.exports, k.objects ≤ o

/-- The heap has reached the mark, and the cells allocated since it refer only
to cells allocated since it. -/
structure Closed (h : Heap) : Prop where
  reached : k ≤ h.mark
  arrays : ∀ r, k.arrays ≤ r → ∀ v ∈ h.elements r, k.Fresh v
  objects : ∀ r, k.objects ≤ r → ∀ e ∈ (h.object r).entries, k.Fresh e.2
  closures : ∀ r, k.closures ≤ r → r < h.closures.size → k.scopes ≤ (h.closure r).scope
  natives : ∀ r, k.natives ≤ r → k.FreshNative (h.native r)
  scopes : ∀ r, k.scopes ≤ r → k.FreshScope (h.scope r)

variable {k}

theorem Fresh.of_plain {v : Value} (plain : v.Plain) : k.Fresh v := by
  cases v with
  | array _ | object _ | closure _ | native _ => exact plain.elim
  | _ => trivial

@[simp] theorem fresh_null : k.Fresh .null := trivial
@[simp] theorem fresh_nothing : k.Fresh .nothing := trivial
@[simp] theorem fresh_number (x : Float) : k.Fresh (.number x) := trivial
@[simp] theorem fresh_string (t : Text) : k.Fresh (.string t) := trivial
@[simp] theorem fresh_boolean (b : Bool) : k.Fresh (.boolean b) := trivial

theorem origin_fresh (v : Value) : origin.Fresh v := by
  cases v with
  | array r | object r | closure r | native r => exact Nat.zero_le r
  | _ => trivial

theorem origin_freshNative (n : Native) : origin.FreshNative n := by
  cases n with
  | constant v => exact origin_fresh v
  | listen handler _ => exact ⟨origin_fresh handler, Nat.zero_le _⟩
  | bound method self => exact ⟨origin_fresh method, origin_fresh self⟩
  | _ => trivial

/-- Everything is allocated since the origin, so every heap is closed from it. -/
theorem origin_closed (h : Heap) : origin.Closed h where
  reached := ⟨Nat.zero_le _, Nat.zero_le _, Nat.zero_le _, Nat.zero_le _, Nat.zero_le _⟩
  arrays _ _ v _ := origin_fresh v
  objects _ _ e _ := origin_fresh e.2
  closures _ _ _ := Nat.zero_le _
  natives r _ := origin_freshNative (h.native r)
  scopes _ _ := ⟨fun _ _ => Nat.zero_le _, fun b _ => origin_fresh b.value, fun _ _ => Nat.zero_le _⟩

end Mark

/-! ## How the heap's operations change its cells -/

section Cells

variable (h : Heap) (r : Nat)

@[simp] theorem elements_allocArray (els : Array Value) :
    (h.allocArray els).2.elements r = if r = h.arrays.size then els else h.elements r := by
  simp only [allocArray, elements, Array.getD_eq_getD_getElem?, Array.getElem?_push]
  split <;> rfl

@[simp] theorem object_allocObject (o : ObjectCell) :
    (h.allocObject o).2.object r = if r = h.objects.size then o else h.object r := by
  simp only [allocObject, object, Array.getD_eq_getD_getElem?, Array.getElem?_push]
  split <;> rfl

@[simp] theorem closure_allocClosure (c : Closure) :
    (h.allocClosure c).2.closure r = if r = h.closures.size then c else h.closure r := by
  simp only [allocClosure, closure, Array.getD_eq_getD_getElem?, Array.getElem?_push]
  split <;> rfl

@[simp] theorem native_allocNative (n : Native) :
    (h.allocNative n).2.native r = if r = h.natives.size then n else h.native r := by
  simp only [allocNative, native, Array.getD_eq_getD_getElem?, Array.getElem?_push]
  split <;> rfl

@[simp] theorem elements_setElements (ref : Nat) (els : Array Value) :
    (h.setElements ref els).elements r =
      if r = ref ∧ ref < h.arrays.size then els else h.elements r := by
  simp only [setElements, elements, Array.getD_eq_getD_getElem?, Array.set!_eq_setIfInBounds,
    Array.getElem?_setIfInBounds]
  by_cases same : ref = r
  · subst same
    by_cases inside : ref < h.arrays.size <;> simp [inside]
  · simp [same, Ne.symm same]

@[simp] theorem object_setObject (ref : Nat) (o : ObjectCell) :
    (h.setObject ref o).object r =
      if r = ref ∧ ref < h.objects.size then o else h.object r := by
  simp only [setObject, object, Array.getD_eq_getD_getElem?, Array.set!_eq_setIfInBounds,
    Array.getElem?_setIfInBounds]
  by_cases same : ref = r
  · subst same
    by_cases inside : ref < h.objects.size <;> simp [inside]
  · simp [same, Ne.symm same]

/-- The scope a table of scopes gives for a reference after one of them is replaced. -/
theorem scope_setScope (scopes : Array Scope) (ref : Nat) (s : Scope) :
    ({ h with scopes := scopes.set! ref s } : Heap).scope r =
      if r = ref ∧ ref < scopes.size then s else ({ h with scopes } : Heap).scope r := by
  simp only [scope, Array.getD_eq_getD_getElem?, Array.set!_eq_setIfInBounds,
    Array.getElem?_setIfInBounds]
  by_cases same : ref = r
  · subst same
    by_cases inside : ref < scopes.size <;> simp [inside]
  · simp [same, Ne.symm same]

theorem scope_allocScope (parent : Option Nat) :
    (h.allocScope parent).2.scope r =
      if r = h.scopes.size then
        ⟨parent, #[], if parent.isSome then none else some h.objects.size⟩
      else h.scope r := by
  cases parent with
  | some p =>
    simp only [allocScope, scope, Array.getD_eq_getD_getElem?, Array.getElem?_push]
    split <;> rfl
  | none =>
    simp only [allocScope, allocObject, scope, Array.getD_eq_getD_getElem?, Array.getElem?_push]
    split <;> rfl

end Cells

/-! ## What the operations keep closed -/

namespace Mark.Closed

variable {k : Mark} {h : Heap}

theorem reached_arrays (closed : k.Closed h) : k.arrays ≤ h.arrays.size := closed.reached.1
theorem reached_objects (closed : k.Closed h) : k.objects ≤ h.objects.size := closed.reached.2.1
theorem reached_closures (closed : k.Closed h) : k.closures ≤ h.closures.size := closed.reached.2.2.1
theorem reached_natives (closed : k.Closed h) : k.natives ≤ h.natives.size := closed.reached.2.2.2.1
theorem reached_scopes (closed : k.Closed h) : k.scopes ≤ h.scopes.size := closed.reached.2.2.2.2

/-- A freshly allocated array is fresh, and the region stays closed when its
elements are fresh. -/
theorem allocArray (closed : k.Closed h) {els : Array Value} (fresh : ∀ v ∈ els, k.Fresh v) :
    k.Fresh (h.allocArray els).1 ∧ k.Closed (h.allocArray els).2 := by
  refine ⟨closed.reached_arrays, ⟨?_, ?_, closed.objects, closed.closures, closed.natives, closed.scopes⟩⟩
  · obtain ⟨arrays, objects, closures, natives, scopes⟩ := closed.reached
    exact ⟨Nat.le_trans arrays (by simp [Heap.allocArray, mark]), objects, closures, natives, scopes⟩
  · intro r since v member
    rw [elements_allocArray] at member
    split at member
    · exact fresh v member
    · exact closed.arrays r since v member

theorem allocObject (closed : k.Closed h) {o : ObjectCell} (fresh : ∀ e ∈ o.entries, k.Fresh e.2) :
    k.Fresh (h.allocObject o).1 ∧ k.Closed (h.allocObject o).2 := by
  refine ⟨closed.reached_objects, ⟨?_, closed.arrays, ?_, closed.closures, closed.natives, closed.scopes⟩⟩
  · obtain ⟨arrays, objects, closures, natives, scopes⟩ := closed.reached
    exact ⟨arrays, Nat.le_trans objects (by simp [Heap.allocObject, mark]), closures, natives, scopes⟩
  · intro r since e member
    rw [object_allocObject] at member
    split at member
    · exact fresh e member
    · exact closed.objects r since e member

theorem allocNative (closed : k.Closed h) {n : Native} (fresh : k.FreshNative n) :
    k.Fresh (h.allocNative n).1 ∧ k.Closed (h.allocNative n).2 := by
  refine ⟨closed.reached_natives, ⟨?_, closed.arrays, closed.objects, closed.closures, ?_, closed.scopes⟩⟩
  · obtain ⟨arrays, objects, closures, natives, scopes⟩ := closed.reached
    exact ⟨arrays, objects, closures, Nat.le_trans natives (by simp [Heap.allocNative, mark]), scopes⟩
  · intro r since
    rw [native_allocNative]
    split
    · exact fresh
    · exact closed.natives r since

theorem allocClosure (closed : k.Closed h) {c : Closure} (fresh : k.scopes ≤ c.scope) :
    k.Fresh (h.allocClosure c).1 ∧ k.Closed (h.allocClosure c).2 := by
  refine ⟨closed.reached_closures, ⟨?_, closed.arrays, closed.objects, ?_, closed.natives, closed.scopes⟩⟩
  · obtain ⟨arrays, objects, closures, natives, scopes⟩ := closed.reached
    exact ⟨arrays, objects, Nat.le_trans closures (by simp [Heap.allocClosure, mark]), natives, scopes⟩
  · intro r since inside
    rw [closure_allocClosure]
    split
    · exact fresh
    · rename_i other
      have grown : r < h.closures.size + 1 := by simpa [Heap.allocClosure] using inside
      exact closed.closures r since (by omega)

/-- Replacing the elements of an array keeps the region closed when the
array is older than the mark or the new elements are fresh. -/
theorem setElements (closed : k.Closed h) {ref : Nat} {els : Array Value}
    (fresh : k.arrays ≤ ref → ∀ v ∈ els, k.Fresh v) : k.Closed (h.setElements ref els) := by
  refine ⟨?_, ?_, closed.objects, closed.closures, closed.natives, closed.scopes⟩
  · simpa [Heap.setElements, mark] using closed.reached
  · intro r since v member
    rw [elements_setElements] at member
    split at member
    · rename_i target
      exact fresh (target.1 ▸ since) v member
    · exact closed.arrays r since v member

end Mark.Closed

end Heap

/-! ## What a call of the library changes -/

/-- What a call of the library may change between two machines: it appends
to the tables of objects and natives and changes arrays, and it leaves the
scopes, the closures, the objects and natives already allocated, the import
stack and the dialects as they are. -/
structure Machine.LibraryEffect (m m' : Machine) : Prop where
  scopes : m'.heap.scopes = m.heap.scopes
  closures : m'.heap.closures = m.heap.closures
  objects_size : m.heap.objects.size ≤ m'.heap.objects.size
  objects : ∀ r, r < m.heap.objects.size → m'.heap.object r = m.heap.object r
  natives_size : m.heap.natives.size ≤ m'.heap.natives.size
  natives : ∀ r, r < m.heap.natives.size → m'.heap.native r = m.heap.native r
  arrays_size : m.heap.arrays.size ≤ m'.heap.arrays.size
  importing : m'.importing = m.importing
  registry : m'.registry = m.registry
  dialect : m'.dialect = m.dialect
  builtin : m'.builtin = m.builtin

namespace Machine.LibraryEffect

variable {m m₁ m₂ : Machine}

@[refl] theorem refl (m : Machine) : m.LibraryEffect m :=
  ⟨rfl, rfl, le_rfl, fun _ _ => rfl, le_rfl, fun _ _ => rfl, le_rfl, rfl, rfl, rfl, rfl⟩

@[trans] theorem trans (first : m.LibraryEffect m₁) (second : m₁.LibraryEffect m₂) :
    m.LibraryEffect m₂ where
  scopes := second.scopes.trans first.scopes
  closures := second.closures.trans first.closures
  objects_size := first.objects_size.trans second.objects_size
  objects r inside := (second.objects r (lt_of_lt_of_le inside first.objects_size)).trans
    (first.objects r inside)
  natives_size := first.natives_size.trans second.natives_size
  natives r inside := (second.natives r (lt_of_lt_of_le inside first.natives_size)).trans
    (first.natives r inside)
  arrays_size := first.arrays_size.trans second.arrays_size
  importing := second.importing.trans first.importing
  registry := second.registry.trans first.registry
  dialect := second.dialect.trans first.dialect
  builtin := second.builtin.trans first.builtin

/-- A change outside the heap, the import stack and the dialects is a library effect. -/
theorem of_heap (heap : m₁.heap = m.heap) (importing : m₁.importing = m.importing)
    (registry : m₁.registry = m.registry) (dialect : m₁.dialect = m.dialect)
    (builtin : m₁.builtin = m.builtin) : m.LibraryEffect m₁ where
  scopes := by rw [heap]
  closures := by rw [heap]
  objects_size := by rw [heap]
  objects _ _ := by rw [heap]
  natives_size := by rw [heap]
  natives _ _ := by rw [heap]
  arrays_size := by rw [heap]
  importing := importing
  registry := registry
  dialect := dialect
  builtin := builtin

theorem allocArray (m : Machine) (els : Array Value) :
    m.LibraryEffect { m with heap := (m.heap.allocArray els).2 } where
  scopes := rfl
  closures := rfl
  objects_size := le_rfl
  objects _ _ := rfl
  natives_size := le_rfl
  natives _ _ := rfl
  arrays_size := by simp [Heap.allocArray]
  importing := rfl
  registry := rfl
  dialect := rfl
  builtin := rfl

theorem allocObject (m : Machine) (o : ObjectCell) :
    m.LibraryEffect { m with heap := (m.heap.allocObject o).2 } where
  scopes := rfl
  closures := rfl
  objects_size := by simp [Heap.allocObject]
  objects r inside := by simp [Nat.ne_of_lt inside]
  natives_size := le_rfl
  natives _ _ := rfl
  arrays_size := le_rfl
  importing := rfl
  registry := rfl
  dialect := rfl
  builtin := rfl

theorem allocNative (m : Machine) (n : Native) :
    m.LibraryEffect { m with heap := (m.heap.allocNative n).2 } where
  scopes := rfl
  closures := rfl
  objects_size := le_rfl
  objects _ _ := rfl
  natives_size := by simp [Heap.allocNative]
  natives r inside := by simp [Nat.ne_of_lt inside]
  arrays_size := le_rfl
  importing := rfl
  registry := rfl
  dialect := rfl
  builtin := rfl

theorem setElements (m : Machine) (ref : Nat) (els : Array Value) :
    m.LibraryEffect { m with heap := m.heap.setElements ref els } where
  scopes := rfl
  closures := rfl
  objects_size := le_rfl
  objects _ _ := rfl
  natives_size := le_rfl
  natives _ _ := rfl
  arrays_size := by simp [Heap.setElements]
  importing := rfl
  registry := rfl
  dialect := rfl
  builtin := rfl

end Machine.LibraryEffect

end Vernacular
