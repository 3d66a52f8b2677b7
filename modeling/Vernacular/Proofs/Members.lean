import Mathlib
import Vernacular.Proofs.ScopeStore
/-!
# Reading and writing members

Arrays and objects are the containers of the heap. A write of a key into a
container and a read of the same key agree: what was written is read back,
from any scope. An array write at an index keeps every other element and
grows the array with `null` up to the index; an object write replaces the
value under its key in place, or appends the key when the object lacks it,
and keeps every other entry. A write that fails (no container, a frozen
object, a key that is no index of an array or no name of an object) leaves
the machine as it was, and a read of a container at a number never fails:
a number that is no index, or an index past the end, reads as `null`.
-/

set_option autoImplicit false

namespace Vernacular

/-! ## Objects -/

namespace ObjectCell

variable (o : ObjectCell) (key : Text) (v : Value)

theorem find?_of_findIdx?_none (missing : o.entries.findIdx? (·.1 == key) = none) :
    o.entries.find? (·.1 == key) = none := by
  rw [Array.findIdx?_eq_none_iff] at missing
  exact Array.find?_eq_none.mpr fun e member => by simp [missing e member]

/-- A key written is read back. -/
@[simp] theorem get?_set_self : (o.set key v).get? key = some v := by
  unfold set get?
  split
  case h_1 i first => rw [Array.find?_set!_of_findIdx? first (by simp)]; rfl
  case h_2 missing =>
    simp only [Array.find?_push]
    rw [find?_of_findIdx?_none o key missing]
    simp

/-- Writing a key leaves the entries under every other key. -/
theorem get?_set_of_ne {other : Text} (different : other ≠ key) : (o.set key v).get? other = o.get? other := by
  unfold set get?
  split
  case h_1 i first =>
    -- the entry rewritten holds `key`, which the search for `other` passes over
    obtain ⟨inside, named, -⟩ := Array.findIdx?_eq_some_iff_getElem.mp first
    have written : ((key, v).1 == other) = false := by simpa using Ne.symm different
    simp only [← Array.find?_toList, Array.set!_eq_setIfInBounds, Array.toList_setIfInBounds]
    rw [@List.find?_set_of_not _ (fun e : Text × Value => e.1 == other) (key, v) written]
    intro y member
    simp only [Array.getElem?_toList, Array.getElem?_eq_getElem inside, Option.mem_def,
      Option.some.injEq] at member
    subst member
    have : o.entries[i].1 = key := by simpa using named
    simp [this, Ne.symm different]
  case h_2 missing =>
    simp only [Array.find?_push]
    have skipped : ((key, v).1 == other) = false := by simpa using Ne.symm different
    simp [skipped]

/-- A key is among an object's keys exactly when a search finds its entry. -/
theorem mem_keys_iff : key ∈ o.keys ↔ (o.entries.findIdx? (·.1 == key)).isSome := by
  rw [keys, Array.findIdx?_isSome, Array.any_eq_true, List.mem_map]
  constructor
  · rintro ⟨e, member, rfl⟩
    obtain ⟨i, inside, rfl⟩ := Array.mem_iff_getElem.mp (Array.mem_toList_iff.mp member)
    exact ⟨i, inside, by simp⟩
  · rintro ⟨i, inside, named⟩
    exact ⟨o.entries[i], Array.mem_toList_iff.mpr (Array.getElem_mem inside), by simpa using named⟩

/-- A written key keeps its place among the keys, or is appended when new. -/
theorem keys_set : (o.set key v).keys = if key ∈ o.keys then o.keys else o.keys ++ [key] := by
  unfold set
  split
  case h_1 i first =>
    obtain ⟨inside, named, -⟩ := Array.findIdx?_eq_some_iff_getElem.mp first
    have present : key ∈ o.keys := (mem_keys_iff o key).mpr (by simp [first])
    have same : o.entries[i].1 = key := by simpa using named
    rw [if_pos present]
    simp only [keys, Array.set!_eq_setIfInBounds, Array.toList_setIfInBounds, List.map_set]
    apply List.ext_getElem (by simp)
    intro j _ _
    rw [List.getElem_set]
    split <;> simp_all
  case h_2 missing =>
    have absent : key ∉ o.keys := by simp [mem_keys_iff, missing]
    rw [if_neg absent]
    simp [keys]

@[simp] theorem frozen_set : (o.set key v).frozen = o.frozen := set_frozen o key v

end ObjectCell

/-! ## Arrays -/

/-- The elements of an array after a write of `v` at `i`: the array grown with
`null` up to `i` when it is shorter, then `v` at `i`. -/
theorem getElem?_grow_set! (els : Array Value) (i j : Nat) (v : Value) :
    ((if els.size ≤ i then els ++ Array.replicate (i + 1 - els.size) .null else els).set! i v)[j]? =
      if j = i then some v else if j < els.size then els[j]? else if j < i then some .null else none := by
  split
  case isTrue short =>
    rw [Array.set!_eq_setIfInBounds, Array.getElem?_setIfInBounds]
    by_cases same : i = j
    · subst same
      simp
      omega
    · rw [if_neg same, if_neg (Ne.symm same), Array.getElem?_append]
      split
      · rfl
      · rw [Array.getElem?_replicate]
        split <;> split <;> first | rfl | omega
  case isFalse long =>
    rw [Array.set!_eq_setIfInBounds, Array.getElem?_setIfInBounds]
    by_cases same : i = j
    · subst same
      simp
      omega
    · rw [if_neg same, if_neg (Ne.symm same)]
      split
      · rfl
      · rw [Array.getElem?_eq_none (by omega)]
        split <;> first | rfl | omega

theorem size_grow_set! (els : Array Value) (i : Nat) (v : Value) :
    ((if els.size ≤ i then els ++ Array.replicate (i + 1 - els.size) .null else els).set! i v).size =
      max els.size (i + 1) := by
  split <;> simp <;> omega

namespace Heap

/-- A value names a container the heap has allocated, or no container. -/
def Allocated (h : Heap) : Value → Prop
  | .array ref => ref < h.arrays.size
  | .object ref => ref < h.objects.size
  | _ => True

/-- Whether a write of a key into a value can succeed: into an object that is
not frozen at a string or number key, or into an array at an index. -/
def Accepts (h : Heap) : Value → Value → Prop
  | .object ref, key => (h.object ref).frozen = false ∧ (Eval.propertyName? key).isSome
  | .array _, key => key.index?.isSome
  | _, _ => False

@[simp] theorem elements_setElements_self {h : Heap} {ref : Nat} (inside : ref < h.arrays.size)
    (els : Array Value) : (h.setElements ref els).elements ref = els := by
  simp [inside]

@[simp] theorem object_objectSet_self {h : Heap} {ref : Nat} (inside : ref < h.objects.size)
    (key : Text) (v : Value) : (h.objectSet ref key v).object ref = (h.object ref).set key v := by
  simp [objectSet, inside]

end Heap

/-! ## The reads and the writes as runs -/

namespace Eval

variable (m : Machine) (v : Value)

theorem getProperty_array_run (scope ref : Nat) {key : Value} {i : Nat} (indexed : key.index? = some i) :
    (getProperty scope (.array ref) key).run m = .ok ((m.heap.elements ref).getD i .null) m := by
  simp [getProperty, indexed, heap]

theorem getProperty_array_number_run (scope ref : Nat) (x : Float) :
    (getProperty scope (.array ref) (.number x)).run m =
      .ok (((Value.number x).index?.bind fun i => (m.heap.elements ref)[i]?).getD .null) m := by
  cases indexed : (Value.number x).index? with
  | some i =>
    rw [getProperty_array_run m scope ref indexed]
    simp [Array.getD_eq_getD_getElem?]
  | none => simp [getProperty, indexed, method]

theorem getProperty_object_run (scope ref : Nat) {key : Value} {name : Text}
    (named : propertyName? key = some name) :
    (getProperty scope (.object ref) key).run m = .ok (((m.heap.object ref).get? name).getD .null) m := by
  simp [getProperty, named, heap]

theorem setProperty_array_run (ref : Nat) {key : Value} {i : Nat} (indexed : key.index? = some i) :
    (setProperty (.array ref) key v).run m =
      .ok () { m with
        heap := m.heap.setElements ref
                  ((if (m.heap.elements ref).size ≤ i then
                      m.heap.elements ref ++ Array.replicate (i + 1 - (m.heap.elements ref).size) .null
                    else m.heap.elements ref).set! i v) } := by
  simp [setProperty, indexed, heap, updateHeap]

theorem setProperty_object_run (ref : Nat) {key : Value} {name : Text}
    (writable : (m.heap.object ref).frozen = false) (named : propertyName? key = some name) :
    (setProperty (.object ref) key v).run m = .ok () { m with heap := m.heap.objectSet ref name v } := by
  simp [setProperty, writable, named, heap, updateHeap]

/-- A write that is refused throws with the machine as it was. -/
theorem setProperty_refused {obj key : Value} (refused : ¬ m.heap.Accepts obj key) :
    ∃ sig, (setProperty obj key v).run m = .error sig m := by
  cases obj with
  | object ref =>
    by_cases frozen : (m.heap.object ref).frozen = true
    · simp [setProperty, frozen, heap, text]
    · have unnamed : propertyName? key = none := by
        simp only [Heap.Accepts, Bool.not_eq_true] at refused frozen
        simpa [frozen] using refused
      simp [setProperty, frozen, unnamed, heap, describe]
  | array ref =>
    have unindexed : key.index? = none := by simpa [Heap.Accepts] using refused
    simp [setProperty, unindexed, heap, describe]
  | null | nothing => simp [setProperty, heap, text]
  | _ => simp [setProperty, heap, text, describe]

end Eval

/-! ## The laws -/

open Eval

/-- The laws of reading and writing one key of one value. -/
structure MemberLaws (m : Machine) (obj key v : Value) : Prop where
  /-- A write succeeds exactly when the value is a container that accepts the
  key, and a write that fails leaves the machine as it was. -/
  accepts : (∃ m', (setProperty obj key v).run m = .ok () m') ↔ m.heap.Accepts obj key
  failed : ∀ sig m', (setProperty obj key v).run m = .error sig m' → m' = m
  /-- What a write wrote is read back, from any scope. -/
  readBack : ∀ m', (setProperty obj key v).run m = .ok () m' →
    ∀ scope, (getProperty scope obj key).run m' = .ok v m'
  /-- An array written at an index keeps every other element, grows to cover
  the index with `null` in the gap, and nothing else changes. -/
  array : ∀ ref i, obj = .array ref → key.index? = some i → ∀ m', (setProperty obj key v).run m = .ok () m' →
    m' = { m with heap := m.heap.setElements ref (m'.heap.elements ref) } ∧
    (m'.heap.elements ref).size = max (m.heap.elements ref).size (i + 1) ∧
    (m'.heap.elements ref)[i]? = some v ∧
    (∀ j, j ≠ i → j < (m.heap.elements ref).size → (m'.heap.elements ref)[j]? = (m.heap.elements ref)[j]?) ∧
    (∀ j, (m.heap.elements ref).size ≤ j → j < i → (m'.heap.elements ref)[j]? = some .null)
  /-- An object written under a name keeps the entries under every other
  name, and its keys gain the name at the end exactly when it lacked it. -/
  object : ∀ ref name, obj = .object ref → propertyName? key = some name →
    ∀ m', (setProperty obj key v).run m = .ok () m' →
    m' = { m with heap := m.heap.setObject ref (m'.heap.object ref) } ∧
    (∀ other, other ≠ name → (m'.heap.object ref).get? other = (m.heap.object ref).get? other) ∧
    (m'.heap.object ref).keys =
      (if name ∈ (m.heap.object ref).keys then (m.heap.object ref).keys else (m.heap.object ref).keys ++ [name])
  /-- A read of an array or an object at a number never fails: an array reads
  `null` at a number that is no index or at an index past its end. -/
  numberRead : ∀ scope x, match obj with
    | .array ref => (getProperty scope obj (.number x)).run m =
        .ok (((Value.number x).index?.bind fun i => (m.heap.elements ref)[i]?).getD .null) m
    | .object ref => (getProperty scope obj (.number x)).run m =
        .ok (((m.heap.object ref).get? (Value.numberText x)).getD .null) m
    | _ => True

/-- Reads and writes of every key of every value obey the laws of a
container, in every machine that has allocated the container. -/
theorem members_obey_container_laws (m : Machine) (obj key v : Value) (allocated : m.heap.Allocated obj) :
    MemberLaws m obj key v where
  accepts := by
    constructor
    · rintro ⟨m', ran⟩
      by_contra refused
      obtain ⟨sig, failed⟩ := setProperty_refused m v refused
      rw [failed] at ran
      cases ran
    · intro accepted
      cases obj with
      | array ref =>
        obtain ⟨i, indexed⟩ := Option.isSome_iff_exists.mp accepted
        exact ⟨_, setProperty_array_run m v ref indexed⟩
      | object ref =>
        obtain ⟨writable, named⟩ := accepted
        obtain ⟨name, named⟩ := Option.isSome_iff_exists.mp named
        exact ⟨_, setProperty_object_run m v ref writable named⟩
      | _ => exact accepted.elim
  failed sig m' ran := by
    by_cases accepted : m.heap.Accepts obj key
    case neg =>
      obtain ⟨sig', refused⟩ := setProperty_refused m v accepted
      rw [refused] at ran
      cases ran
      rfl
    case pos =>
      cases obj with
      | array ref =>
        obtain ⟨i, indexed⟩ := Option.isSome_iff_exists.mp accepted
        rw [setProperty_array_run m v ref indexed] at ran
        cases ran
      | object ref =>
        obtain ⟨writable, named⟩ := accepted
        obtain ⟨name, named⟩ := Option.isSome_iff_exists.mp named
        rw [setProperty_object_run m v ref writable named] at ran
        cases ran
      | _ => exact accepted.elim
  readBack m' ran scope := by
    by_cases accepted : m.heap.Accepts obj key
    case neg =>
      obtain ⟨sig, refused⟩ := setProperty_refused m v accepted
      rw [refused] at ran
      cases ran
    case pos =>
      cases obj with
      | array ref =>
        obtain ⟨i, indexed⟩ := Option.isSome_iff_exists.mp accepted
        rw [setProperty_array_run m v ref indexed] at ran
        cases ran
        rw [getProperty_array_run _ scope ref indexed, Heap.elements_setElements_self allocated,
          Array.getD_eq_getD_getElem?, getElem?_grow_set!, if_pos rfl]
        rfl
      | object ref =>
        obtain ⟨writable, named⟩ := accepted
        obtain ⟨name, named⟩ := Option.isSome_iff_exists.mp named
        rw [setProperty_object_run m v ref writable named] at ran
        cases ran
        rw [getProperty_object_run _ scope ref named, Heap.object_objectSet_self allocated,
          ObjectCell.get?_set_self]
        rfl
      | _ => exact accepted.elim
  array ref i isArray indexed m' ran := by
    subst isArray
    rw [setProperty_array_run m v ref indexed] at ran
    cases ran
    rw [Heap.elements_setElements_self allocated]
    refine ⟨rfl, size_grow_set! _ i v, by rw [getElem?_grow_set!, if_pos rfl], ?_, ?_⟩
    · intro j other inside
      rw [getElem?_grow_set!, if_neg other, if_pos inside]
    · intro j beyond below
      rw [getElem?_grow_set!, if_neg (by omega), if_neg (by omega), if_pos below]
  object ref name isObject named m' ran := by
    subst isObject
    by_cases writable : (m.heap.object ref).frozen = false
    case neg =>
      obtain ⟨sig, refused⟩ := @setProperty_refused m v (.object ref) key (by simp [Heap.Accepts, writable])
      rw [refused] at ran
      cases ran
    case pos =>
      rw [setProperty_object_run m v ref writable named] at ran
      cases ran
      simp only [Heap.object_objectSet_self allocated]
      exact ⟨rfl, fun other different => ObjectCell.get?_set_of_ne _ _ _ different, ObjectCell.keys_set _ _ _⟩
  numberRead scope x := by
    cases obj with
    | array ref => exact getProperty_array_number_run m scope ref x
    | object ref => exact getProperty_object_run m scope ref rfl
    | _ => trivial

/-- The empty object of a heap that holds nothing else is allocated, so its
members obey the laws. -/
theorem empty_object_obeys_container_laws :
    let m : Machine := { (default : Machine) with heap := (Heap.empty.allocObject .empty).2 }
    m.heap.Allocated (.object 0) ∧ MemberLaws m (.object 0) (.string (Text.ofString "k")) .null :=
  have allocated : (Heap.empty.allocObject .empty).2.Allocated (.object 0) := by
    simp [Heap.Allocated, Heap.allocObject, Heap.empty]
  ⟨allocated, members_obey_container_laws _ _ _ _ allocated⟩

end Vernacular
