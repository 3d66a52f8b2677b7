import Mathlib
import Vernacular.Proofs.LibraryCalls
import Vernacular.Proofs.Immutable
/-!
# Values a script can hold

A reference in a value names a cell of one of the heap's tables. In a heap
that evaluation builds, every reference a value holds names a cell that is
allocated, and no value names the object in which a root scope keeps its
exports: an `export` statement writes that table and an import copies it, but
it is never handed to a script. `Heap.Holdable h v` says this of one value,
and `Heap.Tidy h` says it of every value the heap stores, together with the
tables of exports being allocated objects, one per scope that has one.

`Heap.Grows h h'` says that `h'` was reached from `h` by allocation: no table
is shorter and every new table of exports is a new object. A value holdable in
`h` is holdable in every heap that grows from it.

A native function keeps the heap tidy and, called with holdable arguments,
answers a holdable value (`Library.invoke_keepsTidy`): it stores and returns
only what it was given, what it read from the heap and cells it allocated.
-/

set_option autoImplicit false
set_option mvcgen.warning false

open Std.Do

namespace Vernacular

/-- An entry of an object after a write is an entry it had or the one written. -/
theorem ObjectCell.mem_set {o : ObjectCell} {key : Text} {v : Value} {e : Text × Value}
    (member : e ∈ (o.set key v).entries) : e ∈ o.entries ∨ e = (key, v) := by
  unfold ObjectCell.set at member
  split at member
  · simp only [Array.set!_eq_setIfInBounds] at member
    exact Array.mem_or_eq_of_mem_setIfInBounds member
  · exact Array.mem_push.mp member

namespace Heap

/-- Some scope keeps its exports in object `ref`. -/
def IsExports (h : Heap) (ref : Nat) : Prop := ∃ s, (h.scope s).exports = some ref

/-- A value a script can hold: every cell it names is allocated, and it names
no table of exports. -/
def Holdable (h : Heap) : Value → Prop
  | .array r => r < h.arrays.size
  | .object r => r < h.objects.size ∧ ¬ h.IsExports r
  | .closure r => r < h.closures.size
  | .native r => r < h.natives.size
  | _ => True

/-- The values a native function carries are holdable. -/
def HoldableNative (h : Heap) : Native → Prop
  | .constant v => h.Holdable v
  | .listen handler _ => h.Holdable handler
  | .bound method self => h.Holdable method ∧ h.Holdable self
  | _ => True

/-- Every value the heap stores is holdable, and each table of exports is an
allocated object that belongs to one scope only. -/
structure Tidy (h : Heap) : Prop where
  elements : ∀ r, ∀ v ∈ h.elements r, h.Holdable v
  entries : ∀ r, ∀ e ∈ (h.object r).entries, h.Holdable e.2
  natives : ∀ r, h.HoldableNative (h.native r)
  bindings : ∀ r, ∀ b ∈ (h.scope r).bindings, h.Holdable b.value
  exports : ∀ s r, (h.scope s).exports = some r → r < h.objects.size
  oneTable : ∀ s s' r, (h.scope s).exports = some r → (h.scope s').exports = some r → s = s'

/-- `h'` is reached from `h` by allocation: no table is shorter, and every table
of exports of `h'` is one of `h` or an object allocated since. -/
structure Grows (h h' : Heap) : Prop where
  mark : h.mark ≤ h'.mark
  exports : ∀ s r, (h'.scope s).exports = some r → (h.scope s).exports = some r ∨ h.objects.size ≤ r

namespace Mark

theorem reaches_refl (k : Mark) : k ≤ k := ⟨le_rfl, le_rfl, le_rfl, le_rfl, le_rfl⟩

theorem reaches_trans {k l n : Mark} (first : k ≤ l) (second : l ≤ n) : k ≤ n :=
  ⟨first.1.trans second.1, first.2.1.trans second.2.1, first.2.2.1.trans second.2.2.1,
    first.2.2.2.1.trans second.2.2.2.1, first.2.2.2.2.trans second.2.2.2.2⟩

end Mark

/-! ## Growing heaps -/

namespace Grows

variable {h h' h'' : Heap}

@[refl, grind .] theorem refl (h : Heap) : h.Grows h := ⟨Mark.reaches_refl _, fun _ _ table => .inl table⟩

@[grind →] theorem trans (first : h.Grows h') (second : h'.Grows h'') : h.Grows h'' where
  mark := Mark.reaches_trans first.mark second.mark
  exports s r table := by
    rcases second.exports s r table with older | fresh
    · exact first.exports s r older
    · exact .inr (le_trans first.mark.2.1 fresh)

/-- A step that leaves the scopes' tables of exports as they are and shortens no table. -/
theorem of_exports (mark : h.mark ≤ h'.mark) (same : ∀ s, (h'.scope s).exports = (h.scope s).exports) :
    h.Grows h' :=
  ⟨mark, fun s _ table => .inl (same s ▸ table)⟩

end Grows

variable {h h' : Heap}

theorem Holdable.grow {v : Value} (held : h.Holdable v) (grows : h.Grows h') : h'.Holdable v := by
  obtain ⟨⟨arrays, objects, closures, natives, -⟩, exports⟩ := grows
  cases v with
  | array r => exact lt_of_lt_of_le held arrays
  | object r =>
    obtain ⟨inside, unshared⟩ := held
    refine ⟨lt_of_lt_of_le inside objects, ?_⟩
    rintro ⟨s, table⟩
    rcases exports s r table with older | fresh
    · exact unshared ⟨s, older⟩
    · exact absurd fresh (Nat.not_le.mpr inside)
  | closure r => exact lt_of_lt_of_le held closures
  | native r => exact lt_of_lt_of_le held natives
  | _ => trivial

theorem HoldableNative.grow {n : Native} (held : h.HoldableNative n) (grows : h.Grows h') :
    h'.HoldableNative n := by
  cases n with
  | constant v => exact Holdable.grow held grows
  | listen handler _ => exact Holdable.grow held grows
  | bound method self => exact ⟨held.1.grow grows, held.2.grow grows⟩
  | _ => trivial

/-! ## What each operation of the heap keeps -/

section Operations

variable (h) (r : Nat)

theorem grows_allocArray (els : Array Value) : h.Grows (h.allocArray els).2 :=
  .of_exports ⟨by simp [allocArray, mark], le_rfl, le_rfl, le_rfl, le_rfl⟩ fun _ => rfl

theorem grows_allocObject (o : ObjectCell) : h.Grows (h.allocObject o).2 :=
  .of_exports ⟨le_rfl, by simp [allocObject, mark], le_rfl, le_rfl, le_rfl⟩ fun _ => rfl

theorem grows_allocClosure (c : Closure) : h.Grows (h.allocClosure c).2 :=
  .of_exports ⟨le_rfl, le_rfl, by simp [allocClosure, mark], le_rfl, le_rfl⟩ fun _ => rfl

theorem grows_allocNative (n : Native) : h.Grows (h.allocNative n).2 :=
  .of_exports ⟨le_rfl, le_rfl, le_rfl, by simp [allocNative, mark], le_rfl⟩ fun _ => rfl

theorem grows_setElements (ref : Nat) (els : Array Value) : h.Grows (h.setElements ref els) :=
  .of_exports ⟨by simp [setElements, mark], le_rfl, le_rfl, le_rfl, le_rfl⟩ fun _ => rfl

theorem grows_objectSet (ref : Nat) (key : Text) (v : Value) : h.Grows (h.objectSet ref key v) :=
  .of_exports ⟨le_rfl, by simp [objectSet, setObject, mark], le_rfl, le_rfl, le_rfl⟩ fun _ => rfl

/-- A new scope is past every scope, and the table of a new root is a new object. -/
theorem grows_allocScope (parent : Option Nat) : h.Grows (h.allocScope parent).2 := by
  refine ⟨?_, fun s t table => ?_⟩
  · cases parent <;> exact ⟨le_rfl, by simp [allocScope, allocObject, mark], le_rfl, le_rfl,
      by simp [allocScope, allocObject, mark]⟩
  · rw [scope_allocScope] at table
    split at table
    · cases parent <;> simp_all
    · exact .inl table

/-- The scopes with the bindings of one scope replaced. -/
def withBindings (ref : Nat) (bindings : Array Binding) : Heap :=
  { h with scopes := h.scopes.set! ref { h.scope ref with bindings } }

theorem scope_withBindings (ref : Nat) (bindings : Array Binding) :
    (h.withBindings ref bindings).scope r =
      if r = ref ∧ ref < h.scopes.size then { h.scope ref with bindings } else h.scope r :=
  scope_setScope h r h.scopes ref _

theorem grows_withBindings (ref : Nat) (bindings : Array Binding) : h.Grows (h.withBindings ref bindings) := by
  refine .of_exports ⟨le_rfl, le_rfl, le_rfl, le_rfl, by simp [withBindings, mark]⟩ fun s => ?_
  rw [scope_withBindings]
  split
  · rename_i same
    rw [same.1]
  · rfl

/-- A declaration rebinds the scope it declares in. -/
theorem declare_eq_withBindings {ref : Nat} {name : String} {v : Value} {constant : Bool}
    (ran : h.declare ref name v constant = .ok h') :
    h' = h.withBindings ref ((h.scope ref).bindings.push ⟨name, v, constant⟩) := by
  unfold declare at ran
  dsimp only at ran
  split at ran
  · cases ran
  · cases ran
    rfl

/-- An assignment rebinds the scope that owns the name. -/
theorem assign_eq_withBindings {ref : Nat} {name : String} {v : Value} (ran : h.assign ref name v = .ok h') :
    ∃ owner i b, h.owner? ref name = some owner ∧ b ∈ (h.scope owner).bindings ∧
      h' = h.withBindings owner ((h.scope owner).bindings.set! i { b with value := v }) := by
  unfold assign at ran
  split at ran
  · cases ran
  · rename_i owner owned
    dsimp only at ran
    split at ran
    · cases ran
    · rename_i i found
      split at ran
      · cases ran
      · cases ran
        refine ⟨owner, i, _, owned, ?_, rfl⟩
        have inside := Array.findIdx?_eq_some_iff_getElem.mp found
        obtain ⟨bound, -⟩ := inside
        simp [Array.getD_eq_getD_getElem?, Array.getElem?_eq_getElem bound]

theorem install_eq_withBindings (ref : Nat) (name : String) (v : Value) :
    h.install ref name v = h.withBindings ref (match (h.scope ref).bindings.findIdx? (·.name == name) with
      | some i => (h.scope ref).bindings.set! i ⟨name, v, true⟩
      | none => (h.scope ref).bindings.push ⟨name, v, true⟩) := rfl

end Operations

/-! ## What each operation keeps tidy -/

namespace Tidy

/-- A heap that grows from a tidy one, and whose cells are old cells or hold
holdable values, is tidy when it keeps the tables of exports. -/
theorem transfer (tidy : h.Tidy) (grows : h.Grows h')
    (elements : ∀ r, ∀ v ∈ h'.elements r, v ∈ h.elements r ∨ h'.Holdable v)
    (entries : ∀ r, ∀ e ∈ (h'.object r).entries, e ∈ (h.object r).entries ∨ h'.Holdable e.2)
    (natives : ∀ r, h'.native r = h.native r ∨ h'.HoldableNative (h'.native r))
    (bindings : ∀ r, ∀ b ∈ (h'.scope r).bindings, b ∈ (h.scope r).bindings ∨ h'.Holdable b.value)
    (tables : ∀ s, (h'.scope s).exports = (h.scope s).exports) : h'.Tidy where
  elements r v member := (elements r v member).elim (fun old => (tidy.elements r v old).grow grows) id
  entries r e member := (entries r e member).elim (fun old => (tidy.entries r e old).grow grows) id
  natives r := (natives r).elim (fun same => same ▸ (tidy.natives r).grow grows) id
  bindings r b member := (bindings r b member).elim (fun old => (tidy.bindings r b old).grow grows) id
  exports s t table := lt_of_lt_of_le (tidy.exports s t (tables s ▸ table)) grows.mark.2.1
  oneTable s s' t first second := tidy.oneTable s s' t (tables s ▸ first) (tables s' ▸ second)

theorem allocArray (tidy : h.Tidy) {els : Array Value} (held : ∀ v ∈ els, h.Holdable v) :
    (h.allocArray els).2.Tidy := by
  have grows := grows_allocArray h els
  refine tidy.transfer grows (fun r v member => ?_) (fun _ _ => .inl) (fun _ => .inl rfl)
    (fun _ _ => .inl) fun _ => rfl
  rw [elements_allocArray] at member
  split at member
  · exact .inr ((held v member).grow grows)
  · exact .inl member

theorem allocObject (tidy : h.Tidy) {o : ObjectCell} (held : ∀ e ∈ o.entries, h.Holdable e.2) :
    (h.allocObject o).2.Tidy := by
  have grows := grows_allocObject h o
  refine tidy.transfer grows (fun _ _ => .inl) (fun r e member => ?_) (fun _ => .inl rfl)
    (fun _ _ => .inl) fun _ => rfl
  rw [object_allocObject] at member
  split at member
  · exact .inr ((held e member).grow grows)
  · exact .inl member

theorem allocNative (tidy : h.Tidy) {n : Native} (held : h.HoldableNative n) :
    (h.allocNative n).2.Tidy := by
  have grows := grows_allocNative h n
  refine tidy.transfer grows (fun _ _ => .inl) (fun _ _ => .inl) (fun r => ?_) (fun _ _ => .inl) fun _ => rfl
  rw [native_allocNative]
  split
  · exact .inr (held.grow grows)
  · exact .inl rfl

theorem allocClosure (tidy : h.Tidy) (c : Closure) : (h.allocClosure c).2.Tidy :=
  tidy.transfer (grows_allocClosure h c) (fun _ _ => .inl) (fun _ _ => .inl) (fun _ => .inl rfl)
    (fun _ _ => .inl) fun _ => rfl

theorem setElements (tidy : h.Tidy) (ref : Nat) {els : Array Value} (held : ∀ v ∈ els, h.Holdable v) :
    (h.setElements ref els).Tidy := by
  have grows := grows_setElements h ref els
  refine tidy.transfer grows (fun r v member => ?_) (fun _ _ => .inl) (fun _ => .inl rfl)
    (fun _ _ => .inl) fun _ => rfl
  rw [elements_setElements] at member
  split at member
  · exact .inr ((held v member).grow grows)
  · exact .inl member

theorem objectSet (tidy : h.Tidy) (ref : Nat) (key : Text) {v : Value} (held : h.Holdable v) :
    (h.objectSet ref key v).Tidy := by
  have grows := grows_objectSet h ref key v
  refine tidy.transfer grows (fun _ _ => .inl) (fun r e member => ?_) (fun _ => .inl rfl)
    (fun _ _ => .inl) fun _ => rfl
  simp only [Heap.objectSet, object_setObject] at member
  split at member
  · rename_i target
    rcases ObjectCell.mem_set member with old | new
    · exact .inl (target.1 ▸ old)
    · exact .inr (new ▸ held.grow grows)
  · exact .inl member

theorem withBindings (tidy : h.Tidy) (ref : Nat) {bindings : Array Binding}
    (held : ∀ b ∈ bindings, b ∈ (h.scope ref).bindings ∨ h.Holdable b.value) :
    (h.withBindings ref bindings).Tidy := by
  have grows := grows_withBindings h ref bindings
  refine tidy.transfer grows (fun _ _ => .inl) (fun _ _ => .inl) (fun _ => .inl rfl) (fun r b member => ?_)
    fun s => ?_
  · rw [scope_withBindings] at member
    split at member
    · rename_i target
      rcases held b member with old | new
      · exact .inl (target.1 ▸ old)
      · exact .inr (new.grow grows)
    · exact .inl member
  · rw [scope_withBindings]
    split
    · rename_i same
      rw [same.1]
    · rfl

/-- A new root's table of exports is a new object, so it is the table of no other scope. -/
theorem allocScope (tidy : h.Tidy) (parent : Option Nat) : (h.allocScope parent).2.Tidy := by
  have grows := grows_allocScope h parent
  have cell : ∀ r, (h.allocScope parent).2.scope r =
      if r = h.scopes.size then ⟨parent, #[], if parent.isSome then none else some h.objects.size⟩
      else h.scope r := fun r => scope_allocScope h r parent
  have old : ∀ s t, (h.scope s).exports = some t → t < h.objects.size := tidy.exports
  refine ⟨fun r v member => ?_, fun r e member => ?_, fun r => ?_, fun r b member => ?_, fun s t table => ?_,
    fun s s' t first second => ?_⟩
  · cases parent <;> exact (tidy.elements r v member).grow grows
  · rw [object_allocScope] at member
    split at member
    · simp [ObjectCell.empty] at member
    · exact (tidy.entries r e member).grow grows
  · cases parent <;> exact (tidy.natives r).grow grows
  · rw [cell] at member
    split at member
    · simp at member
    · exact (tidy.bindings r b member).grow grows
  · rw [cell] at table
    have objects : h.objects.size ≤ (h.allocScope parent).2.objects.size := grows.mark.2.1
    split at table
    · cases parent with
      | some _ => simp at table
      | none =>
        simp only [Option.isSome_none, Bool.false_eq_true, ↓reduceIte, Option.some.injEq] at table
        subst table
        simp [Heap.allocScope, Heap.allocObject]
    · exact lt_of_lt_of_le (old s t table) objects
  · rw [cell] at first second
    split at first <;> split at second
    · simp_all
    · cases parent <;> simp_all
      have := old s' _ second
      omega
    · cases parent <;> simp_all
      have := old s _ first
      omega
    · exact tidy.oneTable s s' t first second

end Tidy

/-- A value just allocated is holdable. -/
theorem holdable_allocArray (els : Array Value) : (h.allocArray els).2.Holdable (h.allocArray els).1 := by
  simp [allocArray, Holdable]

theorem holdable_allocNative (n : Native) : (h.allocNative n).2.Holdable (h.allocNative n).1 := by
  simp [allocNative, Holdable]

theorem holdable_allocClosure (c : Closure) : (h.allocClosure c).2.Holdable (h.allocClosure c).1 := by
  simp [allocClosure, Holdable]

/-- A new object is no table of exports: every table is an object allocated before. -/
theorem holdable_allocObject (tidy : h.Tidy) (o : ObjectCell) :
    (h.allocObject o).2.Holdable (h.allocObject o).1 := by
  refine ⟨by simp [allocObject], ?_⟩
  rintro ⟨s, table⟩
  have inside := tidy.exports s _ table
  exact absurd inside (lt_irrefl _)

/-- The arguments of a call are holdable. -/
def HoldableArgs (h : Heap) (args : List Value) : Prop := ∀ v ∈ args, h.Holdable v

namespace HoldableArgs

variable {args : List Value}

theorem argAt (held : h.HoldableArgs args) (i : Nat) : h.Holdable (Vernacular.argAt args i) := by
  unfold Vernacular.argAt
  rw [List.getD_eq_getElem?_getD]
  cases found : args[i]? with
  | none => trivial
  | some v => exact held v (List.mem_of_getElem? found)

theorem drop (held : h.HoldableArgs args) (n : Nat) : h.HoldableArgs (args.drop n) :=
  fun v member => held v (List.mem_of_mem_drop member)

theorem grow (held : h.HoldableArgs args) (grows : h.Grows h') : h'.HoldableArgs args :=
  fun v member => (held v member).grow grows

end HoldableArgs

/-! What a tidy heap gives of the elements of its arrays. -/

namespace Tidy

theorem back_holdable {ref : Nat} {v : Value} (found : (h.elements ref).back? = some v) (tidy : h.Tidy) :
    h.Holdable v :=
  tidy.elements ref v (Array.mem_of_back? found)

theorem pop_holdable (tidy : h.Tidy) (ref : Nat) : ∀ v ∈ (h.elements ref).pop, h.Holdable v :=
  fun v member => tidy.elements ref v (Array.mem_of_mem_pop member)

theorem append_holdable (tidy : h.Tidy) (ref : Nat) {extra : List Value} (held : h.HoldableArgs extra) :
    ∀ v ∈ h.elements ref ++ extra.toArray, h.Holdable v := by
  intro v member
  rcases Array.mem_append.mp member with old | added
  · exact tidy.elements ref v old
  · exact held v (List.mem_toArray.mp added)

end Tidy

end Heap

/-! ## Computations that keep the heap tidy -/

/-- A computation keeps the heap tidy: started on a tidy heap grown from `g`,
where `pre` holds, it ends, with a value that `ok` accepts or with a signal, on
a tidy heap still grown from `g`. Proofs take `g` to be the heap a computation
starts on, so that what held of that heap's values holds after it. -/
abbrev Eval.TidyFrom {α : Type} (g : Heap) (pre : Heap → Prop) (ok : Heap → α → Prop) (x : Eval α) : Prop :=
  ⦃fun m => ⌜g.Grows m.heap ∧ pre m.heap ∧ m.heap.Tidy⌝⦄ x
    ⦃post⟨fun a m => ⌜g.Grows m.heap ∧ ok m.heap a ∧ m.heap.Tidy⌝,
      fun _ m => ⌜g.Grows m.heap ∧ m.heap.Tidy⌝⟩⦄

/-- A computation that keeps the heap tidy from every heap, read as a fact
about one run. -/
theorem Eval.TidyFrom.run {α : Type} {pre : Heap → Prop} {ok : Heap → α → Prop} {x : Eval α}
    (keeps : ∀ g, Eval.TidyFrom g pre ok x) {m : Machine} (given : pre m.heap) (tidy : m.heap.Tidy) :
    match x.run m with
    | .ok a m' => m.heap.Grows m'.heap ∧ ok m'.heap a ∧ m'.heap.Tidy
    | .error _ m' => m.heap.Grows m'.heap ∧ m'.heap.Tidy := by
  have ran := keeps m.heap m ⟨.refl _, given, tidy⟩
  simp only [wp, PredTrans.apply] at ran
  cases result : x.run m with
  | ok a m' => simpa [result] using ran
  | error sig m' => simpa [result] using ran

section Primitives

open Eval

variable (g : Heap)

theorem Eval.heap_tidyFrom :
    ⦃fun m => ⌜g.Grows m.heap ∧ True ∧ m.heap.Tidy⌝⦄ heap
      ⦃post⟨fun h m => ⌜g.Grows m.heap ∧ h = m.heap ∧ m.heap.Tidy⌝,
        fun _ m => ⌜g.Grows m.heap ∧ m.heap.Tidy⌝⟩⦄ := by
  mvcgen [heap]
  grind

theorem Eval.setElements_tidyFrom (ref : Nat) (els : Array Value) :
    TidyFrom g (fun h => ∀ v ∈ els, h.Holdable v) (fun _ _ => True) (updateHeap (·.setElements ref els)) := by
  mvcgen [updateHeap]
  rename_i start _
  obtain ⟨grown, held, tidy⟩ := start
  exact ⟨grown.trans (Heap.grows_setElements _ ref els), trivial, tidy.setElements ref held⟩

theorem Eval.text_tidyFrom (v : Value) : TidyFrom g (fun _ => True) (fun _ _ => True) (text v) := by
  mvcgen [text, heap]

theorem Eval.describe_tidyFrom (v : Value) : TidyFrom g (fun _ => True) (fun _ _ => True) (describe v) := by
  mvcgen [describe, heap]

theorem Eval.writeOut_tidyFrom (t : Text) : TidyFrom g (fun _ => True) (fun _ _ => True) (writeOut t) := by
  mvcgen [writeOut]

theorem Eval.throwMessage_tidyFrom {α : Type} (message : String) :
    TidyFrom g (fun _ => True) (fun _ (_ : α) => False) (throwMessage message) := by
  mvcgen [throwMessage, throwText]
  grind

theorem Eval.newArray_tidyFrom (els : Array Value) :
    TidyFrom g (fun h => ∀ v ∈ els, h.Holdable v) Heap.Holdable (newArray els) := by
  mvcgen [newArray, onHeap]
  rename_i start _
  obtain ⟨grown, held, tidy⟩ := start
  exact ⟨grown.trans (Heap.grows_allocArray _ els), Heap.holdable_allocArray els, tidy.allocArray held⟩

theorem Eval.newObject_tidyFrom (entries : List (Text × Value)) (frozen : Bool) :
    TidyFrom g (fun h => ∀ e ∈ entries, h.Holdable e.2) Heap.Holdable (newObject entries frozen) := by
  mvcgen [newObject, onHeap]
  rename_i m start _
  obtain ⟨grown, held, tidy⟩ := start
  -- the cell keeps only entries it was given, so they are holdable
  exact ⟨grown.trans (Heap.grows_allocObject _ _), Heap.holdable_allocObject tidy _,
    tidy.allocObject fun e member => (newObject_entries_mem member).elim (fun none => absurd none (by simp)) (held e)⟩

theorem Eval.newNative_tidyFrom (n : Native) :
    TidyFrom g (fun h => h.HoldableNative n) Heap.Holdable (newNative n) := by
  mvcgen [newNative, onHeap]
  rename_i start _
  obtain ⟨grown, held, tidy⟩ := start
  exact ⟨grown.trans (Heap.grows_allocNative _ n), Heap.holdable_allocNative n, tidy.allocNative held⟩

theorem requireArgs_tidyFrom (name : String) (args : List Value) (count : Nat) :
    Eval.TidyFrom g (fun _ => True) (fun _ _ => True) (requireArgs name args count) := by
  mvcgen [requireArgs, throwMessage, throwText]
  all_goals grind

theorem stringArg_tidyFrom (name : String) (args : List Value) (i : Nat) :
    Eval.TidyFrom g (fun _ => True) (fun _ _ => True) (stringArg name args i) := by
  mvcgen [stringArg, throwMessage, throwText]
  all_goals grind

theorem numberArg_tidyFrom (name : String) (args : List Value) (i : Nat) :
    Eval.TidyFrom g (fun _ => True) (fun _ _ => True) (numberArg name args i) := by
  mvcgen [numberArg, throwMessage, throwText]
  all_goals grind

theorem arrayArg_tidyFrom (name : String) (args : List Value) :
    Eval.TidyFrom g (fun _ => True) (fun _ _ => True) (Library.arrayArg name args) := by
  mvcgen [Library.arrayArg, throwMessage, throwText]
  all_goals grind

/-- Running a computation on each element of a list: every result is accepted. -/
theorem mapM_tidyFrom {α β : Type} (f : α → Eval β) (ok : Heap → β → Prop)
    (grow : ∀ {h h' b}, ok h b → h.Grows h' → ok h' b)
    (each : ∀ a g, Eval.TidyFrom g (fun _ => True) ok (f a)) (xs : List α) :
    Eval.TidyFrom g (fun _ => True) (fun h bs => ∀ b ∈ bs, ok h b) (xs.mapM f) := by
  induction xs generalizing g with
  | nil =>
    rw [List.mapM_nil]
    mvcgen
    grind
  | cons x xs ih =>
    rw [List.mapM_cons]
    mvcgen [each, ih]
    all_goals grind

end Primitives

attribute [local spec] Eval.heap_tidyFrom Eval.setElements_tidyFrom Eval.text_tidyFrom Eval.describe_tidyFrom
  Eval.writeOut_tidyFrom Eval.throwMessage_tidyFrom Eval.newArray_tidyFrom Eval.newObject_tidyFrom
  Eval.newNative_tidyFrom requireArgs_tidyFrom stringArg_tidyFrom numberArg_tidyFrom arrayArg_tidyFrom

section Json

variable (g : Heap)

open Eval

/-- A value read from JSON is built of new arrays and objects only. -/
theorem ofJson_tidyFrom (fuel : Nat) (tree : JsonTree) :
    TidyFrom g (fun _ => True) Heap.Holdable (ofJson fuel tree) := by
  induction fuel generalizing g tree with
  | zero => mvcgen [ofJson]
  | succ fuel ih =>
    cases tree with
    | array elements =>
      have values : ∀ g, TidyFrom g (fun _ => True) (fun h vs => ∀ v ∈ vs, h.Holdable v)
          (elements.mapM (ofJson fuel)) :=
        fun g => mapM_tidyFrom g (ofJson fuel) Heap.Holdable Heap.Holdable.grow (fun tree g => ih g tree) elements
      mvcgen [ofJson, values]
      all_goals grind
    | object entries =>
      have members : ∀ g, TidyFrom g (fun _ => True) (fun h es => ∀ e ∈ es, h.Holdable e.2)
          (entries.mapM fun (entry : Text × JsonTree) => do return (entry.1, ← ofJson fuel entry.2)) :=
        fun g => mapM_tidyFrom g _ (fun h (e : Text × Value) => h.Holdable e.2) Heap.Holdable.grow
          (fun entry g => by
            mvcgen [ih]
            all_goals grind) entries
      mvcgen [ofJson, members]
      all_goals grind
    | _ => mvcgen [ofJson]

theorem decodeJson_tidyFrom (t : Text) :
    TidyFrom g (fun _ => True) (fun h result => ∀ v, result = .ok v → h.Holdable v) (decodeJson t) := by
  have trees : ∀ g tree, TidyFrom g (fun _ => True) Heap.Holdable (ofJson (t.size + 2) tree) :=
    fun g => ofJson_tidyFrom g (t.size + 2)
  mvcgen [decodeJson, trees]
  all_goals grind

end Json

attribute [local spec] decodeJson_tidyFrom

namespace Library

variable (g : Heap)

open Eval

/-! ## The natives -/

theorem print_tidyFrom (args : List Value) : TidyFrom g (fun _ => True) Heap.Holdable (print args) := by
  mvcgen [print]
  all_goals grind [Heap.Holdable]

@[local spec] theorem readLine_tidyFrom (reader : Nat) :
    TidyFrom g (fun _ => True) (fun _ _ => True) (readLine reader) := by
  mvcgen [readLine]

theorem input_tidyFrom (reader : Nat) (args : List Value) :
    TidyFrom g (fun _ => True) Heap.Holdable (input reader args) := by
  mvcgen [input]
  all_goals grind [Heap.Holdable]

theorem format_tidyFrom (args : List Value) : TidyFrom g (fun _ => True) Heap.Holdable (format args) := by
  mvcgen [format]
  all_goals grind [Heap.Holdable]

theorem typeOf_tidyFrom (args : List Value) : TidyFrom g (fun _ => True) Heap.Holdable (typeOf args) := by
  mvcgen [typeOf]
  all_goals grind [Heap.Holdable]

theorem length_tidyFrom (args : List Value) : TidyFrom g (fun _ => True) Heap.Holdable (length args) := by
  mvcgen [length]
  all_goals grind [Heap.Holdable]

theorem stringMethod_tidyFrom (m : StringMethod) (args : List Value) :
    TidyFrom g (fun _ => True) Heap.Holdable (stringMethod m args) := by
  cases m <;> mvcgen [stringMethod]
  all_goals grind [Heap.Holdable]

theorem arrayMethod_tidyFrom (m : ArrayMethod) (args : List Value) :
    TidyFrom g (fun h => h.HoldableArgs args) Heap.Holdable (arrayMethod m args) := by
  cases m
  case pop =>
    mvcgen [arrayMethod]
    case vc4.post.success.post.success.h_2.pre =>
      rename_i read
      obtain ⟨-, rfl, tidy⟩ := read
      exact ⟨.refl _, tidy.pop_holdable _, tidy⟩
    case vc5.post.success.post.success.h_2.post.success =>
      -- the last element was held by the array, so it is holdable
      rename_i start _ _ first _ _ _ found _ read _ _ written
      obtain ⟨later, rfl, tidy⟩ := read
      exact ⟨start.1.trans (first.1.trans (later.trans written.1)), (Heap.Tidy.back_holdable found tidy).grow written.1,
        written.2.2⟩
    all_goals grind [Heap.Holdable]
  case push =>
    mvcgen [arrayMethod]
    case vc3.post.success.post.success.pre =>
      -- the elements are old ones and the arguments after the receiver
      rename_i start _ _ first _ _ _ read
      obtain ⟨later, rfl, tidy⟩ := read
      exact ⟨.refl _, tidy.append_holdable _ ((start.2.1.drop 1).grow (first.1.trans later)), tidy⟩
    all_goals grind [Heap.Holdable]
  all_goals mvcgen [arrayMethod]
  all_goals grind [Heap.Holdable]

theorem codeToStr_tidyFrom (args : List Value) : TidyFrom g (fun _ => True) Heap.Holdable (codeToStr args) := by
  mvcgen [codeToStr]
  all_goals grind [Heap.Holdable]

theorem math_tidyFrom (fn : MathFn) (args : List Value) :
    TidyFrom g (fun _ => True) Heap.Holdable (math fn args) := by
  mvcgen [math]
  all_goals grind [Heap.Holdable]

theorem random_tidyFrom : TidyFrom g (fun _ => True) Heap.Holdable random := by
  mvcgen -trivial [random]
  all_goals grind [Heap.Holdable]

theorem jsonParse_tidyFrom (args : List Value) : TidyFrom g (fun _ => True) Heap.Holdable (jsonParse args) := by
  mvcgen [jsonParse]
  all_goals grind

theorem jsonStringify_tidyFrom (args : List Value) :
    TidyFrom g (fun _ => True) Heap.Holdable (jsonStringify args) := by
  unfold jsonStringify
  -- `mvcgen` does not split the test for a NaN indent, which matches on the argument
  cases second : argAt args 1 with
  | number x => cases nan : x.isNaN <;> simp only [nan] <;> mvcgen <;> grind [Heap.Holdable]
  | _ => mvcgen <;> grind [Heap.Holdable]

theorem numberFormat_tidyFrom (args : List Value) :
    TidyFrom g (fun _ => True) Heap.Holdable (numberFormat args) := by
  mvcgen [numberFormat]
  all_goals grind [Heap.Holdable]

theorem now_tidyFrom : TidyFrom g (fun _ => True) Heap.Holdable now := by
  mvcgen [now]

-- Checking a term whose type mentions `dateObject ms` makes Lean unfold it into
-- the calendar arithmetic; it is opened by its equation only.
attribute [local irreducible] dateObject

@[local spec] theorem dateObject_tidyFrom (ms : Int) :
    TidyFrom g (fun _ => True) Heap.Holdable (dateObject ms) := by
  have constants : ∀ (fields : List (String × Float)) g,
      TidyFrom g (fun _ => True) (fun h cs => ∀ c ∈ cs, h.Holdable (c : Text × Value).2)
        (fields.mapM fun field => do return (Text.ofString field.1, ← newNative (.constant (.number field.2)))) :=
    fun fields g => mapM_tidyFrom g _ (fun h (c : Text × Value) => h.Holdable c.2) Heap.Holdable.grow
      (fun field g => by
        mvcgen
        all_goals grind [Heap.HoldableNative, Heap.Holdable]) fields
  unfold dateObject
  -- keep the calendar fields opaque: unfolding `CivilTime.ofMillis` blows up
  generalize CivilTime.ofMillis ms = t
  mvcgen [constants]
  all_goals grind [Heap.HoldableNative, Heap.Holdable.grow]

@[local spec] theorem dateInstant_tidyFrom (args : List Value) :
    TidyFrom g (fun _ => True) (fun _ _ => True) (dateInstant args) := by
  mvcgen [dateInstant]
  all_goals grind

theorem date_tidyFrom (args : List Value) : TidyFrom g (fun _ => True) Heap.Holdable (date args) := by
  mvcgen [date]
  all_goals grind

theorem dateFormat_tidyFrom (ms : Int) (args : List Value) :
    TidyFrom g (fun _ => True) Heap.Holdable (dateFormat ms args) := by
  mvcgen [dateFormat]
  all_goals grind [Heap.Holdable]

@[local spec] theorem workVolume_tidyFrom : TidyFrom g (fun _ => True) (fun _ _ => True) workVolume := by
  mvcgen [workVolume]
  all_goals grind

@[local spec] theorem setWork_tidyFrom (change : Volume × Disk) :
    TidyFrom g (fun _ => True) (fun _ _ => True) (setWork change) := by
  mvcgen [setWork]

@[local spec] theorem fileResult_tidyFrom {α : Type} (name : String) (result : Except FileError α) :
    TidyFrom g (fun _ => True) (fun _ a => result = .ok a) (fileResult name result) := by
  cases result <;> mvcgen [fileResult] <;> grind

@[local spec] theorem statObject_tidyFrom (info : FileInfo) :
    TidyFrom g (fun _ => True) Heap.Holdable (statObject info) := by
  mvcgen [statObject]
  all_goals grind [Heap.Holdable, Heap.HoldableNative, Heap.Holdable.grow]

theorem fileOp_tidyFrom (op : FileOp) (args : List Value) :
    TidyFrom g (fun _ => True) Heap.Holdable (fileOp op args) := by
  cases op <;> mvcgen [fileOp]
  all_goals grind [Heap.Holdable]

theorem server_tidyFrom (args : List Value) (scope : Nat) :
    TidyFrom g (fun h => h.HoldableArgs args) Heap.Holdable (server args scope) := by
  mvcgen [server]
  all_goals grind [Heap.Holdable, Heap.HoldableNative, Heap.HoldableArgs.argAt, Heap.HoldableArgs.grow]

theorem listen_tidyFrom (args : List Value) : TidyFrom g (fun _ => True) Heap.Holdable (listen args) := by
  mvcgen [listen]
  all_goals grind [Heap.Holdable]

@[local spec] theorem response_tidyFrom (ref : Nat) :
    TidyFrom g (fun _ => True) (fun _ _ => True) (response ref) := by
  mvcgen [response]

@[local spec] theorem updateResponse_tidyFrom (ref : Nat) (f : Response → Response) :
    TidyFrom g (fun _ => True) (fun _ _ => True) (updateResponse ref f) := by
  mvcgen [updateResponse]

theorem responseAction_tidyFrom (ref : Nat) (action : ResponseAction) (args : List Value) :
    TidyFrom g (fun _ => True) Heap.Holdable (responseAction ref action args) := by
  cases action <;> mvcgen [responseAction]
  all_goals grind [Heap.Holdable]

/-- Every native the dispatcher runs keeps the heap tidy, and called with
holdable arguments, a native whose payload is holdable answers a holdable value. -/
theorem invoke_keepsTidy (n : Native) (args : List Value) (scope : Nat) :
    TidyFrom g (fun h => h.HoldableNative n ∧ h.HoldableArgs args) Heap.Holdable (invoke n args scope) := by
  cases n
  all_goals mvcgen [invoke, print_tidyFrom, input_tidyFrom, format_tidyFrom, typeOf_tidyFrom,
    length_tidyFrom, stringMethod_tidyFrom, arrayMethod_tidyFrom, codeToStr_tidyFrom,
    math_tidyFrom, random_tidyFrom, jsonParse_tidyFrom, jsonStringify_tidyFrom,
    numberFormat_tidyFrom, now_tidyFrom, date_tidyFrom, dateFormat_tidyFrom, fileOp_tidyFrom,
    server_tidyFrom, listen_tidyFrom, responseAction_tidyFrom]
  all_goals grind [Heap.HoldableNative]

end Library

end Vernacular
