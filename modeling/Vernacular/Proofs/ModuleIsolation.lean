import Mathlib
import Vernacular.Proofs.TidyHeap
import Vernacular.Proofs.ScopeStore
/-!
# Modules run apart from their importers

An import runs its module in a new global scope. Take the mark of the heap
just before the import allocates that scope: from then on, every value the
module's evaluation holds names only cells allocated since the mark
(`Heap.Mark.Owns`), and the cells allocated since refer only to one another
(`Heap.Mark.Closed`). The scopes the module runs in are new, so the chain of
parents of each ends at a new root, and every name it reads or writes is
bound in a new scope; the scopes older than the mark keep their parents,
their bindings and their tables of exports (`Heap.Isolated`).

A closure reference that names no closure would be read as the default
closure, whose scope is the first scope of the heap: the heap is kept tidy
(`Heap.Tidy`) so that every reference a value holds is allocated.

`Interp.Isolating k fuel` gives, at one fuel, the triple of every function of
the evaluator started in a new scope with values owned since the mark `k`;
each function keeps it from one fuel to the next, so it holds at every fuel.
-/

set_option autoImplicit false
set_option mvcgen.warning false

open Std.Do

namespace Vernacular

namespace Heap

namespace Mark

variable {k : Mark} {h h' : Heap}

/-- A value the code run since the mark may hold: it names no cell older than
the mark, and every cell it names is allocated and no table of exports. -/
def Owns (k : Mark) (h : Heap) (v : Value) : Prop := k.Fresh v ∧ h.Holdable v

theorem Owns.of_plain {v : Value} (plain : v.Plain) : k.Owns h v := by
  cases v with
  | array _ | object _ | closure _ | native _ => exact plain.elim
  | _ => exact ⟨trivial, trivial⟩

theorem Owns.grow {v : Value} (owned : k.Owns h v) (grows : h.Grows h') : k.Owns h' v :=
  ⟨owned.1, owned.2.grow grows⟩

/-- A heap is closed from its own mark: nothing is allocated since. -/
theorem closed_mark (h : Heap) : h.mark.Closed h where
  reached := reaches_refl _
  arrays r since v member := by
    have outside : h.arrays.size ≤ r := since
    simp [elements, Array.getD_eq_getD_getElem?, Array.getElem?_eq_none outside] at member
  objects r since e member := by
    rw [object_out_of_range since] at member
    simp [ObjectCell.empty] at member
  closures _ since inside := absurd inside (Nat.not_lt.mpr since)
  natives r since := by
    have outside : h.natives.size ≤ r := since
    simp only [native, Array.getD_eq_getD_getElem?, Array.getElem?_eq_none outside, Option.getD_none]
    trivial
  scopes r since := by
    rw [scope_out_of_range since]
    exact ⟨fun _ none => by simp at none, fun _ none => by simp at none, fun _ none => by simp at none⟩

namespace Closed

/-- The walk to the scope that binds a name, started in a new scope, meets
new scopes only: the parent of a new scope is new. -/
theorem owner?_walk_fresh (closed : k.Closed h) {name : String} :
    ∀ fuel ref owner, k.scopes ≤ ref → owner?.walk h name fuel ref = some owner → k.scopes ≤ owner
  | 0, _, _, _, found => by simp [owner?.walk] at found
  | fuel + 1, ref, owner, fresh, found => by
    rw [owner?.walk] at found
    split at found
    · cases found
      exact fresh
    · split at found
      · rename_i p parent
        exact owner?_walk_fresh closed fuel p owner ((closed.scopes ref fresh).parent p parent) found
      · cases found

theorem root_walk_fresh (closed : k.Closed h) : ∀ fuel ref, k.scopes ≤ ref → k.scopes ≤ root.walk h fuel ref
  | 0, _, fresh => fresh
  | fuel + 1, ref, fresh => by
    rw [root.walk]
    split
    · rename_i p parent
      exact root_walk_fresh closed fuel p ((closed.scopes ref fresh).parent p parent)
    · exact fresh

theorem owner?_fresh (closed : k.Closed h) {ref owner : Nat} {name : String} (fresh : k.scopes ≤ ref)
    (found : h.owner? ref name = some owner) : k.scopes ≤ owner :=
  closed.owner?_walk_fresh _ ref owner fresh found

theorem root_fresh (closed : k.Closed h) {ref : Nat} (fresh : k.scopes ≤ ref) : k.scopes ≤ h.root ref :=
  closed.root_walk_fresh _ ref fresh

/-- A name read from a new scope gives a value owned since the mark. -/
theorem lookup_owns (closed : k.Closed h) (tidy : h.Tidy) {ref : Nat} {name : String} {v : Value}
    (fresh : k.scopes ≤ ref) (found : h.lookup ref name = .ok v) : k.Owns h v := by
  unfold lookup at found
  split at found
  · rename_i owner owned
    split at found
    · rename_i b bound
      cases found
      have member : b ∈ (h.scope owner).bindings := Array.mem_of_find?_eq_some bound
      exact ⟨(closed.scopes owner (closed.owner?_fresh fresh owned)).bindings b member,
        tidy.bindings owner b member⟩
    · cases found
  · cases found

/-- The table of exports of a new scope's root is a new object. -/
theorem exportsOf_fresh (closed : k.Closed h) {ref table : Nat} (fresh : k.scopes ≤ ref)
    (found : h.exportsOf ref = some table) : k.objects ≤ table :=
  (closed.scopes _ (closed.root_fresh fresh)).exports table found

theorem objectSet (closed : k.Closed h) {ref : Nat} (key : Text) {v : Value}
    (fresh : k.objects ≤ ref → k.Fresh v) : k.Closed (h.objectSet ref key v) := by
  refine ⟨?_, closed.arrays, fun r since e member => ?_, closed.closures, closed.natives, closed.scopes⟩
  · simpa [Heap.objectSet, Heap.setObject, mark] using closed.reached
  · simp only [Heap.objectSet, object_setObject] at member
    split at member
    · rename_i target
      rcases ObjectCell.mem_set member with old | new
      · exact closed.objects r since e (target.1 ▸ old)
      · exact new ▸ fresh (target.1 ▸ since)
    · exact closed.objects r since e member

/-- Rebinding a new scope to values of the region, or an old scope to anything,
keeps the region closed. -/
theorem withBindings (closed : k.Closed h) {ref : Nat} {bindings : Array Binding}
    (fresh : k.scopes ≤ ref → ∀ b ∈ bindings, k.Fresh b.value) : k.Closed (h.withBindings ref bindings) := by
  refine ⟨?_, closed.arrays, closed.objects, closed.closures, closed.natives, fun r since => ?_⟩
  · simpa [Heap.withBindings, mark] using closed.reached
  · rw [scope_withBindings]
    split
    · rename_i target
      obtain ⟨parent, -, exports⟩ := closed.scopes ref (target.1 ▸ since)
      exact ⟨parent, fresh (target.1 ▸ since), exports⟩
    · exact closed.scopes r since

/-- A scope allocated under a new parent, or a new root, keeps the region closed. -/
theorem allocScope (closed : k.Closed h) {parent : Option Nat} (fresh : ∀ p ∈ parent, k.scopes ≤ p) :
    k.Closed (h.allocScope parent).2 := by
  have grows := grows_allocScope h parent
  refine ⟨reaches_trans closed.reached grows.mark, fun r since v member => ?_, fun r since e member => ?_,
    fun r since inside => ?_, fun r since => ?_, fun r since => ?_⟩
  · cases parent <;> exact closed.arrays r since v member
  · rw [object_allocScope] at member
    split at member
    · simp [ObjectCell.empty] at member
    · exact closed.objects r since e member
  · cases parent <;> exact closed.closures r since inside
  · cases parent <;> exact closed.natives r since
  · rw [scope_allocScope]
    split
    · refine ⟨fresh, fun b none => by simp at none, fun o table => ?_⟩
      cases parent with
      | some _ => simp at table
      | none =>
        simp only [Option.isSome_none, Bool.false_eq_true, ↓reduceIte, Option.mem_def, Option.some.injEq] at table
        exact table ▸ closed.reached_objects
    · exact closed.scopes r since

end Closed

end Mark

/-- `h` grew from `g`, and the scopes older than the mark are as they were in `g`. -/
structure Isolated (k : Mark) (g h : Heap) : Prop where
  grows : g.Grows h
  scopes : ∀ s, s < k.scopes → h.scope s = g.scope s

namespace Isolated

variable {k : Mark} {g h h' : Heap}

@[refl, grind .] theorem refl (k : Mark) (h : Heap) : h.Isolated k h := ⟨.refl h, fun _ _ => rfl⟩

@[grind →] theorem trans (first : g.Isolated k h) (second : h.Isolated k h') : g.Isolated k h' :=
  ⟨first.grows.trans second.grows, fun s old => (second.scopes s old).trans (first.scopes s old)⟩

/-- A step that grows the heap and changes no scope older than the mark. -/
theorem of_grows (grows : h.Grows h') (scopes : ∀ s, s < k.scopes → h'.scope s = h.scope s) :
    h.Isolated k h' :=
  ⟨grows, scopes⟩

/-- A step that leaves every scope as it is. -/
theorem of_scopes (grows : h.Grows h') (same : h'.scopes = h.scopes) : h.Isolated k h' :=
  ⟨grows, fun s _ => by simp only [scope, same]⟩

theorem withBindings (h : Heap) {ref : Nat} (fresh : k.scopes ≤ ref) (bindings : Array Binding) :
    h.Isolated k (h.withBindings ref bindings) :=
  ⟨grows_withBindings h ref bindings, fun s old => by rw [scope_withBindings, if_neg (by omega)]⟩

/-- A new scope is past every scope older than the mark. -/
theorem allocScope (h : Heap) (reached : k.scopes ≤ h.scopes.size) (parent : Option Nat) :
    h.Isolated k (h.allocScope parent).2 :=
  ⟨grows_allocScope h parent, fun s old => by rw [scope_allocScope, if_neg (by omega)]⟩

theorem objectSet (h : Heap) (ref : Nat) (key : Text) (v : Value) : h.Isolated k (h.objectSet ref key v) :=
  of_scopes (grows_objectSet h ref key v) rfl

theorem setElements (h : Heap) (ref : Nat) (els : Array Value) : h.Isolated k (h.setElements ref els) :=
  of_scopes (grows_setElements h ref els) rfl

theorem allocArray (h : Heap) (els : Array Value) : h.Isolated k (h.allocArray els).2 :=
  of_scopes (grows_allocArray h els) rfl

theorem allocObject (h : Heap) (o : ObjectCell) : h.Isolated k (h.allocObject o).2 :=
  of_scopes (grows_allocObject h o) rfl

theorem allocClosure (h : Heap) (c : Closure) : h.Isolated k (h.allocClosure c).2 :=
  of_scopes (grows_allocClosure h c) rfl

theorem allocNative (h : Heap) (n : Native) : h.Isolated k (h.allocNative n).2 :=
  of_scopes (grows_allocNative h n) rfl

end Isolated

variable {h : Heap}

/-- A declaration, an assignment and a lookup fail with a fault that carries no value. -/
theorem declare_error {ref : Nat} {name : String} {v : Value} {constant : Bool} {sig : Signal}
    (failed : h.declare ref name v constant = .error sig) : ∃ f, sig = .fault f := by
  unfold declare at failed
  dsimp only at failed
  split at failed
  · cases failed
    exact ⟨_, rfl⟩
  · cases failed

theorem assign_error {ref : Nat} {name : String} {v : Value} {sig : Signal}
    (failed : h.assign ref name v = .error sig) : ∃ f, sig = .fault f := by
  unfold assign at failed
  split at failed
  · cases failed
    exact ⟨_, rfl⟩
  · dsimp only at failed
    split at failed
    · cases failed
      exact ⟨_, rfl⟩
    · split at failed
      · cases failed
        exact ⟨_, rfl⟩
      · cases failed

theorem lookup_error {ref : Nat} {name : String} {sig : Signal} (failed : h.lookup ref name = .error sig) :
    ∃ f, sig = .fault f := by
  unfold lookup at failed
  split at failed
  · split at failed
    · cases failed
    · cases failed
      exact ⟨_, rfl⟩
  · cases failed
    exact ⟨_, rfl⟩

end Heap

/-- The values a signal carries are owned since the mark. -/
def Signal.OwnedSince (k : Heap.Mark) (h : Heap) : Signal → Prop
  | .thrown v | .returned v => k.Owns h v
  | _ => True

namespace Signal.OwnedSince

variable {k : Heap.Mark} {h h' : Heap} {sig : Signal}

theorem grow (owned : sig.OwnedSince k h) (grows : h.Grows h') : sig.OwnedSince k h' := by
  cases sig with
  | thrown v | returned v => exact Heap.Mark.Owns.grow owned grows
  | _ => trivial

theorem of_fromLibrary (library : sig.FromLibrary) : sig.OwnedSince k h := by
  cases sig with
  | thrown v => exact Heap.Mark.Owns.of_plain library
  | returned _ => exact library.elim
  | _ => trivial

theorem escaped (owned : sig.OwnedSince k h) : sig.escaped.OwnedSince k h := by
  cases sig with
  | returned _ | broke | continued => trivial
  | _ => exact owned

end Signal.OwnedSince

/-! ## Computations that keep a module apart -/

/-- A computation keeps the code run since the mark `k` apart from the scopes
before it: started on a heap isolated from `g`, closed from `k` and tidy,
where `pre` holds, it ends with a value `ok` accepts, or with a signal whose
values are owned since `k`, on a heap still isolated from `g`, closed and
tidy. Proofs take `g` to be the heap the computation starts on. -/
abbrev Eval.Isolates {α : Type} (k : Heap.Mark) (g : Heap) (pre : Heap → Prop) (ok : Heap → α → Prop)
    (x : Eval α) : Prop :=
  ⦃fun m => ⌜g.Isolated k m.heap ∧ pre m.heap ∧ k.Closed m.heap ∧ m.heap.Tidy⌝⦄ x
    ⦃post⟨fun a m => ⌜g.Isolated k m.heap ∧ ok m.heap a ∧ k.Closed m.heap ∧ m.heap.Tidy⌝,
      fun sig m => ⌜g.Isolated k m.heap ∧ sig.OwnedSince k m.heap ∧ k.Closed m.heap ∧ m.heap.Tidy⌝⟩⦄

namespace Eval.Isolates

variable {α : Type} {k : Heap.Mark} {pre : Heap → Prop} {ok : Heap → α → Prop} {x : Eval α}

/-- A computation whose every run keeps the module apart, read as a triple. -/
theorem of_runs
    (runs : ∀ m, pre m.heap → k.Closed m.heap → m.heap.Tidy →
      match x.run m with
      | .ok a m' => m.heap.Isolated k m'.heap ∧ ok m'.heap a ∧ k.Closed m'.heap ∧ m'.heap.Tidy
      | .error sig m' => m.heap.Isolated k m'.heap ∧ sig.OwnedSince k m'.heap ∧ k.Closed m'.heap ∧ m'.heap.Tidy)
    (g : Heap) : Isolates k g pre ok x := by
  intro m start
  simp only [wp, PredTrans.apply]
  obtain ⟨isolated, given, closed, tidy⟩ := start
  have ran := runs m given closed tidy
  cases result : x.run m with
  | ok a m' =>
    rw [result] at ran
    simpa [result] using ⟨isolated.trans ran.1, ran.2⟩
  | error sig m' =>
    rw [result] at ran
    simpa [result] using ⟨isolated.trans ran.1, ran.2⟩

/-- A triple that keeps the module apart from every heap, read as a fact about one run. -/
theorem run (keeps : ∀ g, Isolates k g pre ok x) {m : Machine} (given : pre m.heap) (closed : k.Closed m.heap)
    (tidy : m.heap.Tidy) :
    match x.run m with
    | .ok a m' => m.heap.Isolated k m'.heap ∧ ok m'.heap a ∧ k.Closed m'.heap ∧ m'.heap.Tidy
    | .error sig m' => m.heap.Isolated k m'.heap ∧ sig.OwnedSince k m'.heap ∧ k.Closed m'.heap ∧ m'.heap.Tidy := by
  have ran := keeps m.heap m ⟨.refl k _, given, closed, tidy⟩
  simp only [wp, PredTrans.apply] at ran
  cases result : x.run m with
  | ok a m' => simpa [result] using ran
  | error sig m' => simpa [result] using ran

end Eval.Isolates

/-- An entry found under a key is an entry of the object. -/
theorem ObjectCell.mem_of_get? {o : ObjectCell} {key : Text} {v : Value} (found : o.get? key = some v) :
    ∃ key', (key', v) ∈ o.entries := by
  obtain ⟨e, searched, rfl⟩ := Option.map_eq_some_iff.mp found
  exact ⟨e.1, Array.mem_of_find?_eq_some searched⟩

namespace Heap.Mark

variable {k : Mark} {h : Heap}

theorem owns_getD {xs : Array Value} (all : ∀ v ∈ xs, k.Owns h v) (i : Nat) : k.Owns h (xs.getD i .null) := by
  rw [Array.getD_eq_getD_getElem?]
  cases found : xs[i]? with
  | none => exact Owns.of_plain trivial
  | some v => exact all v (Array.mem_of_getElem? found)

namespace Closed

/-- The elements and entries of containers owned since the mark are owned since it. -/
theorem element_owns (closed : k.Closed h) (tidy : h.Tidy) {ref : Nat} (owned : k.Owns h (.array ref))
    {v : Value} (member : v ∈ h.elements ref) : k.Owns h v :=
  ⟨closed.arrays ref owned.1 v member, tidy.elements ref v member⟩

theorem get?_owns (closed : k.Closed h) (tidy : h.Tidy) {ref : Nat} (owned : k.Owns h (.object ref))
    {key : Text} {v : Value} (found : (h.object ref).get? key = some v) : k.Owns h v := by
  obtain ⟨key', member⟩ := ObjectCell.mem_of_get? found
  exact ⟨closed.objects ref owned.1 _ member, tidy.entries ref _ member⟩

end Closed

end Heap.Mark

namespace Interp

open Eval

section Helpers

variable (k : Heap.Mark) (g : Heap)

theorem lookup_isolates (scope : Nat) (name : String) :
    Isolates k g (fun _ => k.scopes ≤ scope) k.Owns (lookup scope name) := by
  mvcgen [lookup, heap, orFail]
  case vc1.h_1 m start v found =>
    obtain ⟨isolated, fresh, closed, tidy⟩ := start
    exact ⟨isolated, closed.lookup_owns tidy fresh found, closed, tidy⟩
  case vc2.h_2 m start sig failed =>
    obtain ⟨f, rfl⟩ := Heap.lookup_error failed
    exact ⟨start.1, trivial, start.2.2⟩

/-- An assignment from a new scope writes a binding of a new scope. -/
theorem assign_isolates (scope : Nat) (name : String) (v : Value) :
    Isolates k g (fun h => k.scopes ≤ scope ∧ k.Owns h v) (fun _ _ => True) (assign scope name v) := by
  refine Isolates.of_runs (fun m ⟨fresh, owned⟩ closed tidy => ?_) g
  rw [assign_run]
  cases ran : m.heap.assign scope name v with
  | ok h' =>
    obtain ⟨owner, i, b, owned_by, _, rfl⟩ := Heap.assign_eq_withBindings _ ran
    have new : k.scopes ≤ owner := closed.owner?_fresh fresh owned_by
    -- every binding after the write is an old one of the owner or the one written
    have written : ∀ b' ∈ (m.heap.scope owner).bindings.set! i { b with value := v },
        b' ∈ (m.heap.scope owner).bindings ∨ b' = { b with value := v } := fun b' member =>
      Array.mem_or_eq_of_mem_setIfInBounds (by simpa only [Array.set!_eq_setIfInBounds] using member)
    refine ⟨.withBindings _ new _, trivial, closed.withBindings fun _ b' member => ?_,
      tidy.withBindings owner fun b' member => ?_⟩
    · rcases written b' member with old | rfl
      · exact (closed.scopes owner new).bindings b' old
      · exact owned.1
    · rcases written b' member with old | rfl
      · exact .inl old
      · exact .inr owned.2
  | error sig =>
    obtain ⟨f, rfl⟩ := Heap.assign_error ran
    exact ⟨.refl k _, trivial, closed, tidy⟩

/-- A declaration in a new scope binds there a value owned since the mark. -/
theorem declare_isolates (scope : Nat) (name : String) (v : Value) (constant : Bool) :
    Isolates k g (fun h => k.scopes ≤ scope ∧ k.Owns h v) (fun _ _ => True) (declare scope name v constant) := by
  refine Isolates.of_runs (fun m ⟨fresh, owned⟩ closed tidy => ?_) g
  rw [declare_run]
  cases ran : m.heap.declare scope name v constant with
  | ok h' =>
    obtain rfl := Heap.declare_eq_withBindings _ ran
    refine ⟨.withBindings _ fresh _, trivial, closed.withBindings fun _ b member => ?_,
      tidy.withBindings scope fun b member => ?_⟩
    · rcases Array.mem_push.mp member with old | rfl
      · exact (closed.scopes scope fresh).bindings b old
      · exact owned.1
    · rcases Array.mem_push.mp member with old | rfl
      · exact .inl old
      · exact .inr owned.2
  | error sig =>
    obtain ⟨f, rfl⟩ := Heap.declare_error ran
    exact ⟨.refl k _, trivial, closed, tidy⟩

/-- A scope allocated under a new scope is new. -/
theorem childScope_isolates (parent : Nat) :
    Isolates k g (fun _ => k.scopes ≤ parent) (fun _ scope => k.scopes ≤ scope) (childScope parent) := by
  mvcgen [childScope, onHeap]
  rename_i m start _
  obtain ⟨isolated, fresh, closed, tidy⟩ := start
  exact ⟨isolated.trans (.allocScope _ closed.reached_scopes _), closed.reached_scopes,
    closed.allocScope fun p same => by cases same; exact fresh, tidy.allocScope _⟩

theorem allocClosure_isolates (c : Closure) :
    Isolates k g (fun _ => k.scopes ≤ c.scope) k.Owns (onHeap (·.allocClosure c)) := by
  mvcgen [onHeap]
  rename_i m start _
  obtain ⟨isolated, fresh, closed, tidy⟩ := start
  exact ⟨isolated.trans (.allocClosure _ c), ⟨(closed.allocClosure fresh).1, Heap.holdable_allocClosure c⟩,
    (closed.allocClosure fresh).2, tidy.allocClosure c⟩

theorem newArray_isolates (els : Array Value) :
    Isolates k g (fun h => ∀ v ∈ els, k.Owns h v) k.Owns (newArray els) := by
  mvcgen [newArray, onHeap]
  rename_i m start _
  obtain ⟨isolated, owned, closed, tidy⟩ := start
  have fresh := closed.allocArray fun v member => (owned v member).1
  exact ⟨isolated.trans (.allocArray _ els), ⟨fresh.1, Heap.holdable_allocArray els⟩, fresh.2,
    tidy.allocArray fun v member => (owned v member).2⟩

theorem newObject_isolates (entries : List (Text × Value)) (frozen : Bool) :
    Isolates k g (fun h => ∀ e ∈ entries, k.Owns h e.2) k.Owns (newObject entries frozen) := by
  mvcgen [newObject, onHeap]
  rename_i m start _
  obtain ⟨isolated, owned, closed, tidy⟩ := start
  refine ⟨isolated.trans (.allocObject _ _), ⟨(closed.allocObject ?fresh).1, Heap.holdable_allocObject tidy _⟩,
    (closed.allocObject ?fresh).2, tidy.allocObject ?held⟩
  -- the cell keeps only entries it was given
  case fresh => exact fun e member => ((newObject_entries_mem member).elim (fun none => absurd none (by simp)) (owned e)).1
  case held => exact fun e member => ((newObject_entries_mem member).elim (fun none => absurd none (by simp)) (owned e)).2

theorem newNative_isolates (n : Native) :
    Isolates k g (fun h => k.FreshNative n ∧ h.HoldableNative n) k.Owns (newNative n) := by
  mvcgen [newNative, onHeap]
  rename_i m start _
  obtain ⟨isolated, ⟨fresh, held⟩, closed, tidy⟩ := start
  have allocated := closed.allocNative fresh
  exact ⟨isolated.trans (.allocNative _ n), ⟨allocated.1, Heap.holdable_allocNative n⟩, allocated.2,
    tidy.allocNative held⟩

end Helpers

end Interp

end Vernacular
