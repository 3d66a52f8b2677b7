import Mathlib
import Vernacular.Proofs.Immutable
/-!
# Scope chains as a store

A scope binds names, and a name is looked up from a scope along the chain of
its parents, in the nearest scope that binds it (`Heap.Resolves`). A scope is
allocated after its parent (`Heap.ParentsBefore`), so every walk up a chain
ends, and the walk of `Heap.owner?` finds exactly the scope `Resolves` names;
the walk of `Heap.root` likewise finds the end of the chain (`Heap.RootOf`).

The laws of the store, for every chain: a declaration binds a name in its own
scope and nowhere else, and fails when that scope binds the name already; an
assignment rewrites the one binding the name resolves to, and fails when there
is none or it is constant; a failed declaration or assignment leaves the
machine as it was; exporting a name writes one entry, the value the root sees,
into the root's table of exports and changes nothing else.
-/

set_option autoImplicit false

namespace Vernacular

@[simp] theorem Scope.default_parent : (default : Scope).parent = none := rfl

/-- Writing an element that passes a test at the first index that passes it
makes that element the one found. -/
theorem Array.find?_set!_of_findIdx? {α : Type} {p : α → Bool} {xs : Array α} {i : Nat} {x : α}
    (first : xs.findIdx? p = some i) (passes : p x = true) : (xs.set! i x).find? p = some x := by
  obtain ⟨inside, -, before⟩ := Array.findIdx?_eq_some_iff_getElem.mp first
  rw [Array.set!_eq_setIfInBounds, Array.find?_eq_some_iff_getElem]
  refine ⟨passes, i, by simpa using inside, by simp, fun j lt => ?_⟩
  rw [Array.getElem_setIfInBounds_ne (by omega) (Nat.ne_of_gt lt)]
  simpa using before j lt

namespace Heap

/-- A scope binds a name itself. -/
def Binds (h : Heap) (ref : Nat) (name : String) : Prop := ((h.scope ref).binding? name).isSome

/-- Every scope's parent was allocated before it. -/
def ParentsBefore (h : Heap) : Prop := ∀ ref parent, (h.scope ref).parent = some parent → parent < ref

/-- From a scope, a name resolves to the nearest scope of the chain of parents
that binds it. -/
inductive Resolves (h : Heap) (name : String) : Nat → Nat → Prop
  | here {ref : Nat} : h.Binds ref name → Resolves h name ref ref
  | up {ref parent owner : Nat} : ¬ h.Binds ref name → (h.scope ref).parent = some parent →
      Resolves h name parent owner → Resolves h name ref owner

/-- The root of a scope's chain: the scope with no parent it ends at. -/
inductive RootOf (h : Heap) : Nat → Nat → Prop
  | here {ref : Nat} : (h.scope ref).parent = none → RootOf h ref ref
  | up {ref parent root : Nat} : (h.scope ref).parent = some parent → RootOf h parent root →
      RootOf h ref root

/-- `h'` differs from `h` at most in the binding of one name in one scope:
every other binding, every parent and table of exports, and every other part
of the heap stay as they are. -/
structure Rebinds (h h' : Heap) (ref : Nat) (name : String) : Prop where
  rest : h' = { h with scopes := h'.scopes }
  size : h'.scopes.size = h.scopes.size
  parent : ∀ r, (h'.scope r).parent = (h.scope r).parent
  exports : ∀ r, (h'.scope r).exports = (h.scope r).exports
  others : ∀ r n, (r ≠ ref ∨ n ≠ name) → (h'.scope r).binding? n = (h.scope r).binding? n

variable {h : Heap} {name : String}

theorem not_binds_of_out_of_range {ref : Nat} (outside : h.scopes.size ≤ ref) : ¬ h.Binds ref name := by
  simp [Binds, scope_out_of_range outside, Scope.binding?]

theorem parent_of_out_of_range {ref : Nat} (outside : h.scopes.size ≤ ref) : (h.scope ref).parent = none := by
  simp [scope_out_of_range outside]

/-! ## Walking up a chain -/

section Walks

variable (wf : h.ParentsBefore)
include wf

/-- With fuel above the scope's index, the walk finds the scope a name resolves to. -/
theorem owner?_walk_eq_some_iff {owner : Nat} :
    ∀ fuel ref, ref < fuel → (owner?.walk h name fuel ref = some owner ↔ h.Resolves name ref owner)
  | 0, ref, bound => absurd bound (Nat.not_lt_zero ref)
  | fuel + 1, ref, bound => by
    rw [owner?.walk]
    by_cases binds : h.Binds ref name
    case pos =>
      have found : ((h.scope ref).binding? name).isSome = true := binds
      rw [if_pos found]
      constructor
      · rintro ⟨⟩
        exact .here binds
      · intro resolves
        cases resolves with
        | here _ => rfl
        | up unbound _ _ => exact absurd binds unbound
    case neg =>
      have missing : ¬ ((h.scope ref).binding? name).isSome = true := binds
      rw [if_neg missing]
      cases parent : (h.scope ref).parent with
      | none =>
        simp only [reduceCtorEq, false_iff]
        intro resolves
        cases resolves with
        | here bound => exact binds bound
        | up _ lifted _ => simp [parent] at lifted
      | some p =>
        dsimp only
        -- the parent is older, so the remaining fuel still reaches past it
        rw [owner?_walk_eq_some_iff fuel p (by have := wf ref p parent; omega)]
        constructor
        · exact fun resolves => .up binds parent resolves
        · intro resolves
          cases resolves with
          | here bound => exact absurd bound binds
          | up _ lifted rest =>
            rw [parent] at lifted
            cases lifted
            exact rest

/-- `owner?` finds exactly the scope a name resolves to. -/
theorem owner?_eq_some_iff {ref owner : Nat} : h.owner? ref name = some owner ↔ h.Resolves name ref owner := by
  by_cases inside : ref < h.scopes.size + 1
  case pos => exact owner?_walk_eq_some_iff wf _ ref inside
  case neg =>
    -- a scope past the table binds nothing and has no parent: nothing resolves from it
    have outside : h.scopes.size ≤ ref := by omega
    rw [owner?, owner?.walk]
    have unbound : ¬ ((h.scope ref).binding? name).isSome = true := not_binds_of_out_of_range outside
    rw [if_neg unbound, parent_of_out_of_range outside]
    simp only [reduceCtorEq, false_iff]
    intro resolves
    cases resolves with
    | here bound => exact not_binds_of_out_of_range outside bound
    | up _ lifted _ => simp [parent_of_out_of_range outside] at lifted

theorem owner?_eq_none_iff {ref : Nat} : h.owner? ref name = none ↔ ∀ owner, ¬ h.Resolves name ref owner := by
  rw [Option.eq_none_iff_forall_ne_some]
  exact forall_congr' fun _ => not_congr (owner?_eq_some_iff wf)

/-- With fuel above the scope's index, the walk to the root ends at the root. -/
theorem root_walk_rootOf : ∀ fuel ref, ref < fuel → h.RootOf ref (root.walk h fuel ref)
  | 0, ref, bound => absurd bound (Nat.not_lt_zero ref)
  | fuel + 1, ref, bound => by
    rw [root.walk]
    cases parent : (h.scope ref).parent with
    | none => exact .here parent
    | some p =>
      dsimp only
      exact .up parent (root_walk_rootOf fuel p (by have := wf ref p parent; omega))

theorem rootOf_root (ref : Nat) : h.RootOf ref (h.root ref) := by
  by_cases inside : ref < h.scopes.size + 1
  case pos => exact root_walk_rootOf wf _ ref inside
  case neg =>
    have outside : h.scopes.size ≤ ref := by omega
    rw [root, root.walk, parent_of_out_of_range outside]
    exact .here (parent_of_out_of_range outside)

end Walks

theorem Resolves.binds {ref owner : Nat} (resolves : h.Resolves name ref owner) : h.Binds owner name := by
  induction resolves with
  | here bound => exact bound
  | up _ _ _ ih => exact ih

theorem Resolves.unique {ref owner owner' : Nat} (first : h.Resolves name ref owner)
    (second : h.Resolves name ref owner') : owner = owner' := by
  induction first generalizing owner' with
  | here bound =>
    cases second with
    | here _ => rfl
    | up unbound _ _ => exact absurd bound unbound
  | up unbound parent _ ih =>
    cases second with
    | here bound => exact absurd bound unbound
    | up _ parent' rest =>
      rw [parent] at parent'
      cases parent'
      exact ih rest

theorem RootOf.unique {ref root root' : Nat} (first : h.RootOf ref root) (second : h.RootOf ref root') :
    root = root' := by
  induction first generalizing root' with
  | here top =>
    cases second with
    | here _ => rfl
    | up lifted _ => simp [top] at lifted
  | up parent _ ih =>
    cases second with
    | here top => simp [top] at parent
    | up parent' rest =>
      rw [parent] at parent'
      cases parent'
      exact ih rest

/-- Resolution reads only the parents and which names each scope binds. -/
theorem Resolves.transfer {h' : Heap} (parents : ∀ r, (h'.scope r).parent = (h.scope r).parent)
    (binds : ∀ r, h'.Binds r name ↔ h.Binds r name) {ref owner : Nat}
    (resolves : h.Resolves name ref owner) : h'.Resolves name ref owner := by
  induction resolves with
  | here bound => exact .here ((binds _).mpr bound)
  | up unbound parent _ ih => exact .up (fun bound => unbound ((binds _).mp bound)) ((parents _).trans parent) ih

/-! ## Lookup -/

/-- A lookup gives the value of the binding the name resolves to. -/
theorem lookup_of_resolves (wf : h.ParentsBefore) {ref owner : Nat} {b : Binding}
    (resolves : h.Resolves name ref owner) (found : (h.scope owner).binding? name = some b) :
    h.lookup ref name = .ok b.value := by
  rw [lookup, (owner?_eq_some_iff wf).mpr resolves]
  simp [found]

/-- A lookup fails when the name resolves to no scope. -/
theorem lookup_of_unresolved (wf : h.ParentsBefore) {ref : Nat}
    (unresolved : ∀ owner, ¬ h.Resolves name ref owner) : h.lookup ref name = .error (undefinedName name) := by
  rw [lookup, (owner?_eq_none_iff wf).mpr unresolved]

/-! ## Declaration -/

section Declaration

variable {ref : Nat} {v : Value} {constant : Bool}

theorem declare_of_binds (bound : h.Binds ref name) :
    h.declare ref name v constant =
      .error (.failure .redeclaration ("Cannot redeclare variable " ++ escapedQuote name)) := by
  rw [declare]
  exact if_pos bound

theorem declare_of_not_binds (unbound : ¬ h.Binds ref name) :
    h.declare ref name v constant =
      .ok { h with
        scopes := h.scopes.set! ref { (h.scope ref) with bindings := (h.scope ref).bindings.push ⟨name, v, constant⟩ } } := by
  rw [declare]
  exact if_neg unbound

theorem declare_eq_ok_iff : (∃ h', h.declare ref name v constant = .ok h') ↔ ¬ h.Binds ref name := by
  by_cases bound : h.Binds ref name
  case pos => simp [declare_of_binds bound, bound]
  case neg => simp [declare_of_not_binds bound, bound]

/-- A declaration changes only the binding of its name in its own scope. -/
theorem Rebinds.of_declare {h' : Heap} (ran : h.declare ref name v constant = .ok h') :
    h.Rebinds h' ref name := by
  have unbound : ¬ h.Binds ref name := declare_eq_ok_iff.mp ⟨h', ran⟩
  rw [declare_of_not_binds unbound] at ran
  cases ran
  refine ⟨rfl, by simp, ?_, ?_, ?_⟩
  · intro r
    rw [scope_setScope]
    split <;> simp_all
  · intro r
    rw [scope_setScope]
    split <;> simp_all
  · intro r n other
    rw [scope_setScope]
    split
    case isTrue same =>
      obtain ⟨rfl, -⟩ := same
      have renamed : n ≠ name := by simpa using other
      simp only [Scope.binding?, Array.find?_push]
      simp [Ne.symm renamed]
    case isFalse => rfl

/-- After a declaration its scope binds the name to the declared value. -/
theorem binding?_of_declare {h' : Heap} (ran : h.declare ref name v constant = .ok h')
    (inside : ref < h.scopes.size) : (h'.scope ref).binding? name = some ⟨name, v, constant⟩ := by
  have unbound : ¬ h.Binds ref name := declare_eq_ok_iff.mp ⟨h', ran⟩
  rw [declare_of_not_binds unbound] at ran
  cases ran
  rw [scope_setScope, if_pos ⟨rfl, inside⟩]
  simp only [Binds, Option.isSome_iff_ne_none, ne_eq, not_not] at unbound
  simp only [Scope.binding?, Array.find?_push] at unbound ⊢
  simp [unbound]

end Declaration

/-! ## Assignment -/


section Assignment

variable {ref : Nat} {v : Value}

/-- An assignment finds a binding to write when the name resolves to a scope
whose binding of it is not constant. -/
def Writable (h : Heap) (name : String) (ref : Nat) : Prop :=
  ∃ owner b, h.Resolves name ref owner ∧ (h.scope owner).binding? name = some b ∧ b.constant = false

/-- An assignment that succeeds rewrites the value of the binding of the
scope `owner?` finds, which is not constant, and nothing else. -/
theorem assign_rebinds {h' : Heap} (ran : h.assign ref name v = .ok h') :
    ∃ owner b, h.owner? ref name = some owner ∧ (h.scope owner).binding? name = some b ∧
      b.constant = false ∧ (h'.scope owner).binding? name = some { b with value := v } ∧
      h.Rebinds h' owner name := by
  unfold assign at ran
  split at ran
  · cases ran
  rename_i owner found
  dsimp only at ran
  split at ran
  · cases ran
  rename_i i first
  have inside := (Array.findIdx?_eq_some_iff_getElem.mp first).1
  have named := (Array.findIdx?_eq_some_iff_getElem.mp first).2.1
  have binding : (h.scope owner).binding? name = some (h.scope owner).bindings[i] := by
    rw [Scope.binding?_of_findIdx? first, Array.getElem?_eq_getElem inside]
  have lookedUp : (h.scope owner).bindings.getD i default = (h.scope owner).bindings[i] := by
    simp [Array.getD_eq_getD_getElem?, Array.getElem?_eq_getElem inside]
  rw [lookedUp] at ran
  split at ran
  · cases ran
  rename_i writable
  cases ran
  have scopeInside : owner < h.scopes.size := lt_of_binding binding
  refine ⟨owner, _, found, binding, by simpa using writable, ?_, rfl, by simp, ?_, ?_, ?_⟩
  · rw [scope_setScope, if_pos ⟨rfl, scopeInside⟩]
    exact Array.find?_set!_of_findIdx? first (by simpa using named)
  · intro r
    rw [scope_setScope]
    split <;> simp_all
  · intro r
    rw [scope_setScope]
    split <;> simp_all
  · intro r n other
    rw [scope_setScope]
    split
    case isTrue same =>
      obtain ⟨rfl, -⟩ := same
      have renamed : n ≠ name := by simpa using other
      exact Scope.binding?_set_of_ne (by simpa using named)
        (by simpa [Array.getElem?_eq_getElem inside] using named) renamed
    case isFalse => rfl

variable (wf : h.ParentsBefore)
include wf

/-- An assignment that succeeds rewrites the value of the binding its name
resolves to, which is not constant, and nothing else. -/
theorem assign_writes {h' : Heap} (ran : h.assign ref name v = .ok h') :
    ∃ owner b, h.Resolves name ref owner ∧ (h.scope owner).binding? name = some b ∧
      b.constant = false ∧ (h'.scope owner).binding? name = some { b with value := v } ∧
      h.Rebinds h' owner name := by
  obtain ⟨owner, b, found, binding, writable, written, rebinds⟩ := assign_rebinds ran
  exact ⟨owner, b, (owner?_eq_some_iff wf).mp found, binding, writable, written, rebinds⟩

/-- An assignment fails exactly when no binding can be written. -/
theorem assign_eq_ok_iff : (∃ h', h.assign ref name v = .ok h') ↔ h.Writable name ref := by
  constructor
  · rintro ⟨h', ran⟩
    obtain ⟨owner, b, resolves, found, writable, -⟩ := assign_writes wf ran
    exact ⟨owner, b, resolves, found, writable⟩
  · rintro ⟨owner, b, resolves, found, writable⟩
    have located : h.owner? ref name = some owner := (owner?_eq_some_iff wf).mpr resolves
    obtain ⟨i, first⟩ : ∃ i, (h.scope owner).bindings.findIdx? (·.name == name) = some i := by
      rw [Scope.binding?, Array.find?_eq_some_iff_getElem] at found
      obtain ⟨named, i, inside, rfl, before⟩ := found
      exact ⟨i, Array.findIdx?_eq_some_iff_getElem.mpr ⟨inside, named, fun j lt => by simpa using before j lt⟩⟩
    have inside := (Array.findIdx?_eq_some_iff_getElem.mp first).1
    have same : (h.scope owner).bindings[i] = b := by
      have := Scope.binding?_of_findIdx? first
      rw [found, Array.getElem?_eq_getElem inside] at this
      exact (Option.some.inj this).symm
    unfold assign
    rw [located]
    dsimp only
    rw [first]
    dsimp only
    have lookedUp : (h.scope owner).bindings.getD i default = b := by
      simp [Array.getD_eq_getD_getElem?, Array.getElem?_eq_getElem inside, same]
    rw [lookedUp, if_neg (by simp [writable])]
    exact ⟨_, rfl⟩

end Assignment

/-! ## Rebinding one name keeps the chains -/

namespace Rebinds

variable {h' : Heap} {ref : Nat}

theorem parentsBefore (rebinds : h.Rebinds h' ref name) (wf : h.ParentsBefore) : h'.ParentsBefore := by
  intro r p parent
  rw [rebinds.parent] at parent
  exact wf r p parent

/-- A scope binds the same names after a rebinding that keeps its name bound. -/
theorem binds_iff (rebinds : h.Rebinds h' ref name) (kept : h'.Binds ref name ↔ h.Binds ref name)
    (r : Nat) (n : String) : h'.Binds r n ↔ h.Binds r n := by
  by_cases same : r = ref ∧ n = name
  case pos =>
    obtain ⟨rfl, rfl⟩ := same
    exact kept
  case neg =>
    simp only [Binds]
    rw [rebinds.others r n (by tauto)]

end Rebinds

/-- After an assignment, every scope from which the name resolves to the
written binding sees the new value. -/
theorem lookup_of_assign {owner : Nat} {v : Value} {b : Binding} {h' : Heap} (wf : h.ParentsBefore)
    (found : (h.scope owner).binding? name = some b) (written : (h'.scope owner).binding? name = some { b with value := v })
    (rebinds : h.Rebinds h' owner name) {e : Nat} (resolves : h.Resolves name e owner) :
    h'.lookup e name = .ok v := by
  have kept : h'.Binds owner name ↔ h.Binds owner name := by simp [Binds, found, written]
  have resolves' := resolves.transfer (fun r => rebinds.parent r) (fun r => rebinds.binds_iff kept r name)
  exact lookup_of_resolves (rebinds.parentsBefore wf) resolves' written

/-! ## Building chains -/

theorem parentsBefore_empty : Heap.empty.ParentsBefore := by
  intro ref p parent
  simp [parent_of_out_of_range (show Heap.empty.scopes.size ≤ ref by simp [Heap.empty])] at parent

/-- A new scope's parent is a scope already allocated. -/
theorem ParentsBefore.allocScope (wf : h.ParentsBefore) {parent : Option Nat}
    (older : ∀ p ∈ parent, p < h.scopes.size) : (h.allocScope parent).2.ParentsBefore := by
  intro r p found
  rw [scope_allocScope] at found
  split at found
  case isTrue new =>
    subst new
    exact older p (by simpa using found)
  case isFalse => exact wf r p found

theorem ParentsBefore.of_declare (wf : h.ParentsBefore) {ref : Nat} {v : Value} {constant : Bool}
    {h' : Heap} (ran : h.declare ref name v constant = .ok h') : h'.ParentsBefore :=
  (Rebinds.of_declare ran).parentsBefore wf

end Heap

/-! ## The store operations of evaluation -/

namespace Interp

open Eval

theorem declare_run (scope : Nat) (name : String) (v : Value) (constant : Bool) (m : Machine) :
    (declare scope name v constant).run m = match m.heap.declare scope name v constant with
      | .ok h => .ok () { m with heap := h }
      | .error sig => .error sig m := by
  cases ran : m.heap.declare scope name v constant with
  | ok h => simp [declare, Eval.heap, orFail, ran]
  | error sig =>
    simp [declare, Eval.heap, orFail, ran]
    rfl

theorem assign_run (scope : Nat) (name : String) (v : Value) (m : Machine) :
    (assign scope name v).run m = match m.heap.assign scope name v with
      | .ok h => .ok () { m with heap := h }
      | .error sig => .error sig m := by
  cases ran : m.heap.assign scope name v with
  | ok h => simp [assign, Eval.heap, orFail, ran]
  | error sig =>
    simp [assign, Eval.heap, orFail, ran]
    rfl

/-- Exporting one name: its value as the root sees it goes into the table of
exports, or the export fails with the machine as it was. -/
theorem exportNames_single_run (scope : Nat) (name : String) (m : Machine) :
    (exportNames scope [name]).run m = match m.heap.lookup (m.heap.root scope) name with
      | .ok v => .ok .nothing (match m.heap.exportsOf scope with
        | some ref => { m with heap := m.heap.objectSet ref (Text.ofString name) v }
        | none => m)
      | .error sig => .error sig m := by
  cases found : m.heap.lookup (m.heap.root scope) name with
  | ok v =>
    cases exported : m.heap.exportsOf scope with
    | some ref => simp [exportNames, Eval.heap, orFail, updateHeap, found, exported]
    | none => simp [exportNames, Eval.heap, orFail, found, exported]
  | error sig =>
    simp [exportNames, Eval.heap, orFail, found]
    rfl

/-- The laws a machine's scopes obey, for one scope, one name and one value. -/
structure StoreLaws (m : Machine) (scope : Nat) (name : String) (v : Value) (constant : Bool) : Prop where
  /-- A declaration succeeds exactly when the scope does not bind the name
  itself. It then binds it there, where a lookup now finds it, and changes no
  other binding of any scope: a binding of the name further up the chain is
  shadowed, not changed. A failed declaration changes nothing. -/
  declare : match (declare scope name v constant).run m with
    | .ok _ m' => ¬ m.heap.Binds scope name ∧
        (m'.heap.scope scope).binding? name = some ⟨name, v, constant⟩ ∧
        m'.heap.lookup scope name = .ok v ∧
        m.heap.Rebinds m'.heap scope name ∧ m' = { m with heap := m'.heap }
    | .error _ m' => m.heap.Binds scope name ∧ m' = m
  /-- An assignment succeeds exactly when the name resolves to a scope whose
  binding of it is not constant. It then rewrites that binding, so that every
  scope from which the name resolves there sees the new value, and changes
  no other binding. A failed assignment changes nothing. -/
  assign : match (assign scope name v).run m with
    | .ok _ m' => ∃ owner b, m.heap.Resolves name scope owner ∧
        (m.heap.scope owner).binding? name = some b ∧ b.constant = false ∧
        (∀ e, m.heap.Resolves name e owner → m'.heap.lookup e name = .ok v) ∧
        m.heap.Rebinds m'.heap owner name ∧ m' = { m with heap := m'.heap }
    | .error _ m' => ¬ m.heap.Writable name scope ∧ m' = m
  /-- Exporting a name writes the value the root of the chain sees into the
  root's table of exports, and changes nothing else; it fails, changing
  nothing, when the name resolves to no scope from the root. -/
  exported : ∀ root table, m.heap.RootOf scope root → (m.heap.scope root).exports = some table →
    match (exportNames scope [name]).run m with
    | .ok _ m' => ∃ owner b, m.heap.Resolves name root owner ∧
        (m.heap.scope owner).binding? name = some b ∧
        m' = { m with heap := m.heap.objectSet table (Text.ofString name) b.value }
    | .error _ m' => (∀ owner, ¬ m.heap.Resolves name root owner) ∧ m' = m

/-- Scope chains obey the laws of a store: for every machine whose scopes come
after their parents, as evaluation allocates them, every scope of it, every
name and every value. -/
theorem scope_chains_obey_store_laws (m : Machine) (wf : m.heap.ParentsBefore) {scope : Nat}
    (inside : scope < m.heap.scopes.size) (name : String) (v : Value) (constant : Bool) :
    StoreLaws m scope name v constant where
  declare := by
    rw [declare_run]
    cases ran : m.heap.declare scope name v constant with
    | ok h' =>
      have rebinds := Heap.Rebinds.of_declare ran
      have bound := Heap.binding?_of_declare ran inside
      have resolves : h'.Resolves name scope scope := .here (by simp [Heap.Binds, bound])
      exact ⟨Heap.declare_eq_ok_iff.mp ⟨h', ran⟩, bound,
        Heap.lookup_of_resolves (rebinds.parentsBefore wf) resolves bound, rebinds, rfl⟩
    | error sig =>
      refine ⟨?_, rfl⟩
      by_contra unbound
      obtain ⟨h', ok⟩ := Heap.declare_eq_ok_iff.mpr unbound
      rw [ran] at ok
      cases ok
  assign := by
    rw [assign_run]
    cases ran : m.heap.assign scope name v with
    | ok h' =>
      obtain ⟨owner, b, resolves, found, writable, written, rebinds⟩ := Heap.assign_writes wf ran
      exact ⟨owner, b, resolves, found, writable, fun _ => Heap.lookup_of_assign wf found written rebinds,
        rebinds, rfl⟩
    | error sig =>
      refine ⟨fun writable => ?_, rfl⟩
      obtain ⟨h', ok⟩ := (Heap.assign_eq_ok_iff wf).mpr writable
      rw [ran] at ok
      cases ok
  exported root table rooted hasTable := by
    -- the walk of `root` ends at the root the chain reaches
    have atRoot : m.heap.root scope = root := (Heap.rootOf_root wf scope).unique rooted
    have exportsOf : m.heap.exportsOf scope = some table := by
      rw [Heap.exportsOf, atRoot, hasTable]
    rw [exportNames_single_run, atRoot, exportsOf]
    by_cases resolved : ∃ owner, m.heap.Resolves name root owner
    case pos =>
      obtain ⟨owner, resolves⟩ := resolved
      obtain ⟨b, found⟩ := Option.isSome_iff_exists.mp resolves.binds
      rw [Heap.lookup_of_resolves wf resolves found]
      exact ⟨owner, b, resolves, found, rfl⟩
    case neg =>
      simp only [not_exists] at resolved
      rw [Heap.lookup_of_unresolved wf resolved]
      exact ⟨resolved, rfl⟩

/-- A root scope with a child: the child is a scope of a chain built as
evaluation builds them, so the laws hold for it. -/
theorem child_scope_obeys_store_laws :
    let m : Machine := { (default : Machine) with heap := ((Heap.empty.allocScope none).2.allocScope (some 0)).2 }
    m.heap.ParentsBefore ∧ 1 < m.heap.scopes.size ∧ StoreLaws m 1 "x" .null false :=
  have wf : ((Heap.empty.allocScope none).2.allocScope (some 0)).2.ParentsBefore :=
    (Heap.parentsBefore_empty.allocScope (by simp)).allocScope (by simp [Heap.allocScope, Heap.allocObject, Heap.empty])
  ⟨wf, by decide, scope_chains_obey_store_laws _ wf (by decide) "x" .null false⟩

end Interp

end Vernacular
