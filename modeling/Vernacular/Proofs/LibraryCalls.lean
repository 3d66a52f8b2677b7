import Vernacular.Proofs.HeapRegions
import Vernacular.Proofs.QuietNatives
/-!
# What a call of the library can do

Every native function the dispatcher runs changes the machine only as a
library call may (`Machine.LibraryEffect`), it keeps closed a region of the
heap it was handed closed, and it stops only with a signal of
`Signal.FromLibrary`: a thrown value that holds no reference, a host failure,
a stop of the program, or the call of a bound method, which is not a function.

The region is given by a mark: when the arguments, the native and the calling
scope hold no cell older than the mark, neither does the result, and the cells
allocated since the mark still refer only among themselves. With the origin
for mark this says nothing about the cells and gives the effect alone.

Each helper of the library gets its triple, proved by `mvcgen` from the
triples of the helpers it calls; the triples are local to this module, so
that later proofs about the evaluator choose their own.
-/

set_option autoImplicit false
set_option mvcgen.warning false

open Std.Do

namespace Vernacular

/-- The signals a native function stops with. -/
def Signal.FromLibrary : Signal → Prop
  | .thrown v => v.Plain
  | .host _ | .panicked _ => True
  | .fault f => f.kind = .notCallable
  | _ => False

/-- The machine `m` is reached from `m₀` by what a library call may change,
and the cells allocated since the mark `k` form a closed region of its heap. -/
def Machine.AfterLibrary (k : Heap.Mark) (m₀ m : Machine) : Prop :=
  m₀.LibraryEffect m ∧ k.Closed m.heap

namespace Machine.AfterLibrary

variable {k : Heap.Mark} {m₀ m m' : Machine}

@[grind →] theorem trans (first : m₀.AfterLibrary k m) (second : m.AfterLibrary k m') :
    m₀.AfterLibrary k m' :=
  ⟨first.1.trans second.1, second.2⟩

@[grind →] theorem stay (reached : m₀.AfterLibrary k m) : m.AfterLibrary k m :=
  ⟨LibraryEffect.refl m, reached.2⟩

@[grind →] theorem closed (after : m₀.AfterLibrary k m) : k.Closed m.heap := after.2

/-- A change outside the heap, the import stack and the dialects. -/
theorem of_heap (after : m₀.AfterLibrary k m) (heap : m'.heap = m.heap)
    (importing : m'.importing = m.importing) (registry : m'.registry = m.registry)
    (dialect : m'.dialect = m.dialect) (builtin : m'.builtin = m.builtin) :
    m₀.AfterLibrary k m' :=
  ⟨after.1.trans (LibraryEffect.of_heap heap importing registry dialect builtin), heap ▸ after.2⟩

end Machine.AfterLibrary

/-- The mark whose region a proof about library calls follows. It is fixed
for a whole proof, so it is passed as an instance: the triples below find it
by instance resolution, where a plain argument would be left for every
verification condition to guess. -/
class Heap.Region where
  mark : Heap.Mark

/-- The triple of a computation run by a native function: from a machine
reached from `m₀` with the region closed, when `pre` holds, it ends with a
result satisfying `fresh`, or with a signal of the library, on a machine
reached from `m₀` with the region still closed. -/
abbrev Eval.InLibrary [r : Heap.Region] {α : Type} (m₀ : Machine) (pre : Prop) (fresh : α → Prop)
    (x : Eval α) : Prop :=
  ⦃fun m => ⌜pre ∧ m₀.AfterLibrary r.mark m⌝⦄ x
  ⦃post⟨fun a m => ⌜fresh a ∧ m₀.AfterLibrary r.mark m⌝,
    fun sig m => ⌜sig.FromLibrary ∧ m₀.AfterLibrary r.mark m⌝⟩⦄

/-- A triple of the library read as a fact about one run. -/
theorem Eval.InLibrary.run [r : Heap.Region] {α : Type} {m₀ : Machine} {pre : Prop} {fresh : α → Prop}
    {x : Eval α} (spec : InLibrary m₀ pre fresh x) {m : Machine} (given : pre)
    (after : m₀.AfterLibrary r.mark m) :
    match x.run m with
    | .ok a m' => fresh a ∧ m₀.AfterLibrary r.mark m'
    | .error sig m' => sig.FromLibrary ∧ m₀.AfterLibrary r.mark m' := by
  have ran := spec m ⟨given, after⟩
  simp only [wp, PredTrans.apply] at ran
  cases result : x.run m with
  | ok a m' => simpa [result] using ran
  | error sig m' => simpa [result] using ran

/-- The arguments of a call hold no cell older than the mark. -/
def Heap.Mark.FreshArgs (k : Heap.Mark) (args : List Value) : Prop := ∀ v ∈ args, k.Fresh v

namespace Heap.Mark.FreshArgs

variable {k : Heap.Mark} {args : List Value}

theorem argAt (fresh : k.FreshArgs args) (i : Nat) : k.Fresh (Vernacular.argAt args i) := by
  unfold Vernacular.argAt
  rw [List.getD_eq_getElem?_getD]
  cases found : args[i]? with
  | none => trivial
  | some v => exact fresh v (List.mem_of_getElem? found)

theorem array_since (fresh : k.FreshArgs args) {i ref : Nat}
    (arg : Vernacular.argAt args i = .array ref) : k.arrays ≤ ref := by
  have := fresh.argAt i
  rwa [arg] at this

theorem drop (fresh : k.FreshArgs args) (n : Nat) : k.FreshArgs (args.drop n) :=
  fun v member => fresh v (List.mem_of_mem_drop member)

end Heap.Mark.FreshArgs

theorem Array.mem_of_mem_pop {α : Type} {xs : Array α} {a : α} (member : a ∈ xs.pop) : a ∈ xs := by
  rw [← Array.mem_toList_iff, Array.toList_pop] at member
  exact Array.mem_toList_iff.mp (List.mem_of_mem_dropLast member)

/-! What a closed region gives of the elements of its arrays. -/

namespace Heap.Mark.Closed

variable {k : Heap.Mark} {h : Heap} {ref : Nat}

theorem back_fresh (closed : k.Closed h) (since : k.arrays ≤ ref) {v : Value}
    (found : (h.elements ref).back? = some v) : k.Fresh v :=
  closed.arrays ref since v (Array.mem_of_back? found)

theorem pop_fresh (closed : k.Closed h) (since : k.arrays ≤ ref) :
    ∀ v ∈ (h.elements ref).pop, k.Fresh v :=
  fun v member => closed.arrays ref since v (Array.mem_of_mem_pop member)

theorem append_fresh (closed : k.Closed h) (since : k.arrays ≤ ref) {extra : List Value}
    (fresh : k.FreshArgs extra) : ∀ v ∈ h.elements ref ++ extra.toArray, k.Fresh v := by
  intro v member
  rcases Array.mem_append.mp member with old | added
  · exact closed.arrays ref since v old
  · exact fresh v (List.mem_toArray.mp added)

end Heap.Mark.Closed

/-- An object built from entries holds only entries it was given, or that it
started with: each key's last write replaces the first in place. -/
theorem Eval.newObject_entries_mem {entries : List (Text × Value)} {acc : Array (Text × Value)}
    {e : Text × Value}
    (member : e ∈ entries.foldl (fun acc (k, v) =>
      match acc.findIdx? (·.1 == k) with
      | some i => acc.set! i (k, v)
      | none => acc.push (k, v)) acc) : e ∈ acc ∨ e ∈ entries := by
  induction entries generalizing acc with
  | nil => exact .inl member
  | cons kv rest ih =>
    rcases ih member with written | later
    · -- an entry after one step is an older one or the entry written
      obtain ⟨key, v⟩ := kv
      dsimp only at written
      split at written
      · rcases Array.mem_or_eq_of_mem_setIfInBounds written with old | new
        · exact .inl old
        · exact .inr (new ▸ List.mem_cons_self)
      · rcases Array.mem_push.mp written with old | new
        · exact .inl old
        · exact .inr (new ▸ List.mem_cons_self)
    · exact .inr (List.mem_cons_of_mem _ later)

section Primitives

variable [r : Heap.Region] {m₀ : Machine}

open Eval

/-- Reading the heap gives the heap of the machine. -/
theorem heap_inLibrary :
    ⦃fun m => ⌜True ∧ m₀.AfterLibrary r.mark m⌝⦄ heap
    ⦃post⟨fun h m => ⌜h = m.heap ∧ m₀.AfterLibrary r.mark m⌝,
      fun sig m => ⌜sig.FromLibrary ∧ m₀.AfterLibrary r.mark m⌝⟩⦄ := by
  mvcgen [heap]
  grind

/-- Replacing the elements of an array, fresh ones when the array is. -/
theorem setElements_inLibrary (ref : Nat) (els : Array Value) :
    InLibrary m₀ (r.mark.arrays ≤ ref → ∀ v ∈ els, r.mark.Fresh v) (fun _ => True)
      (updateHeap (·.setElements ref els)) := by
  mvcgen [updateHeap]
  rename_i m start _
  obtain ⟨fresh, effect, closed⟩ := start
  exact ⟨trivial, effect.trans (.setElements m ref els), closed.setElements fresh⟩

theorem text_inLibrary (v : Value) : InLibrary m₀ True (fun _ => True) (text v) := by
  mvcgen [text, heap]

theorem describe_inLibrary (v : Value) : InLibrary m₀ True (fun _ => True) (describe v) := by
  mvcgen [describe, heap]

theorem writeOut_inLibrary (t : Text) : InLibrary m₀ True (fun _ => True) (writeOut t) := by
  mvcgen [writeOut]
  grind [Machine.AfterLibrary.of_heap]

theorem throwMessage_inLibrary {α : Type} (message : String) :
    InLibrary m₀ True (fun (_ : α) => False) (throwMessage message) := by
  mvcgen [throwMessage, throwText]

theorem newArray_inLibrary (els : Array Value) :
    InLibrary m₀ (∀ v ∈ els, r.mark.Fresh v) r.mark.Fresh (newArray els) := by
  mvcgen [newArray, onHeap]
  rename_i m start _
  obtain ⟨fresh, effect, closed⟩ := start
  exact ⟨(closed.allocArray fresh).1, effect.trans (.allocArray m els), (closed.allocArray fresh).2⟩

theorem newObject_inLibrary (entries : List (Text × Value)) (frozen : Bool) :
    InLibrary m₀ (∀ e ∈ entries, r.mark.Fresh e.2) r.mark.Fresh (newObject entries frozen) := by
  mvcgen [newObject, onHeap]
  rename_i m start _
  obtain ⟨fresh, effect, closed⟩ := start
  -- the cell keeps only entries it was given, so they are fresh
  have cell : ∀ e ∈ (⟨entries.foldl (fun acc (k, v) =>
      match acc.findIdx? (·.1 == k) with
      | some i => acc.set! i (k, v)
      | none => acc.push (k, v)) #[], frozen⟩ : ObjectCell).entries, r.mark.Fresh e.2 := fun e member =>
    (newObject_entries_mem member).elim (fun none => absurd none (by simp)) (fresh e)
  exact ⟨(closed.allocObject cell).1, effect.trans (.allocObject m _), (closed.allocObject cell).2⟩

theorem newNative_inLibrary (n : Native) :
    InLibrary m₀ (r.mark.FreshNative n) r.mark.Fresh (newNative n) := by
  mvcgen [newNative, onHeap]
  rename_i m start _
  obtain ⟨fresh, effect, closed⟩ := start
  exact ⟨(closed.allocNative fresh).1, effect.trans (.allocNative m n), (closed.allocNative fresh).2⟩

theorem requireArgs_inLibrary (name : String) (args : List Value) (count : Nat) :
    InLibrary m₀ True (fun _ => True) (requireArgs name args count) := by
  mvcgen [requireArgs, throwMessage, throwText]

theorem stringArg_inLibrary (name : String) (args : List Value) (i : Nat) :
    InLibrary m₀ True (fun _ => True) (stringArg name args i) := by
  mvcgen [stringArg, throwMessage, throwText]

theorem numberArg_inLibrary (name : String) (args : List Value) (i : Nat) :
    InLibrary m₀ True (fun _ => True) (numberArg name args i) := by
  mvcgen [numberArg, throwMessage, throwText]

theorem arrayArg_inLibrary (name : String) (args : List Value) :
    InLibrary m₀ (r.mark.FreshArgs args) (fun ref => r.mark.arrays ≤ ref)
      (Library.arrayArg name args) := by
  mvcgen [Library.arrayArg, throwMessage, throwText]
  · rename_i ref arg m start
    exact ⟨start.1.array_since arg, start.2⟩
  · rename_i m start
    exact ⟨trivial, start.2⟩

/-- Running a library computation on each element of a list: every result is fresh. -/
theorem mapM_inLibrary {α β : Type} (f : α → Eval β) (fresh : β → Prop)
    (each : ∀ a, InLibrary m₀ True fresh (f a)) (xs : List α) :
    InLibrary m₀ True (fun bs => ∀ b ∈ bs, fresh b) (xs.mapM f) := by
  induction xs with
  | nil =>
    rw [List.mapM_nil]
    mvcgen
    grind
  | cons x xs ih =>
    rw [List.mapM_cons]
    mvcgen [each, ih]
    all_goals grind

end Primitives

attribute [local spec] heap_inLibrary setElements_inLibrary text_inLibrary describe_inLibrary writeOut_inLibrary
  throwMessage_inLibrary newArray_inLibrary newObject_inLibrary newNative_inLibrary
  requireArgs_inLibrary stringArg_inLibrary numberArg_inLibrary arrayArg_inLibrary

section Json

variable [r : Heap.Region] {m₀ : Machine}

open Eval

/-- A value read from JSON is built of new arrays and objects only. -/
theorem ofJson_inLibrary (fuel : Nat) (tree : JsonTree) :
    InLibrary m₀ True r.mark.Fresh (ofJson fuel tree) := by
  induction fuel generalizing tree with
  | zero => mvcgen [ofJson]
  | succ fuel ih =>
    cases tree with
    | array elements =>
      have values := mapM_inLibrary _ _ ih elements
      mvcgen [ofJson, values]
      all_goals grind
    | object entries =>
      have members := mapM_inLibrary (fun (entry : Text × JsonTree) => do
        return (entry.1, ← ofJson fuel entry.2)) (fun e => r.mark.Fresh e.2)
        (fun entry => by mvcgen [ih]) entries
      mvcgen [ofJson, members]
    | _ => mvcgen [ofJson]

theorem decodeJson_inLibrary (t : Text) :
    InLibrary m₀ True (fun result => ∀ v, result = .ok v → r.mark.Fresh v) (decodeJson t) := by
  have trees : ∀ tree, InLibrary m₀ True r.mark.Fresh (ofJson (t.size + 2) tree) :=
    ofJson_inLibrary (t.size + 2)
  mvcgen [decodeJson, trees]
  all_goals grind

end Json

attribute [local spec] decodeJson_inLibrary

namespace Library

variable [r : Heap.Region] {m₀ : Machine}

open Eval

/-! ## The natives -/

theorem print_inLibrary (args : List Value) : InLibrary m₀ True r.mark.Fresh (print args) := by
  mvcgen [print]
  all_goals grind [Heap.Mark.Fresh]

@[local spec] theorem readLine_inLibrary (reader : Nat) :
    InLibrary m₀ True (fun _ => True) (readLine reader) := by
  mvcgen [readLine]
  grind [Machine.AfterLibrary.of_heap]

theorem input_inLibrary (reader : Nat) (args : List Value) :
    InLibrary m₀ True r.mark.Fresh (input reader args) := by
  mvcgen [input]
  all_goals grind [Heap.Mark.Fresh]

theorem format_inLibrary (args : List Value) : InLibrary m₀ True r.mark.Fresh (format args) := by
  mvcgen [format]
  all_goals grind [Heap.Mark.Fresh]

theorem typeOf_inLibrary (args : List Value) : InLibrary m₀ True r.mark.Fresh (typeOf args) := by
  mvcgen [typeOf]
  all_goals grind [Heap.Mark.Fresh]

theorem length_inLibrary (args : List Value) : InLibrary m₀ True r.mark.Fresh (length args) := by
  mvcgen [length]
  all_goals grind [Heap.Mark.Fresh]

theorem stringMethod_inLibrary (m : StringMethod) (args : List Value) :
    InLibrary m₀ True r.mark.Fresh (stringMethod m args) := by
  cases m <;> mvcgen [stringMethod]
  all_goals grind [Heap.Mark.Fresh]

theorem arrayMethod_inLibrary (m : ArrayMethod) (args : List Value) :
    InLibrary m₀ (r.mark.FreshArgs args) r.mark.Fresh (arrayMethod m args) := by
  cases m <;> mvcgen [arrayMethod]
  all_goals grind [Heap.Mark.Fresh, Heap.Mark.Closed.back_fresh, Heap.Mark.Closed.pop_fresh,
    Heap.Mark.Closed.append_fresh, Heap.Mark.FreshArgs.drop]

theorem codeToStr_inLibrary (args : List Value) :
    InLibrary m₀ True r.mark.Fresh (codeToStr args) := by
  mvcgen [codeToStr]
  all_goals grind [Heap.Mark.Fresh]

theorem math_inLibrary (fn : MathFn) (args : List Value) :
    InLibrary m₀ True r.mark.Fresh (math fn args) := by
  mvcgen [math]
  all_goals grind [Heap.Mark.Fresh]

theorem random_inLibrary : InLibrary m₀ True r.mark.Fresh random := by
  mvcgen -trivial [random]
  all_goals grind [Heap.Mark.Fresh, Machine.AfterLibrary.of_heap]

theorem jsonParse_inLibrary (args : List Value) :
    InLibrary m₀ True r.mark.Fresh (jsonParse args) := by
  mvcgen [jsonParse]
  all_goals grind

theorem jsonStringify_inLibrary (args : List Value) :
    InLibrary m₀ True r.mark.Fresh (jsonStringify args) := by
  unfold jsonStringify
  -- `mvcgen` does not split the test for a NaN indent, which matches on the argument
  cases second : argAt args 1 with
  | number x => cases nan : x.isNaN <;> simp only [nan] <;> mvcgen <;> grind [Heap.Mark.Fresh, Signal.FromLibrary]
  | _ => mvcgen <;> grind [Heap.Mark.Fresh]

theorem numberFormat_inLibrary (args : List Value) :
    InLibrary m₀ True r.mark.Fresh (numberFormat args) := by
  mvcgen [numberFormat]
  all_goals grind [Heap.Mark.Fresh]

theorem now_inLibrary : InLibrary m₀ True r.mark.Fresh now := by
  mvcgen [now]

-- Checking a term whose type mentions `dateObject ms` makes Lean unfold it into
-- the calendar arithmetic; it is opened by its equation only.
attribute [local irreducible] dateObject

@[local spec] theorem dateObject_inLibrary (ms : Int) :
    InLibrary m₀ True r.mark.Fresh (dateObject ms) := by
  have constants : ∀ fields : List (String × Float),
      InLibrary m₀ True (fun cs => ∀ c ∈ cs, r.mark.Fresh c.2) (fields.mapM fun field => do
        return (Text.ofString field.1, ← newNative (.constant (.number field.2)))) :=
    mapM_inLibrary _ _ fun field => by mvcgen
  unfold dateObject
  -- keep the calendar fields opaque: unfolding `CivilTime.ofMillis` blows up
  generalize CivilTime.ofMillis ms = t
  mvcgen [constants]
  all_goals grind [Heap.Mark.FreshNative]

@[local spec] theorem dateInstant_inLibrary (args : List Value) :
    InLibrary m₀ True (fun _ => True) (dateInstant args) := by
  mvcgen [dateInstant]
  all_goals grind

theorem date_inLibrary (args : List Value) : InLibrary m₀ True r.mark.Fresh (date args) := by
  mvcgen [date]
  all_goals grind

theorem dateFormat_inLibrary (ms : Int) (args : List Value) :
    InLibrary m₀ True r.mark.Fresh (dateFormat ms args) := by
  mvcgen [dateFormat]
  all_goals grind [Heap.Mark.Fresh]

@[local spec] theorem workVolume_inLibrary : InLibrary m₀ True (fun _ => True) workVolume := by
  mvcgen [workVolume]
  all_goals grind

@[local spec] theorem setWork_inLibrary (change : Volume × Disk) :
    InLibrary m₀ True (fun _ => True) (setWork change) := by
  mvcgen [setWork]
  all_goals grind [Machine.AfterLibrary.of_heap]

@[local spec] theorem fileResult_inLibrary {α : Type} (name : String) (result : Except FileError α) :
    InLibrary m₀ True (fun a => result = .ok a) (fileResult name result) := by
  cases result <;> mvcgen [fileResult] <;> grind

@[local spec] theorem statObject_inLibrary (info : FileInfo) :
    InLibrary m₀ True r.mark.Fresh (statObject info) := by
  mvcgen [statObject]
  all_goals grind [Heap.Mark.Fresh, Heap.Mark.FreshNative]

theorem fileOp_inLibrary (op : FileOp) (args : List Value) :
    InLibrary m₀ True r.mark.Fresh (fileOp op args) := by
  cases op <;> mvcgen [fileOp]
  all_goals grind [Heap.Mark.Fresh]

theorem server_inLibrary (args : List Value) (scope : Nat) :
    InLibrary m₀ (r.mark.FreshArgs args ∧ r.mark.scopes ≤ scope) r.mark.Fresh (server args scope) := by
  mvcgen [server]
  all_goals grind [Heap.Mark.Fresh, Heap.Mark.FreshNative, Heap.Mark.FreshArgs.argAt]

theorem listen_inLibrary (args : List Value) : InLibrary m₀ True r.mark.Fresh (listen args) := by
  mvcgen [listen]
  all_goals grind [Heap.Mark.Fresh]

@[local spec] theorem response_inLibrary (ref : Nat) :
    InLibrary m₀ True (fun _ => True) (response ref) := by
  mvcgen [response]

@[local spec] theorem updateResponse_inLibrary (ref : Nat) (f : Response → Response) :
    InLibrary m₀ True (fun _ => True) (updateResponse ref f) := by
  mvcgen [updateResponse]
  all_goals grind [Machine.AfterLibrary.of_heap]

theorem responseAction_inLibrary (ref : Nat) (action : ResponseAction) (args : List Value) :
    InLibrary m₀ True r.mark.Fresh (responseAction ref action args) := by
  cases action <;> mvcgen [responseAction]
  all_goals grind [Heap.Mark.Fresh, Signal.FromLibrary]

/-- Every native the dispatcher runs is a call of the library. Called with
arguments, a native and a scope of the region, it answers a value of the
region. -/
theorem invoke_inLibrary (n : Native) (args : List Value) (scope : Nat) :
    InLibrary m₀ (r.mark.FreshNative n ∧ r.mark.FreshArgs args ∧ r.mark.scopes ≤ scope) r.mark.Fresh
      (invoke n args scope) := by
  cases n
  all_goals mvcgen [invoke, print_inLibrary, input_inLibrary, format_inLibrary, typeOf_inLibrary,
    length_inLibrary, stringMethod_inLibrary, arrayMethod_inLibrary, codeToStr_inLibrary,
    math_inLibrary, random_inLibrary, jsonParse_inLibrary, jsonStringify_inLibrary,
    numberFormat_inLibrary, now_inLibrary, date_inLibrary, dateFormat_inLibrary, fileOp_inLibrary,
    server_inLibrary, listen_inLibrary, responseAction_inLibrary]
  all_goals grind [Heap.Mark.FreshNative, Signal.FromLibrary]

end Library

namespace Library

open Eval

/-- A native changes the machine only as a call of the library may, and stops
only with a signal of the library. -/
theorem invoke_effect (n : Native) (args : List Value) (scope : Nat) (m : Machine) :
    match (invoke n args scope).run m with
    | .ok _ m' => m.LibraryEffect m'
    | .error sig m' => sig.FromLibrary ∧ m.LibraryEffect m' := by
  -- from the origin every value is fresh and every heap closed
  let _ : Heap.Region := ⟨Heap.Mark.origin⟩
  have spec : InLibrary m _ Heap.Mark.origin.Fresh (invoke n args scope) :=
    invoke_inLibrary n args scope
  have ran := spec.run ⟨Heap.Mark.origin_freshNative n, fun v _ => Heap.Mark.origin_fresh v,
    Nat.zero_le scope⟩ ⟨.refl m, Heap.Mark.origin_closed m.heap⟩
  cases result : (invoke n args scope).run m with
  | ok a m' =>
    rw [result] at ran
    exact ran.2.1
  | error sig m' =>
    rw [result] at ran
    exact ⟨ran.1, ran.2.1⟩

end Library

end Vernacular
