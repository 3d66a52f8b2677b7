import Mathlib
import Vernacular.Proofs.Members
/-!
# Objects keep their keys in order of arrival

An object is one array of entries: its key list is the first component of each
entry, and the value under a key is the second component of the first entry
that holds the key. The two views can only disagree when a key is listed
twice, so the representation invariant is that the keys have no repeats
(`KeysExact`): then the keys are exactly the keys with a value, and the object
has as many entries as distinct keys.

Writing a key keeps the invariant (a listed key is rewritten in place, a new
one appended), and so does deleting one (the gap closes) and copying (the copy
writes the entries in order into a new object). A history of these operations
(`Edit`, `replay`) therefore builds only objects with distinct keys, listed in
the order they arrived: a key present at some point of the history and never
deleted after it comes before every key that arrived later. A copy of such an
object has the same entries in the same order and can be written. The
interpreter builds its objects in the same way (`Eval.newObject_eq_ofList`);
an imported namespace is a frozen copy of the exports.
-/

set_option autoImplicit false

namespace Vernacular

/-- Dropping an element the search skips does not change what it finds. -/
theorem List.find?_eraseIdx_of_not {α : Type} {p : α → Bool} {l : List α} {i : Nat}
    (inside : i < l.length) (skipped : ¬ p l[i] = true) : (l.eraseIdx i).find? p = l.find? p := by
  conv_rhs => rw [← List.take_append_drop i l, List.drop_eq_getElem_cons inside]
  rw [List.eraseIdx_eq_take_drop_succ, List.find?_append, List.find?_append,
    List.find?_cons_of_neg skipped]

namespace ObjectCell

/-! ## Keys and the entries they name -/

section Laws

variable (o : ObjectCell) (key : Text) (v : Value)

theorem findIdx?_entries (p : Text × Value → Bool) :
    o.entries.findIdx? p = o.entries.toList.findIdx? p := by
  rw [← List.findIdx?_toArray, Array.toArray_toList]

/-- The keys with a value are exactly the listed keys. -/
theorem get?_isSome_iff {k : Text} : (o.get? k).isSome ↔ k ∈ o.keys := by
  simp [get?, keys, Array.find?_isSome]

theorem get?_eq_none_iff {k : Text} : o.get? k = none ↔ k ∉ o.keys := by
  rw [← get?_isSome_iff, Option.not_isSome_iff_eq_none]

@[simp] theorem keys_push (e : Text × Value) :
    ({ o with entries := o.entries.push e } : ObjectCell).keys = o.keys ++ [e.1] := by
  simp [keys]

theorem set_of_not_mem (absent : key ∉ o.keys) :
    o.set key v = { o with entries := o.entries.push (key, v) } := by
  have missing : o.entries.findIdx? (·.1 == key) = none :=
    Option.not_isSome_iff_eq_none.mp ((mem_keys_iff o key).not.mp absent)
  simp only [set, missing]

/-- Deleting a key removes it from the keys, the others keeping their order. -/
theorem keys_erase : (o.erase key).keys = o.keys.erase key := by
  have found : o.keys.idxOf? key = o.entries.findIdx? (·.1 == key) := by
    rw [findIdx?_entries, keys, List.idxOf?, List.findIdx?_map]
    rfl
  rw [List.erase_eq_eraseIdx, found]
  unfold erase
  split
  case h_1 i first =>
    rw [first]
    simp [keys, Array.toList_eraseIdxIfInBounds, List.eraseIdx_map]
  case h_2 missing => rw [missing]

/-- Deleting a key leaves the value under every other key. -/
theorem get?_erase_of_ne {other : Text} (different : other ≠ key) :
    (o.erase key).get? other = o.get? other := by
  unfold erase
  split
  case h_1 i first =>
    obtain ⟨inside, named, -⟩ := Array.findIdx?_eq_some_iff_getElem.mp first
    have skipped : ¬ (o.entries.toList[i].1 == other) = true := by
      simp only [beq_iff_eq] at named
      simpa [named] using Ne.symm different
    simp only [get?, ← Array.find?_toList, Array.toList_eraseIdxIfInBounds]
    rw [List.find?_eraseIdx_of_not (by simpa using inside) skipped]
  case h_2 => rfl

/-- With no key listed twice, a deleted key has no value left. -/
theorem get?_erase_self (nodup : o.keys.Nodup) : (o.erase key).get? key = none := by
  rw [get?_eq_none_iff, keys_erase]
  exact nodup.not_mem_erase

@[simp] theorem frozen_erase : (o.erase key).frozen = o.frozen := by
  unfold erase
  split <;> rfl

/-! ## No key is listed twice -/

theorem nodup_set (nodup : o.keys.Nodup) : (o.set key v).keys.Nodup := by
  rw [keys_set]
  split
  case isTrue => exact nodup
  case isFalse absent => exact List.concat_eq_append ▸ nodup.concat absent

theorem nodup_erase (nodup : o.keys.Nodup) : (o.erase key).keys.Nodup :=
  keys_erase o key ▸ nodup.erase key

end Laws

/-- Writing entries in turn keeps the keys free of repeats. -/
theorem nodup_foldl_set {o : ObjectCell} (nodup : o.keys.Nodup) (es : List (Text × Value)) :
    (es.foldl (fun o e => o.set e.1 e.2) o).keys.Nodup := by
  induction es generalizing o with
  | nil => exact nodup
  | cons e es ih => exact ih (nodup_set o e.1 e.2 nodup)

theorem nodup_ofList (es : List (Text × Value)) : (ofList es).keys.Nodup :=
  @nodup_foldl_set empty List.nodup_nil es

/-- Entries with distinct keys, none of them already present, are appended as
they are. -/
theorem foldl_set_of_nodup {o : ObjectCell} (es : List (Text × Value))
    (nodup : (o.keys ++ es.map (·.1)).Nodup) :
    es.foldl (fun o e => o.set e.1 e.2) o = { o with entries := o.entries ++ es.toArray } := by
  induction es generalizing o with
  | nil => simp
  | cons e es ih =>
    have absent : e.1 ∉ o.keys := by
      intro present
      exact (List.nodup_append.mp nodup).2.2 e.1 present e.1 (by simp) rfl
    rw [List.foldl_cons, set_of_not_mem o e.1 e.2 absent, ih]
    · simp
    · simpa using nodup

/-- Entries with distinct keys make the object that holds exactly them. -/
theorem ofList_of_nodup (es : List (Text × Value)) (nodup : (es.map (·.1)).Nodup) :
    ofList es = ⟨es.toArray, false⟩ := by
  unfold ofList
  rw [foldl_set_of_nodup es (by simpa [empty, keys] using nodup)]
  simp [empty]

/-- A copy of an object with distinct keys has its entries in the same order,
and is writable. -/
theorem copy_of_nodup {o : ObjectCell} (nodup : o.keys.Nodup) :
    o.copy = { o with frozen := false } := by
  unfold copy
  rw [ofList_of_nodup _ nodup]

/-- The representation invariant of an object: its key list repeats no key,
lists exactly the keys that have a value, and is as long as the object has
entries. -/
structure KeysExact (o : ObjectCell) : Prop where
  nodup : o.keys.Nodup
  domain : ∀ k, k ∈ o.keys ↔ (o.get? k).isSome
  size : o.entries.size = o.keys.toFinset.card

/-- Only repeats can break the invariant: the rest holds of every object. -/
theorem KeysExact.of_nodup {o : ObjectCell} (nodup : o.keys.Nodup) : o.KeysExact where
  nodup := nodup
  domain _ := (get?_isSome_iff o).symm
  size := by rw [List.toFinset_card_of_nodup nodup, keys, List.length_map, Array.length_toList]

/-! ## Histories -/

/-- One operation on an object. -/
inductive Edit where
  | set (key : Text) (v : Value)
  | erase (key : Text)
  | copy
  | freeze

/-- Apply an operation; after a copy, the history goes on with the copy. -/
def edit (o : ObjectCell) : Edit → ObjectCell
  | .set key v => o.set key v
  | .erase key => o.erase key
  | .copy => o.copy
  | .freeze => { o with frozen := true }

/-- The object a history of operations makes of a new one. -/
def replay (h : List Edit) : ObjectCell := h.foldl edit empty

theorem nodup_edit {o : ObjectCell} (nodup : o.keys.Nodup) : ∀ e, (o.edit e).keys.Nodup
  | .set key v => nodup_set o key v nodup
  | .erase key => nodup_erase o key nodup
  | .copy => nodup_ofList _
  | .freeze => nodup

theorem nodup_foldl_edit {o : ObjectCell} (nodup : o.keys.Nodup) (h : List Edit) :
    (h.foldl edit o).keys.Nodup := by
  induction h generalizing o with
  | nil => exact nodup
  | cons e h ih => exact ih (nodup_edit nodup e)

/-- No history makes an object that lists a key twice. -/
theorem nodup_replay (h : List Edit) : (replay h).keys.Nodup :=
  @nodup_foldl_edit empty List.nodup_nil h

/-- `a` is a key of `o`, and `b`, if it is one, is listed after it. -/
def ListedBefore (a b : Text) (o : ObjectCell) : Prop :=
  a ∈ o.keys ∧ (b ∈ o.keys → [a, b].Sublist o.keys)

/-- An operation that does not delete `a` keeps `a` listed before `b`: a write
of a listed key keeps the keys, a new key goes last, a deletion closes a gap. -/
theorem ListedBefore.edit {a b : Text} {o : ObjectCell} (nodup : o.keys.Nodup)
    (listed : ListedBefore a b o) : ∀ e, e ≠ .erase a → ListedBefore a b (o.edit e)
  | .set key v, _ => by
    obtain ⟨present, before⟩ := listed
    unfold ListedBefore ObjectCell.edit
    rw [keys_set]
    split
    case isTrue => exact ⟨present, before⟩
    case isFalse absent =>
      refine ⟨List.mem_append_left _ present, fun arrived => ?_⟩
      rcases List.mem_append.mp arrived with old | new
      · exact (before old).trans (List.sublist_append_left _ _)
      · -- `b` is the key just appended, after every listed one
        obtain rfl := List.mem_singleton.mp new
        exact (List.singleton_sublist.mpr present).append (List.Sublist.refl [b])
  | .erase key, kept => by
    have kept : a ≠ key := fun same => kept (same ▸ rfl)
    obtain ⟨present, before⟩ := listed
    unfold ListedBefore ObjectCell.edit
    rw [keys_erase]
    refine ⟨(List.mem_erase_of_ne kept).mpr present, fun remains => ?_⟩
    -- the keys are distinct, so `b` survived the deletion only if it is not the key deleted
    have other : b ≠ key := fun same => nodup.not_mem_erase (same ▸ remains)
    have closed := (before ((List.mem_erase_of_ne other).mp remains)).erase key
    rwa [List.erase_of_not_mem (by simp [Ne.symm kept, Ne.symm other])] at closed
  | .copy, _ => by
    unfold ObjectCell.edit
    rw [copy_of_nodup nodup]
    exact listed
  | .freeze, _ => listed

theorem ListedBefore.foldl {a b : Text} {o : ObjectCell} (nodup : o.keys.Nodup)
    (listed : ListedBefore a b o) (h : List Edit) (kept : ∀ e ∈ h, e ≠ .erase a) :
    ListedBefore a b (h.foldl ObjectCell.edit o) := by
  induction h generalizing o with
  | nil => exact listed
  | cons e h ih =>
    exact ih (nodup_edit nodup e) (listed.edit nodup e (kept e (by simp)))
      fun e' member => kept e' (by simp [member])

/-- Every object a history of writes, deletions, copies and freezes makes keeps
its keys exact. Its keys are in order of arrival: a key present after a part of
the history and not deleted after it is listed before every key that arrived
after it. Writing a listed key keeps its place, and a copy has the same entries
in the same order and is writable. -/
theorem replay_keeps_keys_in_arrival_order (h : List Edit) :
    (replay h).KeysExact ∧
    (∀ h₁ h₂ a b, h₁ ++ h₂ = h → a ∈ (replay h₁).keys → (∀ e ∈ h₂, e ≠ .erase a) →
      b ∉ (replay h₁).keys → b ∈ (replay h).keys → [a, b].Sublist (replay h).keys) ∧
    (∀ k v, k ∈ (replay h).keys → ((replay h).set k v).keys = (replay h).keys) ∧
    (replay h).copy = { replay h with frozen := false } := by
  refine ⟨.of_nodup (nodup_replay h), ?order, ?rewrite, copy_of_nodup (nodup_replay h)⟩
  case order =>
    rintro h₁ h₂ a b rfl present kept absent arrived
    have listed : ListedBefore a b (replay h₁) := ⟨present, fun arrived => absurd arrived absent⟩
    rw [replay, List.foldl_append] at arrived ⊢
    exact (listed.foldl (nodup_replay h₁) h₂ kept).2 arrived
  case rewrite =>
    intro k v present
    rw [keys_set, if_pos present]

/-- A key deleted and written again arrives anew, after the keys that stayed. -/
example : (replay [.set ⟨[97]⟩ .null, .set ⟨[98]⟩ .null, .erase ⟨[97]⟩, .set ⟨[97]⟩ .null]).keys =
    [⟨[98]⟩, ⟨[97]⟩] := by
  decide +kernel

/-- Writing entries in turn is a history of writes. -/
theorem ofList_eq_replay (es : List (Text × Value)) :
    ofList es = replay (es.map fun e => .set e.1 e.2) := by
  rw [replay, List.foldl_map]
  rfl

/-- A fold over entries that writes each as `set` would builds the entries of
the object the writes build. -/
theorem foldl_entries {f : Array (Text × Value) → Text × Value → Array (Text × Value)}
    (step : ∀ (o : ObjectCell) e, f o.entries e = (o.set e.1 e.2).entries)
    (es : List (Text × Value)) (o : ObjectCell) :
    es.foldl f o.entries = (es.foldl (fun o e => o.set e.1 e.2) o).entries := by
  induction es generalizing o with
  | nil => rfl
  | cons e es ih => rw [List.foldl_cons, List.foldl_cons, step, ih]

end ObjectCell

namespace Eval

/-- A new object of the interpreter is its entries written in turn into the
empty object; an imported namespace is so a frozen copy of the exports. -/
theorem newObject_eq_ofList (entries : List (Text × Value)) (frozen : Bool) :
    newObject entries frozen = onHeap (·.allocObject { ObjectCell.ofList entries with frozen }) := by
  unfold newObject
  congr 1
  funext h
  congr 2
  refine ObjectCell.foldl_entries (fun o ⟨k, v⟩ => ?_) entries .empty
  -- the fold writes each entry as `set` does: in place when found, appended when not
  unfold ObjectCell.set
  dsimp only
  split <;> simp only [*]

end Eval

end Vernacular
