import Mathlib
import Vernacular.Proofs.Cycles
/-!
# The display of compact values

Two walks show a value as text: the plain text (`Heap.text`, through
`Heap.containerText`) and the display of a session (`Heap.shown`), of which
`Heap.printed` is the form `print` uses, with a top-level string as it is. They
are written apart and keep the path of containers differently: the plain text
checks a container against the path before it enters it, the display when it
starts on it. They also differ on objects with more than three entries, which
the display writes one entry per line.

Main statement (`Heap.printed_eq_text`): when no object reachable from a
value has more than three entries, the value is printed exactly as its plain
text, cycles and shared containers included. In particular strings inside
containers are quoted alike and `[Circular]` stands at the same places.

The proof is an induction on the fuel of the walks, over a path of distinct
allocated containers (`Heap.Path`); the fuel the walks are given outlasts
every such path.
-/

set_option autoImplicit false

namespace Vernacular

namespace Heap

variable {h : Heap}

/-- Every object reachable from `v` has at most three entries. -/
def Compact (h : Heap) (v : Value) : Prop :=
  ∀ w, Relation.ReflTransGen h.Holds v w → ∀ r, w = .object r → (h.object r).entries.size ≤ 3

theorem Compact.member {v m : Value} (compact : h.Compact v) (mem : m ∈ h.members v) : h.Compact m :=
  fun w reach => compact w (.head mem reach)

/-! ## The two walks, one container at a time -/

/-- How the plain text shows a value held by a container, with `path` the
containers entered so far: strings quoted, containers on the path marked. -/
def nestedText (h : Heap) (fuel : Nat) (path : List Value) (el : Value) : Text :=
  match el with
  | .string t => t.displayLiteral
  | .array _ | .object _ => if onPath path el then circularMarker else h.containerText fuel path el
  | _ => h.leafText el

theorem containerText_array (fuel : Nat) (seen : List Value) (r : Nat) :
    h.containerText (fuel + 1) seen (.array r) =
      if (h.elements r).toList.isEmpty then Text.ofString "[]"
      else Text.concat [Text.ofString "[ ", Text.joinWith (Text.ofString ", ")
        ((h.elements r).toList.map (h.nestedText fuel (.array r :: seen))), Text.ofString " ]"] := rfl

theorem containerText_object (fuel : Nat) (seen : List Value) (r : Nat) :
    h.containerText (fuel + 1) seen (.object r) =
      if (h.object r).entries.toList.isEmpty then Text.ofString "\x7b\x7d"
      else Text.concat [Text.ofString "\x7b ", Text.joinWith (Text.ofString ", ")
        ((h.object r).entries.toList.map fun entry =>
          Text.concat [entry.1, Text.ofString ": ", h.nestedText fuel (.object r :: seen) entry.2]),
        Text.ofString " \x7d"] := rfl

/-- A container held by a container is marked when it is on the path, and
written out otherwise. -/
theorem nestedText_container {fuel : Nat} {path : List Value} {el : Value} (container : el.isContainer = true) :
    h.nestedText fuel path el = if onPath path el then circularMarker else h.containerText fuel path el := by
  cases el <;> simp_all [Value.isContainer, nestedText]

/-- The display of a value held by a container is its nested plain text, when
the display of every container off the path is its plain text. -/
theorem shown_nested {fuel : Nat} {path : List Value} (el : Value) (deep : 0 < fuel)
    (inner : el.isContainer = true → el ∉ path → h.shown fuel true path el = h.containerText fuel path el) :
    h.shown fuel true path el = h.nestedText fuel path el := by
  obtain ⟨fuel, rfl⟩ : ∃ f, fuel = f + 1 := ⟨fuel - 1, by omega⟩
  cases container : el.isContainer
  case true =>
    rw [nestedText_container container]
    by_cases onIt : el ∈ path
    · rw [shown_of_mem onIt container, if_pos ((onPath_iff container).mpr onIt)]
    · rw [inner container onIt, if_neg fun on => onIt ((onPath_iff container).mp on)]
  case false =>
    -- strings are quoted by both; other leaves are their text
    cases el <;> first | rfl | simp [Value.isContainer] at container

/-- A container off the path, all of whose reachable objects have at most
three entries, is displayed as its plain text, given fuel beyond the
containers off the path. -/
theorem shown_eq_containerText (fuel : Nat) : ∀ (seen : List Value) (v : Value) (quoted : Bool),
    h.Path seen → v ∉ seen → v.isContainer = true →
    h.arrays.size + h.objects.size < fuel + seen.length → h.Compact v →
    h.shown fuel quoted seen v = h.containerText fuel seen v := by
  induction fuel with
  | zero =>
    intro seen _ _ path _ _ enough
    have := path.length_le
    omega
  | succ fuel ih =>
    intro seen v quoted path fresh container enough compact
    -- what the container holds is entered with the container on the path
    have held : ∀ el ∈ h.members v, h.shown fuel true (v :: seen) el = h.nestedText fuel (v :: seen) el :=
      fun el mem =>
        have path' := path.cons fresh (inside_of_mem_members mem)
        shown_nested el (by have := path'.length_le; simp at this; omega)
          fun inner off => ih _ el true path' off inner (by simp; omega) (compact.member mem)
    cases v
    case array r =>
      simp only [shown, onPath_of_not_mem container fresh, Bool.false_eq_true, if_false, containerText_array]
      split
      · rfl
      · congr 4
        exact List.map_congr_left held
    case object r =>
      -- the object has at most three entries, so the display writes it on one line
      have small : ¬ (h.object r).entries.toList.length > 3 := by
        simpa using compact _ .refl r rfl
      simp only [shown, onPath_of_not_mem container fresh, Bool.false_eq_true, if_false, small,
        containerText_object]
      split
      · rfl
      · congr 4
        apply List.map_congr_left
        rintro ⟨key, el⟩ mem
        rw [held el (List.mem_map_of_mem mem)]
    all_goals simp [Value.isContainer] at container

/-- Printing a value whose reachable objects have at most three entries gives
its plain text. -/
theorem printed_eq_text (h : Heap) (v : Value) (compact : h.Compact v) : h.printed v = h.text v := by
  have enough : h.arrays.size + h.objects.size < h.showFuel + ([] : List Value).length := by
    simp [showFuel]
  cases v
  case array r | object r =>
    exact shown_eq_containerText _ [] _ false Path.nil List.not_mem_nil rfl enough compact
  all_goals rfl

/-- An array that holds itself and a string, in a heap with no objects, is
printed as its plain text. -/
theorem self_holding_array_printed_as_text :
    let h := (Heap.empty.allocArray #[]).2.setElements 0 #[.array 0, .string (Text.ofString "x")]
    h.Compact (.array 0) ∧ h.printed (.array 0) = h.text (.array 0) :=
  have compact : ((Heap.empty.allocArray #[]).2.setElements 0
      #[.array 0, .string (Text.ofString "x")]).Compact (.array 0) := fun _ _ r _ => by
    rw [object_out_of_range (by simp [Heap.setElements, Heap.allocArray, Heap.empty])]
    simp [ObjectCell.empty]
  ⟨compact, printed_eq_text _ _ compact⟩

end Heap

end Vernacular
