import Vernacular.Interpreter.Show
/-!
# Snapshots of values

A snapshot unfolds a value into a tree that no longer refers to the heap:
containers are copied out with their contents, functions are reduced to their
name and parameters, and a container met again inside itself, on the path
from the top, becomes `circular`. A container shared by two places that is not
cyclic is copied at both.
-/

set_option autoImplicit false

namespace Vernacular

/-- A value unfolded out of the heap. Numbers are kept as their text. -/
inductive Snapshot where
  | null
  | nothing
  | number (text : String)
  | string (t : Text)
  | boolean (b : Bool)
  | array (elements : List Snapshot)
  | object (entries : List (Text × Snapshot)) (frozen : Bool)
  | function (name : String) (params : List String)
  | native
  | circular
deriving Inhabited

namespace Heap

/-- Unfold a value with fuel, given the containers on the path. -/
def unfold (h : Heap) : Nat → List Value → Value → Snapshot
  | 0, _, _ => .circular
  | fuel + 1, seen, v =>
    match v with
    | .null => .null
    | .nothing => .nothing
    | .number x => .number (Decimal.format x)
    | .string t => .string t
    | .boolean b => .boolean b
    | .closure r => let c := h.closure r; .function c.name c.params
    | .native _ => .native
    | .array r =>
      if onPath seen v then .circular
      else .array ((h.elements r).toList.map (unfold h fuel (v :: seen)))
    | .object r =>
      if onPath seen v then .circular
      else
        let o := h.object r
        .object (o.entries.toList.map fun (k, el) => (k, unfold h fuel (v :: seen) el)) o.frozen

/-- The snapshot of a value. -/
def snapshot (h : Heap) (v : Value) : Snapshot := h.unfold h.showFuel [] v

end Heap

end Vernacular
