/-!
# Sorted code point ranges

Character properties are kept as arrays of closed ranges `(low, high)` in
increasing order with no overlap. Membership is decided by bisection, so a
lookup reads a logarithmic number of entries.
-/

set_option autoImplicit false

namespace Vernacular.Unicode

/-- Whether `n` lies in one of the sorted, disjoint closed ranges. The search
keeps `low ≤ high` and halves `high - low` each round; the fuel of 64 rounds
exceeds the depth of any array that fits in memory. -/
def inRanges (ranges : Array (Nat × Nat)) (n : Nat) : Bool :=
  let rec search (low high : Nat) (fuel : Nat) : Bool :=
    match fuel with
    | 0 => false
    | fuel + 1 =>
      if low < high then
        let mid := (low + high) / 2
        let range := ranges.getD mid (0, 0)
        if n < range.1 then search low mid fuel
        else if range.2 < n then search (mid + 1) high fuel
        else true
      else false
  search 0 ranges.size 64

end Vernacular.Unicode
