import Mathlib.Data.List.Sort
import Mathlib.Data.String.Basic
import Vernacular.Dialect.Builtin
/-!
# Validated dialects

`DialectSpec.validate` accepts a document exactly when its tables pass
`checkTables` and every keyword is a word, and the dialect it returns is the
one the document spells, `DialectSpec.spelled`. Both sorts of the dialect code
(the unknown keys of a table and the scanner's symbols) are stable merge
sorts by a total preorder; they agree with insertion sort, which reduces in
the kernel, so that validation can be evaluated on concrete documents.
-/

set_option autoImplicit false

namespace Vernacular

section StableSort

variable {α : Type} (r : α → α → Prop) [DecidableRel r]

theorem orderedInsert_append_of_forall_not {a : α} {front : List α}
    (passed : ∀ b ∈ front, ¬ r a b) (back : List α) :
    (front ++ back).orderedInsert r a = front ++ back.orderedInsert r a := by
  induction front with
  | nil => rfl
  | cons b front ih =>
    have skip : ¬ r a b := passed b (by simp)
    rw [List.cons_append, List.orderedInsert_of_not_le r _ skip,
      ih fun c mem => passed c (List.mem_cons_of_mem b mem), List.cons_append]

/-- Merge sort by a total preorder is insertion sort, also when the preorder is
not antisymmetric: both keep equivalent elements in their input order. -/
theorem mergeSort_eq_insertionSort_of_total
    (trans : ∀ a b c, r a b → r b c → r a c) (total : ∀ a b, r a b ∨ r b a) (l : List α) :
    l.mergeSort (fun a b => decide (r a b)) = l.insertionSort r := by
  have transB : ∀ a b c, decide (r a b) → decide (r b c) → decide (r a c) := by
    simpa using trans
  have totalB : ∀ a b, (decide (r a b) || decide (r b a)) := by simpa using total
  induction l with
  | nil => simp
  | cons a l ih =>
    -- `mergeSort_cons` places `a` after the prefix it does not precede; sortedness
    -- says it precedes everything after it, which is where insertion puts it.
    obtain ⟨front, back, whole, rest, passed⟩ := List.mergeSort_cons transB totalB a l
    have sorted := List.pairwise_mergeSort transB totalB (a :: l)
    rw [whole, List.pairwise_append, List.pairwise_cons] at sorted
    have before : ∀ b ∈ back, r a b := fun b mem => by simpa using sorted.2.1.1 b mem
    rw [whole, List.insertionSort_cons, ← ih, rest,
      orderedInsert_append_of_forall_not r (fun b mem => by simpa using passed b mem)]
    cases back with
    | nil => rfl
    | cons b back => rw [List.orderedInsert_cons_of_le r _ (before b (by simp))]

end StableSort

namespace DialectSpec

/-- The dialect a document spells: each role's spelling is the one its table
gives, and the empty text where none is given. -/
def spelled (spec : DialectSpec) : Dialect :=
  { name := spec.name, extension := spec.extension,
    spelling := fun role => (spec.spellingOf role).getD "", globals := spec.globals }

theorem unknownKey_eq_insertionSort (spec : DialectSpec) (table : RoleTable) :
    spec.unknownKey table = (List.insertionSort (· ≤ ·) (((spec.table table).map Prod.fst).filter
      (fun key => !(table.roles.map Role.key).contains key))).head? := by
  unfold unknownKey
  dsimp only
  rw [mergeSort_eq_insertionSort_of_total (· ≤ ·) (fun _ _ _ => le_trans) le_total]

/-- Validation accepts a document exactly when its tables check and its
keywords are words, and then gives the dialect the document spells. -/
theorem validate_eq_ok_iff {spec : DialectSpec} {d : Dialect} :
    spec.validate = .ok d ↔
      spec.checkTables RoleTable.all [] = .ok () ∧ spec.nonWordKeyword = none ∧ d = spec.spelled := by
  unfold validate
  cases checked : spec.checkTables RoleTable.all [] with
  | error fault => simp
  | ok _ =>
    cases keywords : spec.nonWordKeyword with
    | some refused => simp
    | none =>
      simp only [Except.ok.injEq, true_and]
      exact ⟨fun accepted => accepted ▸ rfl, fun same => same ▸ rfl⟩

end DialectSpec

theorem Builtin.myriadSpec_validate :
    Builtin.myriadSpec.validate = .ok Builtin.myriadSpec.spelled := by
  refine DialectSpec.validate_eq_ok_iff.mpr ⟨?_, by decide, rfl⟩
  have known : ∀ table, Builtin.myriadSpec.unknownKey table = none := by
    intro table
    cases table <;> (rw [DialectSpec.unknownKey_eq_insertionSort]; rfl)
  simp only [RoleTable.all, DialectSpec.checkTables, known]
  rfl

end Vernacular
