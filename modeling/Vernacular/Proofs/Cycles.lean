import Mathlib
import Vernacular.Interpreter.SourceForm
import Vernacular.Library.Json
import Vernacular.Proofs.Immutable
import Vernacular.Proofs.Scanning
/-!
# Cycles of containers

The four walks that turn a value into text (JSON, source form, plain text,
display) each stop at a container met again on their path. The JSON writer
fails exactly on values from which references lead onto a cycle
(`Heap.Cyclic`), and the other walks are what any larger fuel gives.
-/

set_option autoImplicit false

namespace Vernacular

/-- Whether a value is an array or an object: the values that hold others. -/
def Value.isContainer : Value → Bool
  | .array _ | .object _ => true
  | _ => false

/-- Whether a value has a source form of its own: neither a function nor `nothing`. -/
def Value.hasSourceForm : Value → Bool
  | .nothing | .closure _ | .native _ => false
  | _ => true

/-- A container is the same as another value exactly when it is that value. -/
theorem Value.same_iff_of_container {c : Value} (container : c.isContainer = true) (x : Value) :
    x.same c = true ↔ x = c := by
  cases c <;> cases x <;> simp_all [Value.same, Value.isContainer]

/-- A failed step of a computation: the first part failed, or it gave a value
on which the rest failed. -/
theorem Except.bind_eq_error {ε α β : Type} {x : Except ε α} {f : α → Except ε β} {e : ε}
    (failed : x >>= f = .error e) : x = .error e ∨ ∃ a, x = .ok a ∧ f a = .error e := by
  cases x with
  | error e' =>
    simp only [bind, Except.bind, Except.error.injEq] at failed
    exact .inl (congrArg Except.error failed)
  | ok a => exact .inr ⟨a, rfl, failed⟩

/-- A computation whose parts both succeed succeeds. -/
theorem Except.exists_bind_ok {ε α β : Type} {x : Except ε α} {f : α → Except ε β}
    (first : ∃ a, x = .ok a) (rest : ∀ a, ∃ b, f a = .ok b) : ∃ b, x >>= f = .ok b := by
  obtain ⟨a, ran⟩ := first
  obtain ⟨b, finished⟩ := rest a
  exact ⟨b, by simp [ran, finished, bind, Except.bind]⟩

/-- A traversal of a list fails with the error of one of its elements. -/
theorem List.mapM_except_error {α β ε : Type} {f : α → Except ε β} {e : ε} :
    ∀ {xs : List α}, xs.mapM f = .error e → ∃ x ∈ xs, f x = .error e
  | [], failed => by simp [pure, Except.pure] at failed
  | x :: rest, failed => by
    rw [List.mapM_cons] at failed
    rcases Except.bind_eq_error failed with first | ⟨y, -, later⟩
    · exact ⟨x, List.mem_cons_self, first⟩
    · rcases Except.bind_eq_error later with tail | ⟨ys, -, returned⟩
      · obtain ⟨z, mem, failed⟩ := List.mapM_except_error tail
        exact ⟨z, List.mem_cons_of_mem x mem, failed⟩
      · simp [pure, Except.pure] at returned

/-- A traversal of a list whose every element succeeds succeeds. -/
theorem List.mapM_except_ok {α β ε : Type} {f : α → Except ε β} :
    ∀ {xs : List α}, (∀ x ∈ xs, ∃ y, f x = .ok y) → ∃ ys, xs.mapM f = .ok ys
  | [], _ => ⟨[], rfl⟩
  | x :: rest, each => by
    obtain ⟨y, first⟩ := each x List.mem_cons_self
    obtain ⟨ys, later⟩ := List.mapM_except_ok fun z mem => each z (List.mem_cons_of_mem x mem)
    exact ⟨y :: ys, by simp [List.mapM_cons, first, later, bind, Except.bind, pure, Except.pure]⟩

/-- A traversal of a list fails exactly when one of its elements fails. -/
theorem List.mapM_except_error_iff {α β ε : Type} (f : α → Except ε β) :
    ∀ xs : List α, (∃ e, xs.mapM f = .error e) ↔ ∃ x ∈ xs, ∃ e, f x = .error e
  | [] => by simp [pure, Except.pure]
  | x :: rest => by
    have later := List.mapM_except_error_iff f rest
    simp only [List.mapM_cons, List.mem_cons, exists_eq_or_imp]
    cases first : f x with
    | error e => simp [bind, Except.bind]
    | ok y =>
      cases tail : rest.mapM f with
      | error e =>
        simp only [tail] at later
        simp [bind, Except.bind, ← later]
      | ok ys =>
        simp only [tail] at later
        simp [bind, Except.bind, pure, Except.pure, ← later]

namespace Heap

variable {h : Heap}

/-! ## The graph of containers -/

/-- The values a container holds: an array's elements, an object's entry values. -/
def members (h : Heap) : Value → List Value
  | .array r => (h.elements r).toList
  | .object r => (h.object r).entries.toList.map Prod.snd
  | _ => []

/-- `h.Refers a b`: the container `b` is held by `a`. -/
def Refers (h : Heap) (a b : Value) : Prop := b ∈ h.members a ∧ b.isContainer = true

/-- A container reachable from `v` lies on a cycle of references. -/
def Cyclic (h : Heap) (v : Value) : Prop :=
  ∃ w, Relation.ReflTransGen h.Refers v w ∧ Relation.TransGen h.Refers w w

/-- From `v` the references lead into the path `seen` or onto a cycle. -/
def Escapes (h : Heap) (seen : List Value) (v : Value) : Prop :=
  ∃ w, Relation.ReflTransGen h.Refers v w ∧ (w ∈ seen ∨ Relation.TransGen h.Refers w w)

@[simp] theorem escapes_nil (v : Value) : h.Escapes [] v ↔ h.Cyclic v := by
  simp [Escapes, Cyclic]

/-- A container allocated on the heap. -/
def Inside (h : Heap) : Value → Prop
  | .array r => r < h.arrays.size
  | .object r => r < h.objects.size
  | _ => False

theorem Inside.container {v : Value} (inside : h.Inside v) : v.isContainer = true := by
  cases v <;> simp_all [Inside, Value.isContainer]

/-- A container that holds something is allocated. -/
theorem inside_of_mem_members {v m : Value} (mem : m ∈ h.members v) : h.Inside v := by
  cases v with
  | array r =>
    by_contra outside
    have empty : h.elements r = #[] := by
      simp [elements, Array.getD_eq_getD_getElem?, Array.getElem?_eq_none (Nat.le_of_not_lt outside)]
    simp [members, empty] at mem
  | object r =>
    by_contra outside
    simp [members, object_out_of_range (Nat.le_of_not_lt outside), ObjectCell.empty] at mem
  | _ => simp [members] at mem

/-- A value that is no container refers to nothing. -/
theorem members_of_not_container {v : Value} (leaf : v.isContainer = false) : h.members v = [] := by
  cases v <;> simp_all [members, Value.isContainer]

/-- The path of containers a walk has entered: allocated, each entered once. -/
structure Path (h : Heap) (seen : List Value) : Prop where
  nodup : seen.Nodup
  inside : ∀ c ∈ seen, h.Inside c

namespace Path

variable {seen : List Value}

theorem nil : h.Path [] := ⟨List.nodup_nil, fun _ absent => absurd absent List.not_mem_nil⟩

theorem cons (path : h.Path seen) {v : Value} (fresh : v ∉ seen) (inside : h.Inside v) :
    h.Path (v :: seen) :=
  ⟨List.nodup_cons.mpr ⟨fresh, path.nodup⟩, List.forall_mem_cons.mpr ⟨inside, path.inside⟩⟩

/-- The allocated containers, arrays first. -/
def allocated (h : Heap) : List Value :=
  (List.range h.arrays.size).map .array ++ (List.range h.objects.size).map .object

/-- A path is no longer than the heap has containers. -/
theorem length_le (path : h.Path seen) : seen.length ≤ h.arrays.size + h.objects.size := by
  have within : seen ⊆ allocated h := by
    intro c mem
    have inside := path.inside c mem
    cases c <;> simp_all [allocated, Inside]
  simpa [allocated] using (List.subperm_of_subset path.nodup within).length_le

/-- A value that is no container is on no path. -/
theorem not_mem (path : h.Path seen) {v : Value} (leaf : v.isContainer = false) : v ∉ seen :=
  fun mem => by simp [(path.inside v mem).container] at leaf

end Path

/-- Whether a container is on the path is whether it is in the list. -/
theorem onPath_iff {seen : List Value} {c : Value} (container : c.isContainer = true) :
    onPath seen c = true ↔ c ∈ seen := by
  simp [onPath, Value.same_iff_of_container container]

theorem onPath_of_not_mem {seen : List Value} {c : Value} (container : c.isContainer = true)
    (fresh : c ∉ seen) : onPath seen c = false :=
  Bool.eq_false_iff.mpr fun on => fresh ((onPath_iff container).mp on)

/-! ## Escaping from a path -/

section Escapes

variable {seen : List Value}

theorem Escapes.of_mem {v : Value} (mem : v ∈ seen) : h.Escapes seen v := ⟨v, .refl, .inl mem⟩

/-- A value that is no container escapes only when it is on the path. -/
theorem escapes_of_not_container {v : Value} (leaf : v.isContainer = false) :
    h.Escapes seen v ↔ v ∈ seen := by
  have alone : ∀ w, h.Refers v w → False := fun w refers => by
    simp [Refers, members_of_not_container leaf] at refers
  constructor
  · rintro ⟨w, reach, found⟩
    rcases reach.cases_head with rfl | ⟨c, refers, -⟩
    · rcases found with mem | cycle
      · exact mem
      · obtain ⟨c, refers, -⟩ := Relation.TransGen.head'_iff.mp cycle
        exact (alone c refers).elim
    · exact (alone c refers).elim
  · exact Escapes.of_mem

/-- A container off the path escapes exactly when something it holds escapes
from the path with the container on it: the step of every walk. -/
theorem escapes_iff_of_not_mem {v : Value} (fresh : v ∉ seen) :
    h.Escapes seen v ↔ ∃ c, h.Refers v c ∧ h.Escapes (v :: seen) c := by
  constructor
  · rintro ⟨w, reach, found⟩
    rcases reach.cases_head with rfl | ⟨c, refers, rest⟩
    · -- `v` itself is on a cycle: the cycle's first step leads back to `v`
      rcases found with mem | cycle
      · exact absurd mem fresh
      · obtain ⟨c, refers, back⟩ := Relation.TransGen.head'_iff.mp cycle
        exact ⟨c, refers, v, back, .inl List.mem_cons_self⟩
    · exact ⟨c, refers, w, rest, found.imp (List.mem_cons_of_mem v) id⟩
  · rintro ⟨c, refers, w, reach, found⟩
    rcases found with mem | cycle
    · rcases List.mem_cons.mp mem with rfl | mem
      · exact ⟨w, .refl, .inr (Relation.TransGen.head' refers reach)⟩
      · exact ⟨w, Relation.ReflTransGen.head refers reach, .inl mem⟩
    · exact ⟨w, Relation.ReflTransGen.head refers reach, .inr cycle⟩

/-- Over all the members of a container off the path, as the walks go. -/
theorem escapes_iff_members {v : Value} (path : h.Path seen) (fresh : v ∉ seen) :
    h.Escapes seen v ↔ ∃ m ∈ h.members v, h.Escapes (v :: seen) m := by
  rw [escapes_iff_of_not_mem fresh]
  constructor
  · rintro ⟨c, ⟨mem, -⟩, escapes⟩
    exact ⟨c, mem, escapes⟩
  · rintro ⟨m, mem, escapes⟩
    cases container : m.isContainer
    case true => exact ⟨m, ⟨mem, container⟩, escapes⟩
    case false =>
      -- a leaf escapes only onto the path, which holds containers alone
      have onIt := (escapes_of_not_container container).mp escapes
      have path' := path.cons fresh (inside_of_mem_members mem)
      exact absurd onIt (path'.not_mem container)

/-- Among the members of a container entered on a path, only containers escape. -/
theorem escaping_member_container {v m : Value} (path : h.Path (v :: seen)) (escapes : h.Escapes (v :: seen) m) :
    m.isContainer = true := by
  cases container : m.isContainer
  case true => rfl
  case false => exact absurd ((escapes_of_not_container container).mp escapes) (path.not_mem container)

end Escapes

/-- A computation whose value is then returned fails exactly when it fails. -/
theorem Except.bind_pure_error_iff {ε α β : Type} (x : Except ε α) (g : α → β) :
    (∃ e, (x >>= fun a => pure (g a)) = .error e) ↔ ∃ e, x = .error e := by
  cases x <;> simp [bind, Except.bind, pure, Except.pure]

/-! ## The JSON writer -/

theorem encodable_of_container {v : Value} (container : v.isContainer = true) : encodable v = true := by
  cases v <;> simp_all [encodable, Value.isContainer]

section Json

variable (indent : Text)

/-- The JSON writer fails exactly when the references lead back into its path
or onto a cycle, given a path of distinct containers and fuel beyond the
containers the heap has left. -/
theorem encodeJson_error_iff (fuel : Nat) : ∀ (depth : Nat) (seen : List Value) (v : Value),
    h.Path seen → h.arrays.size + h.objects.size < fuel + seen.length →
    ((∃ e, h.encodeJson indent fuel depth seen v = .error e) ↔ h.Escapes seen v) := by
  induction fuel with
  | zero =>
    intro depth seen v path enough
    have := path.length_le
    omega
  | succ fuel ih =>
    intro depth seen v path enough
    -- a container is entered with itself on the path; what it holds gets the rest of the fuel
    have entered : ∀ v m, v ∉ seen → m ∈ h.members v → ∀ depth,
        ((∃ e, h.encodeJson indent fuel depth (v :: seen) m = .error e) ↔ h.Escapes (v :: seen) m) :=
      fun v m fresh mem depth =>
        ih depth _ m (path.cons fresh (inside_of_mem_members mem)) (by simp; omega)
    cases v
    case array r =>
      by_cases mem : Value.array r ∈ seen
      case pos =>
        simp only [encodeJson, (onPath_iff rfl).mpr mem, if_true]
        exact ⟨fun _ => .of_mem mem, fun _ => ⟨_, rfl⟩⟩
      case neg =>
        have fresh : onPath seen (.array r) = false := onPath_of_not_mem rfl mem
        rw [escapes_iff_members path mem]
        simp only [encodeJson, fresh, Bool.false_eq_true, if_false]
        split
        case isTrue empty => simp_all [members]
        case isFalse =>
          rw [Except.bind_pure_error_iff, List.mapM_except_error_iff]
          refine exists_congr fun el => and_congr_right fun member => ?_
          rw [Except.bind_pure_error_iff]
          exact entered _ el mem member _
    case object r =>
      by_cases mem : Value.object r ∈ seen
      case pos =>
        simp only [encodeJson, (onPath_iff rfl).mpr mem, if_true]
        exact ⟨fun _ => .of_mem mem, fun _ => ⟨_, rfl⟩⟩
      case neg =>
        have fresh : onPath seen (.object r) = false := onPath_of_not_mem rfl mem
        rw [escapes_iff_members path mem]
        simp only [encodeJson, fresh, Bool.false_eq_true, if_false]
        rw [Except.bind_pure_error_iff, List.mapM_except_error_iff]
        constructor
        · rintro ⟨entry, kept, failed⟩
          have member : entry.2 ∈ h.members (.object r) := List.mem_map_of_mem (List.mem_filter.mp kept).1
          rw [Except.bind_pure_error_iff] at failed
          exact ⟨entry.2, member, (entered _ _ mem member _).mp failed⟩
        · rintro ⟨el, member, escapes⟩
          obtain ⟨entry, held, rfl⟩ := List.mem_map.mp member
          -- only containers escape, and the writer keeps every container
          have container := escaping_member_container (path.cons mem (inside_of_mem_members member)) escapes
          refine ⟨entry, List.mem_filter.mpr ⟨held, encodable_of_container container⟩, ?_⟩
          rw [Except.bind_pure_error_iff]
          exact (entered _ _ mem member _).mpr escapes
    all_goals
      rw [escapes_of_not_container rfl]
      exact ⟨fun ⟨_, failed⟩ => by simp [encodeJson] at failed, fun mem => absurd mem (path.not_mem rfl)⟩

/-- The JSON writer fails only with "circular structure". -/
theorem encodeJson_error_message (fuel : Nat) : ∀ (depth : Nat) (seen : List Value) (v : Value) (e : String),
    h.encodeJson indent fuel depth seen v = .error e → e = "circular structure" := by
  induction fuel with
  | zero =>
    intro _ _ _ e failed
    simp only [encodeJson, Except.error.injEq] at failed
    exact failed.symm
  | succ fuel ih =>
    intro depth seen v e failed
    -- an error comes from the path check, or from a member through the traversal
    have member : ∀ {β : Type} {x : Except String β} {f : β → Except String (Option Text)},
        (∀ b, ∃ t, f b = .ok t) → x >>= f = .error e → x = .error e := fun total failed => by
      rcases Except.bind_eq_error failed with first | ⟨b, -, rest⟩
      · exact first
      · obtain ⟨t, ran⟩ := total b
        simp [ran] at rest
    cases v
    case array r =>
      simp only [encodeJson] at failed
      split at failed
      case isTrue => simpa using failed.symm
      case isFalse =>
        split at failed
        case isTrue => simp at failed
        case isFalse =>
          obtain ⟨el, -, written⟩ := List.mapM_except_error (member (fun _ => ⟨_, rfl⟩) failed)
          rcases Except.bind_eq_error written with written | ⟨_, -, returned⟩
          · exact ih _ _ _ _ written
          · simp [pure, Except.pure] at returned
    case object r =>
      simp only [encodeJson] at failed
      split at failed
      case isTrue => simpa using failed.symm
      case isFalse =>
        obtain ⟨entry, -, written⟩ := List.mapM_except_error (member (fun _ => ⟨_, rfl⟩) failed)
        rcases Except.bind_eq_error written with written | ⟨_, -, returned⟩
        · exact ih _ _ _ _ written
        · simp [pure, Except.pure] at returned
    all_goals simp [encodeJson] at failed

end Json

/-! ## The source form -/

/-- `h.Holds a b`: the value `b`, container or not, is held by `a`. -/
def Holds (h : Heap) (a b : Value) : Prop := b ∈ h.members a

/-- Everything reachable from `v` has a source form in the dialect `d`: no
function and no `nothing` is held, and every key of an object held is written
bare. -/
def Expressible (h : Heap) (d : Dialect) (v : Value) : Prop :=
  ∀ w, Relation.ReflTransGen h.Holds v w → w.hasSourceForm = true ∧
    ∀ r, w = .object r → ∀ kv ∈ (h.object r).entries.toList, d.bareKey kv.1 = true

theorem Expressible.member {d : Dialect} {v m : Value} (expressible : h.Expressible d v) (mem : m ∈ h.members v) :
    h.Expressible d m :=
  fun w reach => expressible w (.head mem reach)

/-- The two reports of a circular value. -/
def CircularReport (e : String) : Prop :=
  e = noSourceForm "circular array" ∨ e = noSourceForm "circular object"

/-- A refused key is not reported as a circular value: the reports start
differently. -/
theorem not_circularReport_key (key : Text) :
    ¬ CircularReport ("object key " ++ key.quoted ++ " has no source form") := by
  rintro (same | same) <;>
  · have starts := congrArg (fun s : String => s.toList.head?) same
    simp [noSourceForm] at starts

section Source

variable (d : Dialect)

/-- The source form reports a circular value only when the references lead
back into its path or onto a cycle. -/
theorem sourceForm_circular (fuel : Nat) : ∀ (seen : List Value) (v : Value) (e : String),
    h.Path seen → h.arrays.size + h.objects.size < fuel + seen.length →
    h.sourceForm d fuel seen v = .error e → CircularReport e → h.Escapes seen v := by
  induction fuel with
  | zero =>
    intro seen _ _ path enough
    have := path.length_le
    omega
  | succ fuel ih =>
    intro seen v e path enough failed circular
    have entered : ∀ m, v ∉ seen → m ∈ h.members v → h.sourceForm d fuel (v :: seen) m = .error e →
        h.Escapes seen v := fun m fresh mem failed =>
      (escapes_iff_members path fresh).mpr
        ⟨m, mem, ih _ m e (path.cons fresh (inside_of_mem_members mem)) (by simp; omega) failed circular⟩
    cases v
    case array r =>
      by_cases mem : Value.array r ∈ seen
      case pos => exact .of_mem mem
      case neg =>
        have fresh : (seen.any fun x => x.same (.array r)) = false := onPath_of_not_mem rfl mem
        simp only [sourceForm, fresh, Bool.false_eq_true, if_false] at failed
        rcases Except.bind_eq_error failed with parts | ⟨_, -, returned⟩
        · obtain ⟨el, member, failed⟩ := List.mapM_except_error parts
          exact entered el mem member failed
        · simp at returned
    case object r =>
      by_cases mem : Value.object r ∈ seen
      case pos => exact .of_mem mem
      case neg =>
        have fresh : (seen.any fun x => x.same (.object r)) = false := onPath_of_not_mem rfl mem
        simp only [sourceForm, fresh, Bool.false_eq_true, if_false] at failed
        rcases Except.bind_eq_error failed with parts | ⟨_, -, returned⟩
        · obtain ⟨entry, held, failed⟩ := List.mapM_except_error parts
          split at failed
          case isTrue =>
            -- a refused key is reported as such, not as a circular value
            rcases Except.bind_eq_error failed with refused | ⟨_, ran, -⟩
            · simp only [Except.error.injEq] at refused
              exact absurd (refused ▸ circular) (not_circularReport_key _)
            · simp at ran
          case isFalse =>
            rcases Except.bind_eq_error failed with written | ⟨_, -, returned⟩
            · exact entered entry.2 mem (List.mem_map_of_mem held) written
            · simp at returned
        · simp at returned
    case null | boolean | number | string => simp [sourceForm] at failed
    all_goals
      simp only [sourceForm, Except.error.injEq] at failed
      subst failed
      rcases circular with same | same <;> simp [noSourceForm, Value.typeName] at same

/-- The source form succeeds on a value whose references stay off its path and
off every cycle, and whose reachable values all have a source form. -/
theorem sourceForm_ok (fuel : Nat) : ∀ (seen : List Value) (v : Value),
    h.Path seen → h.arrays.size + h.objects.size < fuel + seen.length →
    ¬ h.Escapes seen v → h.Expressible d v → ∃ t, h.sourceForm d fuel seen v = .ok t := by
  induction fuel with
  | zero =>
    intro seen _ path enough
    have := path.length_le
    omega
  | succ fuel ih =>
    intro seen v path enough stays expressible
    have fresh : v ∉ seen := fun mem => stays (.of_mem mem)
    -- what the value holds stays off the path with the value on it, and is expressible
    have entered : ∀ m ∈ h.members v, ∃ t, h.sourceForm d fuel (v :: seen) m = .ok t :=
      fun m mem => ih _ m (path.cons fresh (inside_of_mem_members mem)) (by simp; omega)
        (fun escapes => stays ((escapes_iff_members path fresh).mpr ⟨m, mem, escapes⟩))
        (expressible.member mem)
    have own := expressible v .refl
    cases v
    case array r =>
      have unseen : (seen.any fun x => x.same (.array r)) = false := onPath_of_not_mem rfl fresh
      simp only [sourceForm, unseen, Bool.false_eq_true, if_false]
      exact Except.exists_bind_ok (List.mapM_except_ok entered) fun _ => ⟨_, rfl⟩
    case object r =>
      have unseen : (seen.any fun x => x.same (.object r)) = false := onPath_of_not_mem rfl fresh
      simp only [sourceForm, unseen, Bool.false_eq_true, if_false]
      refine Except.exists_bind_ok (List.mapM_except_ok fun kv held => ?_) fun _ => ⟨_, rfl⟩
      -- the key is written bare, and the value has a source form
      obtain ⟨value, written⟩ := entered kv.2 (List.mem_map_of_mem held)
      simp [own.2 r rfl kv held, written, bind, Except.bind]
    case nothing | closure | native => simp [Value.hasSourceForm] at own
    all_goals exact ⟨_, rfl⟩

end Source

/-! ## The plain text and the display -/

section Text

/-- The display of a container reads the display of what it holds, and nothing
else of the fuel. -/
theorem shown_congr {fuel fuel' : Nat} {seen : List Value} {v : Value}
    (same : ∀ m ∈ h.members v, ∀ quoted, h.shown fuel quoted (v :: seen) m = h.shown fuel' quoted (v :: seen) m)
    (quoted : Bool) : h.shown (fuel + 1) quoted seen v = h.shown (fuel' + 1) quoted seen v := by
  cases v
  case array r =>
    simp only [members] at same
    simp only [shown]
    rw [List.map_congr_left fun m mem => same m mem true]
  case object r =>
    simp only [shown]
    rw [List.map_congr_left fun kv held =>
      congrArg (fun t => Text.concat [kv.1, Text.ofString ": ", t]) (same kv.2 (List.mem_map_of_mem held) true)]
  all_goals rfl

/-- The plain text of a container reads the text of what it holds off the
path, and nothing else of the fuel. -/
theorem containerText_congr {fuel fuel' : Nat} {seen : List Value} {v : Value}
    (same : ∀ m ∈ h.members v, m ∉ v :: seen →
      h.containerText fuel (v :: seen) m = h.containerText fuel' (v :: seen) m) :
    h.containerText (fuel + 1) seen v = h.containerText (fuel' + 1) seen v := by
  cases v
  case array r =>
    simp only [containerText]
    split
    · rfl
    · congr 4
      apply List.map_congr_left
      intro el mem
      cases el
      case array | object =>
        simp only
        split
        next => rfl
        next off => exact same _ mem fun on => off ((onPath_iff (by rfl)).mpr on)
      all_goals rfl
  case object r =>
    simp only [containerText]
    split
    · rfl
    · congr 4
      apply List.map_congr_left
      rintro ⟨key, el⟩ held
      have mem : el ∈ h.members (.object r) := List.mem_map.mpr ⟨(key, el), held, rfl⟩
      cases el
      case array | object =>
        simp only
        split
        next => rfl
        next off => rw [same _ mem fun on => off ((onPath_iff (by rfl)).mpr on)]
      all_goals rfl
  all_goals rfl

/-- A container met again shows the marker, whatever the fuel. -/
theorem shown_of_mem {fuel : Nat} {seen : List Value} {v : Value} (onIt : v ∈ seen)
    (container : v.isContainer = true) (quoted : Bool) : h.shown (fuel + 1) quoted seen v = circularMarker := by
  cases v <;> simp_all [shown, (onPath_iff container).mpr onIt, Value.isContainer]

/-- With fuel beyond the containers off the path, one more unit of fuel
changes nothing in the display. -/
theorem shown_succ (fuel : Nat) : ∀ (seen : List Value) (v : Value) (quoted : Bool),
    h.Path seen → h.arrays.size + h.objects.size < fuel + seen.length →
    h.shown (fuel + 1) quoted seen v = h.shown fuel quoted seen v := by
  induction fuel with
  | zero =>
    intro seen _ _ path enough
    have := path.length_le
    omega
  | succ fuel ih =>
    intro seen v quoted path enough
    by_cases onIt : v ∈ seen
    · have container := (path.inside v onIt).container
      rw [shown_of_mem onIt container, shown_of_mem onIt container]
    · exact shown_congr (fun m mem q =>
        ih _ m q (path.cons onIt (inside_of_mem_members mem)) (by simp; omega)) quoted

/-- With fuel beyond the containers off the path, one more unit of fuel
changes nothing in the plain text of a container off the path. -/
theorem containerText_succ (fuel : Nat) : ∀ (seen : List Value) (v : Value),
    h.Path seen → v ∉ seen → h.arrays.size + h.objects.size < fuel + seen.length →
    h.containerText (fuel + 1) seen v = h.containerText fuel seen v := by
  induction fuel with
  | zero =>
    intro seen _ path _ enough
    have := path.length_le
    omega
  | succ fuel ih =>
    intro seen v path fresh enough
    exact containerText_congr fun m mem off =>
      ih _ m (path.cons fresh (inside_of_mem_members mem)) off (by simp; omega)

theorem shown_add {fuel : Nat} {seen : List Value} (v : Value) (quoted : Bool) (path : h.Path seen)
    (enough : h.arrays.size + h.objects.size < fuel + seen.length) :
    ∀ k, h.shown (fuel + k) quoted seen v = h.shown fuel quoted seen v
  | 0 => rfl
  | k + 1 => (shown_succ (fuel + k) seen v quoted path (by omega)).trans (shown_add v quoted path enough k)

theorem containerText_add {fuel : Nat} {seen : List Value} {v : Value} (path : h.Path seen) (fresh : v ∉ seen)
    (enough : h.arrays.size + h.objects.size < fuel + seen.length) :
    ∀ k, h.containerText (fuel + k) seen v = h.containerText fuel seen v
  | 0 => rfl
  | k + 1 => (containerText_succ (fuel + k) seen v path fresh (by omega)).trans (containerText_add path fresh enough k)

end Text

/-! ## The four walks -/

/-- What the walks that turn a value into text do, cyclic or not. -/
structure WalkLaws (h : Heap) (v : Value) : Prop where
  /-- The JSON writer fails exactly on a cyclic value, -/
  json : ∀ indent depth, (∃ e, h.encodeJson indent h.showFuel depth [] v = .error e) ↔ h.Cyclic v
  /-- and then only with "circular structure". -/
  jsonMessage : ∀ indent depth e, h.encodeJson indent h.showFuel depth [] v = .error e → e = "circular structure"
  /-- The source form reports a circular value only for a cyclic one, -/
  sourceCircular : ∀ d e, h.source d v = .error e → CircularReport e → h.Cyclic v
  /-- and succeeds on an acyclic value whose reachable values all have a source form. -/
  sourceAcyclic : ∀ d, ¬ h.Cyclic v → h.Expressible d v → ∃ t, h.source d v = .ok t
  /-- More fuel changes neither the plain text nor the display: the walks end
  where their path check stops them. -/
  text : ∀ k, h.containerText (h.showFuel + k) [] v = h.containerText h.showFuel [] v
  shown : ∀ k quoted, h.shown (h.showFuel + k) quoted [] v = h.shown h.showFuel quoted [] v

/-- The walks detect cycles exactly: the JSON writer fails just on cyclic
values, the source form calls only cyclic values circular and writes every
acyclic value made of what it can write, and the plain text and the display
run to the end of every path, so that `[Circular]` marks exactly the
containers met again on their path, never one that is only shared. -/
theorem walks_detect_cycles_exactly (h : Heap) (v : Value) : h.WalkLaws v := by
  -- every walk starts on the empty path, with fuel for all the containers of the heap
  have enough : h.arrays.size + h.objects.size < h.showFuel + ([] : List Value).length := by
    simp [showFuel]
  have enoughSource : h.arrays.size + h.objects.size <
      (h.arrays.size + h.objects.size + 1) + ([] : List Value).length := by simp
  refine ⟨fun indent depth => ?_, fun indent depth e => encodeJson_error_message indent _ depth [] v e,
    fun d e failed circular => ?_, fun d acyclic expressible => ?_,
    containerText_add Path.nil List.not_mem_nil enough, fun k quoted => shown_add v quoted Path.nil enough k⟩
  · rw [encodeJson_error_iff indent _ depth [] v Path.nil enough, escapes_nil]
  · exact (escapes_nil v).mp (sourceForm_circular d _ [] v e Path.nil enoughSource failed circular)
  · exact sourceForm_ok d _ [] v Path.nil enoughSource (by rwa [escapes_nil]) expressible

/-- A string holding all three quote characters has a source form, delimited by
`"` with nothing escaped, and that form does not read back: the `"` inside it
closes the literal. -/
theorem three_quote_string_source_reads_apart :
    Heap.empty.source Builtin.myriadSpec.spelled (.string (Text.ofString "\"'`")) =
        .ok (Text.ofString "\"\"'`\"") ∧
      (Program.parse Builtin.myriadSpec.spelled "let v = \"\"'`\" ; v ; ").toOption = none := by
  refine ⟨?_, ?_⟩
  · decide +kernel
  · rw [Program.parse_eq_within]; rfl

end Heap

end Vernacular
