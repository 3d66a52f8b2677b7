import Mathlib
import Vernacular.Proofs.Decoding
import Vernacular.Proofs.LibraryCalls
import Vernacular.Proofs.ParsedTargets
import Vernacular.Proofs.ReservedWords
import Vernacular.Proofs.Scanning
/-!
# The evaluator covers what the parser builds

A program the parser reads never stops with a `NotImplemented` fault or an
invalid assignment target: the invariant `targetedCode` carries, through a run,
that every closure has a body the parser could have built.
-/

set_option autoImplicit false
set_option mvcgen.warning false

open Std.Do

namespace Vernacular

/-! ## The bytes of a joined string -/

/-- The text of a joined string is the joined texts. -/
@[simp] theorem Text.ofString_append (s t : String) :
    Text.ofString (s ++ t) = Text.ofString s ++ Text.ofString t := by
  change Text.mk _ = Text.mk ((Text.ofString s).bytes ++ (Text.ofString t).bytes)
  simp [Text.ofString, ByteArray.toList, ByteArray.toList_loop]

/-! ## Faults of a missing case -/

/-- The fault of the evaluator's fallback for an assignment to a node that is
no name or member: `InvalidAssignment`, with a reason that starts
"Invalid assignment target ". -/
def RuntimeFault.RefusesTarget (f : RuntimeFault) : Prop :=
  f.kind = .invalidAssignment ∧
    (Text.ofString "Invalid assignment target ").bytes <+: f.reason.bytes

/-- A signal that no missing case of the evaluator raises: neither a
`NotImplemented` fault nor the fallback's refusal of an assignment target. -/
def Signal.Covered : Signal → Prop
  | .fault f => f.kind ≠ .notImplemented ∧ ¬ f.RefusesTarget
  | _ => True

namespace RuntimeFault

/-- The fallback's own fault is a refusal, whatever the target. -/
theorem refusesTarget_fallback (target : String) :
    RefusesTarget
      ⟨.invalidAssignment, Text.ofString ("Invalid assignment target " ++ target)⟩ :=
  ⟨rfl, by simp⟩

/-- A reason that begins with bytes which neither start nor extend the
fallback's does not begin as the fallback's does. -/
theorem not_refusal_prefix {start : List UInt8} (rest : List UInt8)
    (shorter : ¬ (Text.ofString "Invalid assignment target ").bytes <+: start)
    (longer : ¬ start <+: (Text.ofString "Invalid assignment target ").bytes) :
    ¬ (Text.ofString "Invalid assignment target ").bytes <+: start ++ rest := by
  intro refused
  -- two prefixes of one list: one of them is a prefix of the other
  rcases List.prefix_or_prefix_of_prefix refused (List.prefix_append start rest) with
    within | beyond
  · exact shorter within
  · exact longer beyond

end RuntimeFault

/-- A signal that carries nothing is covered. -/
theorem Signal.Plain.covered {sig : Signal} (plain : sig.Plain) : sig.Covered := by
  cases sig with
  | fault f => exact ⟨plain.2, fun refused => plain.1 refused.1⟩
  | _ => trivial

/-- A native's signal is covered. -/
theorem Signal.FromLibrary.covered {sig : Signal} (library : sig.FromLibrary) : sig.Covered := by
  cases sig with
  | fault f =>
    have notCallable : f.kind = .notCallable := library
    refine ⟨by simp [notCallable], fun refused => ?_⟩
    exact absurd (notCallable.symm.trans refused.1) (by decide)
  | _ => trivial

/-! ## Failures of the heap operations -/

namespace Heap

variable {h : Heap} {ref : Nat} {name : String} {sig : Signal}

theorem lookup_failure_plain (failed : h.lookup ref name = .error sig) : sig.Plain := by
  unfold lookup at failed
  split at failed
  · split at failed
    · cases failed
    · cases failed
      simp [undefinedName, Signal.failure, Signal.Plain]
  · cases failed
    simp [undefinedName, Signal.failure, Signal.Plain]

theorem declare_failure_plain {v : Value} {constant : Bool}
    (failed : h.declare ref name v constant = .error sig) : sig.Plain := by
  unfold declare at failed
  dsimp only at failed
  split at failed
  · cases failed
    simp [Signal.failure, Signal.Plain]
  · cases failed

theorem assign_failure_plain {v : Value} (failed : h.assign ref name v = .error sig) :
    sig.Plain := by
  unfold assign at failed
  split at failed
  · cases failed
    simp [undefinedName, Signal.failure, Signal.Plain]
  · dsimp only at failed
    split at failed
    · cases failed
      simp [undefinedName, Signal.failure, Signal.Plain]
    · split at failed
      · cases failed
        simp [Signal.failure, Signal.Plain]
      · cases failed

theorem closures_of_declare {h' : Heap} {v : Value} {constant : Bool}
    (declared : h.declare ref name v constant = .ok h') : h'.closures = h.closures := by
  unfold declare at declared
  dsimp only at declared
  split at declared
  · cases declared
  · cases declared
    rfl

theorem closures_of_assign {h' : Heap} {v : Value} (assigned : h.assign ref name v = .ok h') :
    h'.closures = h.closures := by
  unfold assign at assigned
  split at assigned
  · cases assigned
  · dsimp only at assigned
    split at assigned
    · cases assigned
    · split at assigned
      · cases assigned
      · cases assigned
        rfl

/-! ## Heaps whose code the parser could have built -/

/-- Every closure of the heap assigns only to names and members. -/
def CodeTargeted (h : Heap) : Prop :=
  ∀ c ∈ h.closures, Stmt.allList Expr.targetsAssignable c.body = true

theorem CodeTargeted.body (targeted : h.CodeTargeted) (ref : Nat) :
    Stmt.allList Expr.targetsAssignable (h.closure ref).body = true := by
  unfold closure
  rw [Array.getD_eq_getD_getElem?]
  cases found : h.closures[ref]? with
  | none => rfl
  | some c => exact targeted c (Array.mem_of_getElem? found)

theorem CodeTargeted.allocClosure (targeted : h.CodeTargeted) {c : Closure}
    (body : Stmt.allList Expr.targetsAssignable c.body = true) :
    (h.allocClosure c).2.CodeTargeted := by
  intro d member
  simp only [Heap.allocClosure, Array.mem_push] at member
  rcases member with old | rfl
  · exact targeted d old
  · exact body

end Heap

/-! ## Helpers that leave the code alone -/

namespace Eval

/-- A computation leaves the closures of the heap as it found them, and stops
only with a covered signal. -/
abbrev KeepsCode {α : Type} (x : Eval α) : Prop :=
  ∀ closures : Array Closure, ⦃fun m => ⌜m.heap.closures = closures⌝⦄ x
    ⦃post⟨fun _ m => ⌜m.heap.closures = closures⌝,
      fun sig m => ⌜sig.Covered ∧ m.heap.closures = closures⌝⟩⦄

/-- A computation keeps the code when each of its runs does. -/
theorem KeepsCode.of_runs {α : Type} {x : Eval α}
    (runs : ∀ m, match x.run m with
      | .ok _ m' => m'.heap.closures = m.heap.closures
      | .error sig m' => sig.Covered ∧ m'.heap.closures = m.heap.closures) : KeepsCode x := by
  intro closures m start
  simp only [wp, PredTrans.apply]
  have ran := runs m
  cases result : x.run m with
  | ok a m' => simp_all
  | error sig m' => simp_all

/-- What keeping the code says about one run. -/
theorem KeepsCode.runs {α : Type} {x : Eval α} (keeps : KeepsCode x) (m : Machine) :
    match x.run m with
    | .ok _ m' => m'.heap.closures = m.heap.closures
    | .error sig m' => sig.Covered ∧ m'.heap.closures = m.heap.closures := by
  have ran := keeps m.heap.closures m rfl
  simp only [wp, PredTrans.apply] at ran
  cases result : x.run m with
  | ok a m' => simpa [result] using ran
  | error sig m' => simpa [result] using ran

@[local spec] theorem newArray_keepsCode (elements : Array Value) :
    KeepsCode (newArray elements) := by
  intro; mvcgen [newArray, onHeap, Heap.allocArray]

@[local spec] theorem newObject_keepsCode (entries : List (Text × Value)) (frozen : Bool) :
    KeepsCode (newObject entries frozen) := by
  intro; mvcgen [newObject, onHeap, Heap.allocObject]

@[local spec] theorem newNative_keepsCode (n : Native) : KeepsCode (newNative n) := by
  intro; mvcgen [newNative, onHeap, Heap.allocNative]

@[local spec] theorem debug_keepsCode (message : String) (attrs : List (String × LogValue)) :
    KeepsCode (debug message attrs) := by
  intro; mvcgen [debug, writeErr]

@[local spec] theorem getProperty_keepsCode (scope : Nat) (obj key : Value) :
    KeepsCode (getProperty scope obj key) := by
  intro; mvcgen [getProperty, method, heap, unknownProperty, text]
  all_goals simp_all [Signal.Covered, RuntimeFault.RefusesTarget]


@[local spec] theorem setProperty_keepsCode (obj key v : Value) :
    KeepsCode (setProperty obj key v) := by
  intro; mvcgen [setProperty, heap, updateHeap, text, describe]
  all_goals simp_all [Signal.Covered, RuntimeFault.RefusesTarget]
  -- the refusals of a key or an object begin otherwise than the fallback's
  all_goals exact RuntimeFault.not_refusal_prefix _ (by decide +kernel) (by decide +kernel)


end Eval

namespace Interp

open Eval

@[local spec] theorem lookup_keepsCode (scope : Nat) (name : String) :
    KeepsCode (lookup scope name) := by
  intro; mvcgen [lookup, heap, orFail]
  case vc2.h_2 =>
    rename_i start _ failed
    exact ⟨(Heap.lookup_failure_plain failed).covered, start⟩

@[local spec] theorem assign_keepsCode (scope : Nat) (name : String) (v : Value) :
    KeepsCode (assign scope name v) := by
  intro; mvcgen [assign, heap, orFail]
  case vc1.h_1 =>
    rename_i start _ assigned _
    exact (Heap.closures_of_assign assigned).trans start
  case vc2.h_2 =>
    rename_i start _ failed
    exact ⟨(Heap.assign_failure_plain failed).covered, start⟩

@[local spec] theorem declare_keepsCode (scope : Nat) (name : String) (v : Value)
    (constant : Bool) :
    KeepsCode (declare scope name v constant) := by
  intro; mvcgen [declare, heap, orFail]
  case vc1.h_1 =>
    rename_i start _ declared _
    exact (Heap.closures_of_declare declared).trans start
  case vc2.h_2 =>
    rename_i start _ failed
    exact ⟨(Heap.declare_failure_plain failed).covered, start⟩

@[local spec] theorem childScope_keepsCode (parent : Nat) : KeepsCode (childScope parent) := by
  intro; mvcgen [childScope, onHeap, Heap.allocScope]

@[local spec] theorem exportNames_keepsCode (scope : Nat) (names : List String) :
    KeepsCode (exportNames scope names) := by
  intro closures
  mvcgen [exportNames, heap, orFail, updateHeap] invariants
  · post⟨fun _ m => ⌜m.heap.closures = closures⌝,
      fun sig m => ⌜sig.Covered ∧ m.heap.closures = closures⌝⟩
  case vc3.step.h_2 =>
    rename_i start _ failed
    exact ⟨(Heap.lookup_failure_plain failed).covered, start⟩

end Interp

namespace Library

open Eval

@[local spec] theorem globalScope_keepsCode (d : Dialect) : KeepsCode (globalScope d) := by
  intro closures
  unfold globalScope
  generalize globalEntries d = entries
  mvcgen [onHeap, Heap.allocScope, newReader, namespaceOf, updateHeap, Heap.install] invariants
  · post⟨fun _ m => ⌜m.heap.closures = closures⌝,
      fun sig m => ⌜sig.Covered ∧ m.heap.closures = closures⌝⟩
  · post⟨fun _ m => ⌜m.heap.closures = closures⌝,
      fun sig m => ⌜sig.Covered ∧ m.heap.closures = closures⌝⟩

/-- A native leaves the closures as they are and stops with a covered signal. -/
theorem invoke_keepsCode (n : Native) (args : List Value) (scope : Nat) :
    KeepsCode (invoke n args scope) := by
  apply KeepsCode.of_runs
  intro m
  have effect := invoke_effect n args scope m
  cases result : (invoke n args scope).run m with
  | ok a m' =>
    rw [result] at effect
    exact effect.closures
  | error sig m' =>
    rw [result] at effect
    exact ⟨effect.1.covered, effect.2.closures⟩

end Library

/-! ## Every operator token reads as an operator

The parser takes a token's operator through the family of its level
(`operatorOf`), which fails on a spelling that names no operator role and on a
role the family lacks. A validated dialect gives neither: validation spells
every role apart, the scanner reads a token of an operator kind only from an
operator role's spelling, and each family takes every role of the kinds the
parser reads it at. -/

namespace DialectSpec

/-- A spelling the pairs seen do not look up is none of their spellings. -/
theorem not_mem_of_lookup_eq_none {spelling : String} :
    ∀ {seen : List (String × Role)}, seen.lookup spelling = none → spelling ∉ seen.map Prod.fst
  | [], _ => by simp
  | (key, role) :: tail, unseen => by
    simp only [List.lookup] at unseen
    split at unseen
    · cases unseen
    · next differs =>
      simp only [List.map_cons, List.mem_cons, not_or]
      exact ⟨fun same => by simp_all, not_mem_of_lookup_eq_none unseen⟩

/-- A table's check appends each of its roles with its spelling to the pairs
seen, and keeps their spellings distinct. -/
theorem checkRoles_ok {spec : DialectSpec} :
    ∀ {roles : List Role} {seen out : List (String × Role)}, spec.checkRoles roles seen = .ok out →
      out = seen ++ roles.map (fun role => ((spec.spellingOf role).getD "", role)) ∧
        ((seen.map Prod.fst).Nodup → (out.map Prod.fst).Nodup)
  | [], seen, out, ok => by
    cases ok
    simp
  | role :: rest, seen, out, ok => by
    unfold checkRoles at ok
    cases spelled : spec.spellingOf role with
    | none => simp [spelled] at ok
    | some spelling =>
      simp only [spelled] at ok
      split at ok
      · cases ok
      · split at ok
        · cases ok
        · next unseen =>
          obtain ⟨rfl, nodup⟩ := checkRoles_ok ok
          refine ⟨by simp [spelled], fun distinct => nodup ?_⟩
          -- the new spelling is none of those seen
          have fresh := not_mem_of_lookup_eq_none unseen
          rw [List.map_append, List.nodup_append]
          refine ⟨distinct, List.nodup_singleton _, ?_⟩
          intro k mem k' single same
          simp only [List.map_cons, List.map_nil, List.mem_singleton] at single
          exact fresh (single ▸ same ▸ mem)

/-- The checks of the tables leave the spellings of all their roles distinct
from each other and from the spellings seen before. -/
theorem checkTables_ok {spec : DialectSpec} :
    ∀ {tables : List RoleTable} {seen : List (String × Role)}, spec.checkTables tables seen = .ok () →
      (seen.map Prod.fst).Nodup →
      (seen.map Prod.fst ++ (tables.flatMap RoleTable.roles).map fun role => (spec.spellingOf role).getD "").Nodup
  | [], seen, _, distinct => by simpa using distinct
  | table :: rest, seen, ok, distinct => by
    unfold checkTables at ok
    cases checked : spec.checkRoles table.roles seen with
    | error fault => simp [checked, bind, Except.bind] at ok
    | ok seen' =>
      simp only [checked] at ok
      obtain ⟨rfl, nodup⟩ := checkRoles_ok checked
      split at ok
      · cases ok
      · have after := checkTables_ok ok (nodup distinct)
        simpa [List.flatMap_cons, List.map_append, List.append_assoc, Function.comp_def] using after

end DialectSpec

namespace Role

theorem mem_operators_of_tokenKind (role : Role)
    (operator : role.tokenKind ∈ RoleTable.operators.roles.map Role.tokenKind) :
    role ∈ RoleTable.operators.roles := by
  revert operator
  cases role <;> decide

/-- Numbers, strings and identifiers are no operator's kind. -/
theorem plain_kinds_not_operator :
    TokenKind.number ∉ RoleTable.operators.roles.map Role.tokenKind ∧
      TokenKind.string ∉ RoleTable.operators.roles.map Role.tokenKind ∧
      TokenKind.identifier ∉ RoleTable.operators.roles.map Role.tokenKind := by
  decide

theorem keyword_tokenKind_not_operator :
    ∀ role ∈ Dialect.keywordRoles, role.tokenKind ∉ RoleTable.operators.roles.map Role.tokenKind := by
  decide

/-- Each operator family takes every role of the kinds the parser reads it at. -/
theorem families_read :
    (∀ role : Role, role.tokenKind ∈ [.assign, .compoundAssign] → (AssignOp.ofRole role).isSome) ∧
    (∀ role : Role, role.tokenKind ∈ [.logicalOr, .logicalAnd] → (LogicalOp.ofRole role).isSome) ∧
    (∀ role : Role, role.tokenKind ∈ Parser.binaryKinds → (BinaryOp.ofRole role).isSome) ∧
    (∀ role : Role, role.tokenKind ∈ [.additive, .logicalNot] → (UnaryOp.ofRole role).isSome) ∧
    (∀ role : Role, role.tokenKind ∈ [.step] → (StepOp.ofRole role).isSome) := by
  refine ⟨?_, ?_, ?_, ?_, ?_⟩ <;> intro role <;> cases role <;> decide

end Role

namespace Dialect

/-- A validated dialect spells its roles apart. -/
theorem spelling_injective {spec : DialectSpec} {d : Dialect} (valid : spec.validate = .ok d)
    {role role' : Role} (mem : role ∈ RoleTable.all.flatMap RoleTable.roles)
    (mem' : role' ∈ RoleTable.all.flatMap RoleTable.roles) (same : d.spelling role = d.spelling role') :
    role = role' := by
  obtain ⟨checked, -, rfl⟩ := DialectSpec.validate_eq_ok_iff.mp valid
  have distinct := DialectSpec.checkTables_ok checked List.nodup_nil
  rw [List.map_nil, List.nil_append] at distinct
  exact List.inj_on_of_nodup_map distinct mem mem' same

theorem operatorRole?_spelling {spec : DialectSpec} {d : Dialect} (valid : spec.validate = .ok d)
    {role : Role} (operator : role ∈ RoleTable.operators.roles) :
    d.operatorRole? (d.spelling role) = some role := by
  have within : ∀ {r : Role}, r ∈ RoleTable.operators.roles → r ∈ RoleTable.all.flatMap RoleTable.roles :=
    fun mem => List.mem_flatMap.mpr ⟨.operators, by simp [RoleTable.all], mem⟩
  unfold operatorRole?
  cases found : RoleTable.operators.roles.find? (fun r => d.spelling r == d.spelling role) with
  | none => simpa using List.find?_eq_none.mp found role operator
  | some r =>
    have same : d.spelling r = d.spelling role := by simpa using List.find?_some found
    rw [spelling_injective valid (within (List.mem_of_find?_eq_some found)) (within operator) same]

end Dialect

/-- A lexeme of an operator kind is the spelling of an operator role of that kind. -/
theorem Lexicon.lexeme_operator {d : Dialect} {afterDot : Bool} {c : Char} {rest : List Char}
    {lexeme : Lexeme} (read : d.lexicon.lexeme afterDot c rest = some lexeme)
    (operator : lexeme.kind ∈ RoleTable.operators.roles.map Role.tokenKind) :
    ∃ role ∈ RoleTable.operators.roles, role.tokenKind = lexeme.kind ∧
      lexeme.payload = (d.spelling role).toList := by
  unfold Lexicon.lexeme at read
  dsimp only at read
  split at read
  · next sym found =>
    split at read
    · cases read
      have mem : sym ∈ d.symbols := List.mem_of_find?_eq_some found
      exact ⟨sym.role, Role.mem_operators_of_tokenKind _ operator, rfl,
        congrArg String.toList (Dialect.spelling_of_mem_symbols d mem)⟩
    · cases read
  · exfalso
    split at read
    · cases read
      exact Role.plain_kinds_not_operator.1 operator
    · split at read
      · cases read
        -- a word no symbol starts reads as a keyword or an identifier
        cases keyword : d.lexicon.dialect.keywordKind? _ with
        | none =>
          rw [keyword] at operator
          exact Role.plain_kinds_not_operator.2.2 operator
        | some kind =>
          rw [keyword] at operator
          obtain ⟨role, found, rfl⟩ := Option.map_eq_some_iff.mp keyword
          exact Role.keyword_tokenKind_not_operator role (List.mem_of_find?_eq_some found) operator
      · split at read
        · split at read
          · cases read
            exact Role.plain_kinds_not_operator.2.1 operator
          · cases read
        · cases read

theorem Parser.operatorOf_ok {β : Type} (pick : Role → Option β) (tok : Token) (s : Stream) (i : Nat)
    {role : Role} {op : β} (found : s.dialect.operatorRole? tok.payload = some role)
    (picked : pick role = some op) :
    Parser.operatorOf pick tok s i = .ok (op, i) := by
  simp only [Parser.operatorOf, Parser.roleOf, bind, ReaderT.bind, read, readThe, MonadReaderOf.read,
    ReaderT.read, StateT.bind, Except.bind, found, pure, ReaderT.pure, StateT.pure, Except.pure, picked]

/-- A dialect's parser reads the operator of every operator token its scanner
reads: at each kind the parser takes an operator of, the family it reads with
gives an operator, whatever the stream and position. -/
def Dialect.ReadsOperators (d : Dialect) : Prop :=
  ∀ (afterDot : Bool) (c : Char) (rest : List Char) (lexeme : Lexeme),
    d.lexicon.lexeme afterDot c rest = some lexeme →
    ∀ (tok : Token) (s : Stream) (i : Nat), tok.kind = lexeme.kind →
      tok.payload = String.ofList lexeme.payload → s.dialect = d →
      (tok.kind ∈ [.assign, .compoundAssign] → ∃ op, Parser.operatorOf AssignOp.ofRole tok s i = .ok (op, i)) ∧
      (tok.kind ∈ [.logicalOr, .logicalAnd] → ∃ op, Parser.operatorOf LogicalOp.ofRole tok s i = .ok (op, i)) ∧
      (tok.kind ∈ Parser.binaryKinds → ∃ op, Parser.operatorOf BinaryOp.ofRole tok s i = .ok (op, i)) ∧
      (tok.kind ∈ [.additive, .logicalNot] → ∃ op, Parser.operatorOf UnaryOp.ofRole tok s i = .ok (op, i)) ∧
      (tok.kind = .step → ∃ op, Parser.operatorOf StepOp.ofRole tok s i = .ok (op, i))

/-- A validated dialect reads every operator token it scans. -/
theorem Dialect.reads_operators {spec : DialectSpec} {d : Dialect} (valid : spec.validate = .ok d) :
    d.ReadsOperators := by
  unfold ReadsOperators
  intro afterDot c rest lexeme read tok s i kind payload dialect
  -- a family that takes every role of its kinds reads a token of one of them
  have reads : ∀ {β : Type} (pick : Role → Option β) (kinds : List TokenKind),
      (∀ role : Role, role.tokenKind ∈ kinds → (pick role).isSome) →
      (∀ k ∈ kinds, k ∈ RoleTable.operators.roles.map Role.tokenKind) →
      tok.kind ∈ kinds → ∃ op, Parser.operatorOf pick tok s i = .ok (op, i) := by
    intro β pick kinds family operator member
    obtain ⟨role, mem, same, spelled⟩ := Lexicon.lexeme_operator read (kind ▸ operator _ member)
    have found : s.dialect.operatorRole? tok.payload = some role := by
      rw [dialect, payload, spelled, String.ofList_toList]
      exact operatorRole?_spelling valid mem
    obtain ⟨op, picked⟩ := Option.isSome_iff_exists.mp (family role (same ▸ kind ▸ member))
    exact ⟨op, Parser.operatorOf_ok pick tok s i found picked⟩
  obtain ⟨assign, logical, binary, unary, step⟩ := Role.families_read
  exact ⟨reads _ _ assign (by decide), reads _ _ logical (by decide), reads _ _ binary (by decide),
    reads _ _ unary (by decide), fun isStep => reads _ _ step (by decide) (List.mem_singleton.mpr isStep)⟩

/-! ## The invariant -/

namespace Interp

open Eval

/-- An assignment to a node that is no name or member stops at the fallback,
with a fault that is not covered. -/
theorem assignment_refuses_nontarget (fuel scope : Nat) (op : AssignOp) (target value : Expr)
    (m : Machine) (notTarget : Parser.Expr.isTarget target = false) :
    (assignment (fuel + 1) scope op target value).run m =
        .error (.fault ⟨.invalidAssignment,
          Text.ofString ("Invalid assignment target " ++ target.render)⟩) m ∧
      ¬ (Signal.fault ⟨.invalidAssignment,
          Text.ofString ("Invalid assignment target " ++ target.render)⟩).Covered := by
  refine ⟨?_, fun covered => covered.2 (RuntimeFault.refusesTarget_fallback _)⟩
  cases target
  all_goals first
    | (simp only [assignment]; rfl)
    | simp [Parser.Expr.isTarget] at notTarget

/-- Every closure of the heap has a body the parser could have built, every
node evaluated assigns only to names and members, and every signal is
covered. -/
def targetedCode : Invariant where
  Holds _ m := m.heap.CodeTargeted
  ValueOk _ := True
  NativeOk _ := True
  ScopeOk _ := True
  SignalOk := Signal.Covered
  nodeOk := Expr.targetsAssignable

/-- A computation that keeps the code keeps the invariant. -/
theorem keeps_targetedCode {α : Type} {x : Eval α} (keeps : KeepsCode x) {ok : α → Prop}
    (always : ∀ a, ok a) (m₀ : Machine) (pre : Prop) : targetedCode.Keeps m₀ pre ok x := by
  rw [Invariant.keeps_iff]
  intro m _ targeted
  have ran := keeps.runs m
  cases result : x.run m with
  | ok a m' =>
    rw [result] at ran
    exact ⟨always a, fun c member => targeted c (ran ▸ member)⟩
  | error sig m' =>
    rw [result] at ran
    exact ⟨ran.1, fun c member => targeted c (ran.2 ▸ member)⟩

theorem targetedCode_lawful : targetedCode.Lawful where
  trans _ second := second
  stay reached := reached
  plain_value _ _ := trivial
  plain_signal _ plain := plain.covered
  thrown _ := Iff.rfl
  returned _ := Iff.rfl
  -- the node's own test is that its target is one, so the fallback is never reached
  invalidTarget _ _ _ _ checked refused :=
    absurd checked (by simp [targetedCode, Expr.targetsAssignable, refused])
  closureScope _ _ := trivial
  closureBody targeted _ := targeted.body _
  native _ _ := trivial
  boundMethod _ := trivial
  boundSelf _ := trivial
  elements _ _ _ _ := trivial
  exports _ _ _ _ := trivial
  lookup m₀ scope name :=
    keeps_targetedCode (lookup_keepsCode scope name) (fun _ => trivial) m₀ _
  assign m₀ scope name v :=
    keeps_targetedCode (assign_keepsCode scope name v) (fun _ => trivial) m₀ _
  declare m₀ scope name v constant :=
    keeps_targetedCode (declare_keepsCode scope name v constant) (fun _ => trivial) m₀ _
  childScope m₀ parent :=
    keeps_targetedCode (childScope_keepsCode parent) (fun _ => trivial) m₀ _
  allocClosure m₀ c := by
    mvcgen [onHeap]
    rename_i start _
    exact ⟨trivial, Heap.CodeTargeted.allocClosure start.2 start.1.2⟩
  newArray m₀ vs := keeps_targetedCode (newArray_keepsCode _) (fun _ => trivial) m₀ _
  newObject m₀ entries frozen :=
    keeps_targetedCode (newObject_keepsCode entries frozen) (fun _ => trivial) m₀ _
  getProperty m₀ scope obj key :=
    keeps_targetedCode (getProperty_keepsCode scope obj key) (fun _ => trivial) m₀ _
  setProperty m₀ obj key v :=
    keeps_targetedCode (setProperty_keepsCode obj key v) (fun _ => trivial) m₀ _
  exportNames m₀ scope names :=
    keeps_targetedCode (exportNames_keepsCode scope names) (fun _ => trivial) m₀ _
  invoke m₀ n args scope :=
    keeps_targetedCode (Library.invoke_keepsCode n args scope) (fun _ => trivial) m₀ _
  debug m₀ message attrs :=
    keeps_targetedCode (debug_keepsCode message attrs) (fun _ => trivial) m₀ _
  globalScope m₀ d :=
    @keeps_targetedCode _ _ (@Library.globalScope_keepsCode d) _ (fun _ => trivial) m₀ True
  push _ checked _ := checked
  pop _ _ _ _ body := body
  parsed parsed := Program.parse_targeted parsed

/-- A program the parser reads, in any dialect, never stops on a case the
evaluator leaves out. Run from a machine whose every closure the parser could
have built, it stops with no `NotImplemented` fault and without reaching the
fallback that refuses an assignment target, and it leaves a heap whose every
closure the parser could again have built. When the dialect is a validated
one, the parser also reads the operator of every operator token it is given,
so no operator node is left unbuilt for the evaluator's fallback. -/
theorem parsed_programs_stay_covered {d : Dialect} {source : String} {p : Program}
    (parsed : Program.parse d source = .ok p) (scope : Nat) (m : Machine)
    (targeted : m.heap.CodeTargeted) :
    (∀ spec : DialectSpec, spec.validate = .ok d → d.ReadsOperators) ∧
    match (program scope p).run m with
    | .ok _ m' => m'.heap.CodeTargeted
    | .error sig m' => sig.Covered ∧ m'.heap.CodeTargeted := by
  refine ⟨fun _ valid => Dialect.reads_operators valid, ?_⟩
  have keeps := Invariant.keeps_iff.mp (targetedCode_lawful.program m scope p)
  have ran := keeps m ⟨trivial, Program.parse_targeted parsed⟩ targeted
  cases result : (program scope p).run m with
  | ok v m' =>
    rw [result] at ran
    exact ran.2
  | error sig m' =>
    rw [result] at ran
    exact ran

/-- The assignment `x = 1;` of the myriad dialect, run from a fresh machine. -/
theorem assignment_program_stays_covered :
    Program.parse Builtin.myriadSpec.spelled "x = 1;" =
        .ok ⟨[.expr (.assign .set (.ident "x") (.number 1))]⟩ ∧
      (∀ spec : DialectSpec, spec.validate = .ok Builtin.myriadSpec.spelled →
        Builtin.myriadSpec.spelled.ReadsOperators) ∧
      (match (program 0 ⟨[.expr (.assign .set (.ident "x") (.number 1))]⟩).run default with
        | .ok _ m' => m'.heap.CodeTargeted
        | .error sig m' => sig.Covered ∧ m'.heap.CodeTargeted) := by
  have parsed : Program.parse Builtin.myriadSpec.spelled "x = 1;" =
      .ok ⟨[.expr (.assign .set (.ident "x") (.number 1))]⟩ := by
    rw [Program.parse_eq_within]
    rfl
  have fresh : (default : Machine).heap.CodeTargeted := by
    have none : (default : Machine).heap.closures = #[] := rfl
    intro c member
    simp [none] at member
  exact ⟨parsed, parsed_programs_stay_covered parsed 0 default fresh⟩

end Interp

end Vernacular
