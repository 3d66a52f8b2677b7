import Mathlib
import Vernacular.Proofs.Jumps
import Vernacular.Library.Dispatch
/-!
# Natives of the core library end with a value or an error

The core library is what a global scope provides besides files and the
server: `print`, `input`, `format`, `typeof`, `len`, the `math`, `dt` and
`json` namespaces, and the methods of strings, arrays and numbers. Each of
its natives takes whatever values a script passes.

Main statement (`Library.core_natives_panic_only_on_nan_indent`): for every
argument list, a native of the core library returns a value or stops with an
error (a thrown value, a fault, a parse error or a host error), never with a
jump or for want of fuel, and it stops the program only in one case:
`json.stringify` given a NaN as its indent, whose count of spaces is then a
negative number of repeats. There it always stops the program
(`Library.jsonStringify_panics`).

Each function gets a triple saying how it may stop, proved by `mvcgen` from
the triples of the functions it calls.
-/

set_option autoImplicit false
set_option mvcgen.warning false

open Std.Do

namespace Vernacular

/-- An error: a thrown value, which `try`/`catch` can catch, a runtime fault,
a parse error or an error of the host. -/
def Signal.isError : Signal → Bool
  | .thrown _ | .fault _ | .parseError _ | .host _ => true
  | _ => false

/-- The natives of the core library that do not call back into evaluation:
the globals `print`, `input`, `format`, `typeof` and `len`, the `math`, `dt`
and `json` namespaces with the fields of dates, and the methods of strings,
arrays and numbers but `foreach`. -/
def Native.isCore : Native → Bool
  | .print | .input _ | .format | .typeOf | .length | .constant _ | .stringMethod _
  | .numberMethod _ | .math _ | .random | .jsonParse | .jsonStringify
  | .now | .date | .dateFormat _ => true
  -- `foreach` calls back into evaluation
  | .arrayMethod .foreach => false
  | .arrayMethod _ => true
  | _ => false

/-- The indent argument of `json.stringify` is a NaN. -/
def NanIndent (args : List Value) : Prop := ∃ x, argAt args 1 = .number x ∧ x.isNaN = true

/-- `x` stops only with an error. -/
abbrev Eval.Errs {α : Type} (x : Eval α) : Prop :=
  ⦃⌜True⌝⦄ x ⦃post⟨fun _ => ⌜True⌝, fun sig => ⌜sig.isError = true⌝⟩⦄

open Eval

variable {α : Type}

/-- An error is no jump. -/
theorem Signal.jump?_of_isError {sig : Signal} (error : sig.isError = true) : sig.jump? = none := by
  cases sig <;> simp_all [Signal.isError, Signal.jump?]

/-- What stops only with an error stops with no jump. -/
theorem Eval.Errs.quiet {x : Eval α} (errs : Errs x) : Quiet x :=
  quiet_iff.mpr fun m sig m' stopped => Signal.jump?_of_isError ((triple_iff_runs x _).mp errs m sig m' stopped)

@[local spec] theorem heap_errs : Errs heap := by mvcgen [heap]

@[local spec] theorem onHeap_errs {β : Type} (f : Heap → β × Heap) : Errs (onHeap f) := by
  mvcgen [onHeap]

@[local spec] theorem updateHeap_errs (f : Heap → Heap) : Errs (updateHeap f) := by
  mvcgen [updateHeap]

@[local spec] theorem newArray_errs (elements : Array Value) : Errs (newArray elements) := by
  mvcgen [newArray]

@[local spec] theorem newObject_errs (entries : List (Text × Value)) (frozen : Bool) :
    Errs (newObject entries frozen) := by
  mvcgen [newObject]

@[local spec] theorem newNative_errs (n : Native) : Errs (newNative n) := by mvcgen [newNative]

@[local spec] theorem text_errs (v : Value) : Errs (text v) := by mvcgen [text]

@[local spec] theorem writeOut_errs (t : Text) : Errs (writeOut t) := by mvcgen [writeOut]

@[local spec] theorem throwMessage_errs (message : String) : Errs (throwMessage message : Eval α) := by
  mvcgen [throwMessage, throwText]

theorem mapM_errs {β : Type} (f : α → Eval β) (each : ∀ a, Errs (f a)) (xs : List α) :
    Errs (xs.mapM f) := by
  induction xs with
  | nil => mvcgen
  | cons x xs ih =>
    rw [List.mapM_cons]
    mvcgen [each, ih]

@[local spec] theorem requireArgs_errs (name : String) (args : List Value) (count : Nat) :
    Errs (requireArgs name args count) := by
  mvcgen [requireArgs]

@[local spec] theorem stringArg_errs (name : String) (args : List Value) (i : Nat) :
    Errs (stringArg name args i) := by
  mvcgen [stringArg]

@[local spec] theorem numberArg_errs (name : String) (args : List Value) (i : Nat) :
    Errs (numberArg name args i) := by
  mvcgen [numberArg]

theorem Eval.ofJson_errs (fuel : Nat) (tree : JsonTree) : Errs (ofJson fuel tree) := by
  induction fuel generalizing tree with
  | zero => mvcgen [ofJson]
  | succ fuel ih =>
    cases tree with
    | array elements =>
      have values := mapM_errs _ ih elements
      mvcgen [ofJson, values]
    | object entries =>
      have members := mapM_errs (fun (entry : Text × JsonTree) => do
        return (entry.1, ← ofJson fuel entry.2)) (fun entry => by mvcgen [ih]) entries
      mvcgen [ofJson, members]
    | _ => mvcgen [ofJson]

@[local spec] theorem Eval.decodeJson_errs (t : Text) : Errs (decodeJson t) := by
  have trees := ofJson_errs (t.size + 2)
  mvcgen [decodeJson, trees]

namespace Library

@[local spec] theorem arrayArg_errs (name : String) (args : List Value) : Errs (arrayArg name args) := by
  mvcgen [arrayArg]

@[local spec] theorem print_errs (args : List Value) : Errs (print args) := by mvcgen [print]

@[local spec] theorem readLine_errs (reader : Nat) : Errs (readLine reader) := by mvcgen [readLine]

@[local spec] theorem input_errs (reader : Nat) (args : List Value) : Errs (input reader args) := by
  mvcgen [input]

@[local spec] theorem format_errs (args : List Value) : Errs (format args) := by mvcgen [format]

@[local spec] theorem typeOf_errs (args : List Value) : Errs (typeOf args) := by mvcgen [typeOf]

@[local spec] theorem length_errs (args : List Value) : Errs (length args) := by mvcgen [length]

@[local spec] theorem stringMethod_errs (m : StringMethod) (args : List Value) :
    Errs (stringMethod m args) := by
  mvcgen [stringMethod]

@[local spec] theorem arrayMethod_errs (m : ArrayMethod) (args : List Value) :
    Errs (arrayMethod m args) := by
  mvcgen [arrayMethod]

@[local spec] theorem codeToStr_errs (args : List Value) : Errs (codeToStr args) := by mvcgen [codeToStr]

@[local spec] theorem math_errs (fn : MathFn) (args : List Value) : Errs (math fn args) := by mvcgen [math]

@[local spec] theorem random_errs : Errs random := by mvcgen [random]

@[local spec] theorem jsonParse_errs (args : List Value) : Errs (jsonParse args) := by mvcgen [jsonParse]

@[local spec] theorem numberFormat_errs (args : List Value) : Errs (numberFormat args) := by
  mvcgen [numberFormat]

@[local spec] theorem now_errs : Errs now := by mvcgen [now]

-- Checking a term whose type mentions `dateObject ms` makes Lean unfold it into
-- the calendar arithmetic; it is opened by its equation only.
attribute [local irreducible] dateObject

@[local spec] theorem dateObject_errs (ms : Int) : Errs (dateObject ms) := by
  have constants := mapM_errs (fun (field : String × Float) => do
    return (Text.ofString field.1, ← newNative (.constant (.number field.2))))
    (fun field => by mvcgen)
  unfold dateObject
  generalize CivilTime.ofMillis ms = t
  mvcgen [constants]

@[local spec] theorem dateInstant_errs (args : List Value) : Errs (dateInstant args) := by
  mvcgen [dateInstant]

@[local spec] theorem date_errs (args : List Value) : Errs (date args) := by mvcgen [date]

@[local spec] theorem dateFormat_errs (ms : Int) (args : List Value) : Errs (dateFormat ms args) := by
  mvcgen [dateFormat]

/-- `json.stringify` stops with an error, or stops the program when its indent
is a NaN. -/
theorem jsonStringify_errs_or_panics (args : List Value) :
    ⦃⌜True⌝⦄ jsonStringify args
    ⦃post⟨fun _ => ⌜True⌝, fun sig => ⌜sig.isError = true ∨ (NanIndent args ∧ sig = .panicked "strings: negative Repeat count")⌝⟩⦄ := by
  unfold jsonStringify
  -- `mvcgen` does not split the test for a NaN indent, which matches on the argument
  cases second : argAt args 1 with
  | number x =>
    cases nan : x.isNaN <;> simp only [nan]
    case false =>
      mvcgen
      all_goals exact fun _ error => .inl error
    case true =>
      mvcgen
      · exact .inr ⟨x, second, nan⟩
      · exact fun _ error => .inl error
  | _ =>
    mvcgen
    all_goals exact fun _ error => .inl error

/-- `json.stringify` with a NaN indent stops the program, whatever the value. -/
theorem jsonStringify_panics (args : List Value) (nan : NanIndent args) (m : Machine) :
    (jsonStringify args).run m = .error (.panicked "strings: negative Repeat count") m := by
  obtain ⟨x, second, isNan⟩ := nan
  -- a second argument that is not `null` is one the script passed
  have passed : ¬ args.length < 1 := by
    intro short
    simp [argAt, List.getElem?_eq_none (by omega : args.length ≤ 1)] at second
  simp only [jsonStringify, requireArgs, passed, second, isNan, if_false, if_true]
  rfl

/-- The natives of the core library stop with an error, or stop the program
as `json.stringify` with a NaN indent. -/
theorem invoke_errs_or_panics (n : Native) (core : n.isCore = true) (args : List Value) (scope : Nat) :
    ⦃⌜True⌝⦄ invoke n args scope
    ⦃post⟨fun _ => ⌜True⌝, fun sig => ⌜sig.isError = true ∨
      (n = .jsonStringify ∧ NanIndent args ∧ sig = .panicked "strings: negative Repeat count")⌝⟩⦄ := by
  cases n
  case jsonStringify =>
    mvcgen [invoke, jsonStringify_errs_or_panics]
    exact fun _ stops => stops.imp_right fun nanPanic => ⟨trivial, nanPanic⟩
  case file | server | listen | response | bound => simp [Native.isCore] at core
  all_goals
    mvcgen [invoke]
    all_goals exact fun _ error => .inl error

/-- A native of the core library, given any arguments, returns a value or
stops with an error, never with a jump or for want of fuel; it stops the
program only as `json.stringify` with a NaN indent. -/
theorem core_natives_panic_only_on_nan_indent (n : Native) (core : n.isCore = true)
    (args : List Value) (scope : Nat) (m m' : Machine) (sig : Signal)
    (stopped : (invoke n args scope).run m = .error sig m') :
    sig.isError = true ∨
      (n = .jsonStringify ∧ NanIndent args ∧ sig = .panicked "strings: negative Repeat count") :=
  (triple_iff_runs _ _).mp (invoke_errs_or_panics n core args scope) m sig m' stopped

/-- The stop of `json.stringify(1, 0/0)` is the one panic of the core library. -/
theorem stringify_nan_indent_panic_is_classified :
    (Signal.panicked "strings: negative Repeat count").isError = true ∨
      (Native.jsonStringify = .jsonStringify ∧ NanIndent [.number 1, .number (0 / 0)] ∧
        Signal.panicked "strings: negative Repeat count" = .panicked "strings: negative Repeat count") :=
  core_natives_panic_only_on_nan_indent .jsonStringify rfl _ 0 default default _
    (jsonStringify_panics _ ⟨0 / 0, rfl, by decide⟩ default)

/-- `json.stringify(1, 0/0)` stops the program instead of returning `'1'`. -/
theorem stringify_nan_indent_stops_program :
    (invoke .jsonStringify [.number 1, .number (0 / 0)] 0).run default =
      .error (.panicked "strings: negative Repeat count") default :=
  jsonStringify_panics _ ⟨0 / 0, rfl, by decide⟩ default

end Library

end Vernacular
