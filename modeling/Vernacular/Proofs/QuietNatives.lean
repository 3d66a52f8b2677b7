import Vernacular.Proofs.NativeErrors
/-!
# Natives stop with no jump

A native function of the library fails only by throwing a value, by a fault,
by a host error or by stopping the program; it never stops with `return`,
`break` or `continue`. The natives of the core library stop only with errors
or a panic (`Library.invoke_errs_or_panics`); the natives of files and of the
server get a `@[spec]` lemma each, proved by `mvcgen` from the lemmas of the
helpers they call. So `Library.invoke` is quiet for every native it
dispatches, as is the installation of a global scope.
-/

set_option autoImplicit false
set_option mvcgen.warning false

open Std.Do

namespace Vernacular

open Eval

attribute [local spec] heap_quiet onHeap_quiet updateHeap_quiet newArray_quiet newObject_quiet newNative_quiet text_quiet describe_quiet
  writeOut_quiet writeErr_quiet throwMessage_quiet debug_quiet unknownProperty_quiet method_quiet getProperty_quiet setProperty_quiet

@[local spec] theorem requireArgs_quiet (name : String) (args : List Value) (count : Nat) :
    Quiet (requireArgs name args count) :=
  (requireArgs_errs name args count).quiet

@[local spec] theorem stringArg_quiet (name : String) (args : List Value) (i : Nat) :
    Quiet (stringArg name args i) :=
  (stringArg_errs name args i).quiet

@[local spec] theorem numberArg_quiet (name : String) (args : List Value) (i : Nat) :
    Quiet (numberArg name args i) :=
  (numberArg_errs name args i).quiet

namespace Library

@[local spec] theorem arrayArg_quiet (name : String) (args : List Value) : Quiet (arrayArg name args) :=
  (arrayArg_errs name args).quiet

@[local spec] theorem workVolume_quiet : Quiet workVolume := by mvcgen [workVolume]

@[local spec] theorem setWork_quiet (change : Volume × Disk) : Quiet (setWork change) := by mvcgen [setWork]

@[local spec] theorem fileResult_quiet {α : Type} (name : String) (r : Except FileError α) :
    Quiet (fileResult name r) := by
  cases r <;> mvcgen [fileResult]

@[local spec] theorem statObject_quiet (info : FileInfo) : Quiet (statObject info) := by mvcgen [statObject]

@[local spec] theorem fileOp_quiet (op : FileOp) (args : List Value) : Quiet (fileOp op args) := by
  cases op <;> mvcgen [fileOp]

@[local spec] theorem server_quiet (args : List Value) (scope : Nat) : Quiet (server args scope) := by
  mvcgen [server]

@[local spec] theorem listen_quiet (args : List Value) : Quiet (listen args) := by mvcgen [listen]

@[local spec] theorem response_quiet (ref : Nat) : Quiet (response ref) := by mvcgen [response]

@[local spec] theorem updateResponse_quiet (ref : Nat) (f : Response → Response) :
    Quiet (updateResponse ref f) := by
  mvcgen [updateResponse]

@[local spec] theorem responseAction_quiet (ref : Nat) (action : ResponseAction) (args : List Value) :
    Quiet (responseAction ref action args) := by
  cases action <;> mvcgen [responseAction]

/-- Every native the dispatcher runs stops with no jump. -/
@[local spec] theorem invoke_quiet (n : Native) (args : List Value) (scope : Nat) :
    Quiet (invoke n args scope) := by
  cases core : n.isCore
  case true =>
    -- a native of the core library stops with an error or with a panic
    refine quiet_iff.mpr fun m sig m' stopped => ?_
    rcases (triple_iff_runs _ _).mp (invoke_errs_or_panics n core args scope) m sig m' stopped
      with error | ⟨-, -, rfl⟩
    · exact Signal.jump?_of_isError error
    · rfl
  case false =>
    cases n
    case arrayMethod method => exact (arrayMethod_errs method args).quiet
    case file | server | listen | response | bound => mvcgen [invoke]
    all_goals simp [Native.isCore] at core

@[local spec] theorem newReader_quiet : Quiet newReader := by mvcgen [newReader]

@[local spec] theorem namespaceOf_quiet (entries : List (String × Sum Native Value)) :
    Quiet (namespaceOf entries) := by
  mvcgen [namespaceOf] invariants
  · post⟨fun _ => ⌜True⌝, fun sig => ⌜sig.jump? = none⌝⟩
  all_goals exact fun _ quiet => quiet

@[local spec] theorem globalScope_quiet (d : Dialect) : Quiet (globalScope d) := by
  unfold globalScope
  generalize globalEntries d = entries
  mvcgen invariants
  · post⟨fun _ => ⌜True⌝, fun sig => ⌜sig.jump? = none⌝⟩
  all_goals exact fun _ quiet => quiet

end Library

end Vernacular
