import Vernacular.Interpreter.Value
import Vernacular.Syntax.Error
/-!
# Faults and signals

Evaluation stops early for one of three reasons: a thrown value, which
`try`/`catch` can catch; a runtime fault, which nothing catches; or a control
signal (`return`, `break`, `continue`) on its way to the construct that ends
it. A control signal that leaves its construct becomes a runtime fault.

Parse errors of imported modules and errors of the file system pass through
evaluation unchanged. Running out of fuel is kept apart from all of these.
-/

set_option autoImplicit false

namespace Vernacular

/-- The kinds of runtime faults. -/
inductive FaultKind where
  | undefinedVariable
  | constantAssignment
  | redeclaration
  | invalidAssignment
  | nullProperty
  | unknownProperty
  | notCallable
  | notImplemented
  | illegalReturn
  | illegalBreak
  | illegalContinue
  | moduleNotFound
  | importCycle
  | readOnly
deriving DecidableEq, Repr, Inhabited

/-- The name of a fault kind. -/
def FaultKind.name : FaultKind → String
  | .undefinedVariable => "UndefinedVariable"
  | .constantAssignment => "ConstantAssignment"
  | .redeclaration => "Redeclaration"
  | .invalidAssignment => "InvalidAssignment"
  | .nullProperty => "NullProperty"
  | .unknownProperty => "UnknownProperty"
  | .notCallable => "NotCallable"
  | .notImplemented => "NotImplemented"
  | .illegalReturn => "IllegalReturn"
  | .illegalBreak => "IllegalBreak"
  | .illegalContinue => "IllegalContinue"
  | .moduleNotFound => "ModuleNotFound"
  | .importCycle => "ImportCycle"
  | .readOnly => "ReadOnly"

/-- A runtime fault: its kind and the reason in words. -/
structure RuntimeFault where
  kind : FaultKind
  reason : Text
deriving Repr, Inhabited

/-- The message of a runtime fault. -/
def RuntimeFault.message (f : RuntimeFault) : Text :=
  Text.ofString ("Runtime error (" ++ f.kind.name ++ "): ") ++ f.reason

/-- Why evaluation stopped before producing a value. -/
inductive Signal where
  | thrown (v : Value)
  | fault (f : RuntimeFault)
  | parseError (e : ParseError)
  | host (message : Text)
  | returned (v : Value)
  | broke
  | continued
  | exhausted
  | panicked (message : String)
deriving Inhabited

/-- A fault from its kind and reason. -/
def Signal.failure (kind : FaultKind) (reason : String) : Signal :=
  .fault ⟨kind, Text.ofString reason⟩

/-- A control signal that leaves the function or loop that would end it
becomes a runtime fault; other signals stay as they are. -/
def Signal.escaped : Signal → Signal
  | .returned _ => .failure .illegalReturn "Cannot use return outside the function"
  | .broke => .failure .illegalBreak "Cannot use break outside the loop"
  | .continued => .failure .illegalContinue "Cannot use continue outside the loop"
  | s => s

end Vernacular
