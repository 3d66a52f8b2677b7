import Vernacular.Library.Install
import Vernacular.Library.Math
import Vernacular.Library.Json
import Vernacular.Library.Files
import Vernacular.Library.NumberFormat
import Vernacular.Library.Date
import Vernacular.Library.Http
/-!
# Calling native functions

The natives that do not call back into evaluation, by their description.
-/

set_option autoImplicit false

namespace Vernacular

namespace Library

/-- Call a native function that does not call back into evaluation. -/
def invoke (n : Native) (args : List Value) (scope : Nat) : Eval Value :=
  match n with
  | .print => print args
  | .input reader => input reader args
  | .format => format args
  | .typeOf => typeOf args
  | .length => length args
  | .constant v => pure v
  | .stringMethod m => stringMethod m args
  | .arrayMethod m => arrayMethod m args
  | .numberMethod .codeToStr => codeToStr args
  | .math fn => math fn args
  | .random => random
  | .jsonParse => jsonParse args
  | .jsonStringify => jsonStringify args
  | .numberMethod .format => numberFormat args
  | .now => now
  | .date => date args
  | .dateFormat ms => dateFormat ms args
  | .file op => fileOp op args
  | .server => server args scope
  | .listen _ _ => listen args
  | .response ref action => responseAction ref action args
  | .bound method _ => Eval.describe method >>= fun d =>
    throw (.fault ⟨.notCallable, d ++ Text.ofString " is not a function"⟩)

end Library

end Vernacular
