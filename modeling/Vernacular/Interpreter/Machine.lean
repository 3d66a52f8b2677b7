import Vernacular.Interpreter.Show
import Vernacular.Files.Volume
import Vernacular.Dialect.Registry
/-!
# The machine

Everything evaluation reads and changes besides the syntax tree: the heap,
what was written to standard output and standard error, standard input with
the buffered readers that read from it, the file systems, the dialects, the
stack of modules being imported, a clock, a random source and the responses of
the requests being served.

Standard input is read through buffered readers, one per global scope. A
reader takes input in blocks of up to 4096 bytes, so a reader that reads first
can take input that a later reader will not see.
-/

set_option autoImplicit false

namespace Vernacular

/-- A response being built by a request handler: the status the handler set
(zero for none), whether it was sent, the headers so far, and, once the status
line is written, the status and the headers as they were then, and the body.
A status line that cannot be written stops the server; `halted` then holds why. -/
structure Response where
  code : Int
  sent : Bool
  headers : List (String × List String)
  written : Option (Int × List (String × List String))
  body : Text
  halted : Option String
deriving Inhabited

/-- The state of a running program. -/
structure Machine where
  heap : Heap
  stdout : Array Text
  stderr : Array Text
  stdin : List UInt8
  readers : Array (List UInt8)
  work : Option Volume
  builtin : Option Volume
  disk : Disk
  registry : Registry
  dialect : Dialect
  importing : List String
  clock : Int
  seed : Nat
  responses : Array Response
  logging : Bool
deriving Inhabited

/-- Evaluation: a computation on the machine that ends with a value or a signal. -/
abbrev Eval := EStateM Signal Machine

namespace Eval

/-- Run a heap operation. -/
def onHeap {α : Type} (f : Heap → α × Heap) : Eval α :=
  modifyGet fun m => let (a, h) := f m.heap; (a, { m with heap := h })

/-- Read the heap. -/
def heap : Eval Heap := do return (← get).heap

/-- Change the heap. -/
def updateHeap (f : Heap → Heap) : Eval Unit := modify fun m => { m with heap := f m.heap }

/-- Run a heap operation that can fail. -/
def orFail {α : Type} (r : Except Signal α) : Eval α :=
  match r with
  | .ok a => pure a
  | .error s => throw s

/-- Throw a string value, as a native function's catchable failure does. -/
def throwText {α : Type} (message : Text) : Eval α := throw (.thrown (.string message))

/-- Throw a string value from a `String` message. -/
def throwMessage {α : Type} (message : String) : Eval α := throwText (Text.ofString message)

/-- Append to standard output. -/
def writeOut (t : Text) : Eval Unit := modify fun m => { m with stdout := m.stdout.push t }

/-- Append to standard error. -/
def writeErr (t : Text) : Eval Unit := modify fun m => { m with stderr := m.stderr.push t }

/-- Allocate a value that holds elements. -/
def newArray (elements : Array Value) : Eval Value := onHeap (·.allocArray elements)

/-- Allocate an object from entries, possibly frozen. -/
def newObject (entries : List (Text × Value)) (frozen : Bool) : Eval Value :=
  onHeap (·.allocObject ⟨entries.foldl (fun acc (k, v) =>
    match acc.findIdx? (·.1 == k) with
    | some i => acc.set! i (k, v)
    | none => acc.push (k, v)) #[], frozen⟩)

/-- Allocate a native function. -/
def newNative (n : Native) : Eval Value := onHeap (·.allocNative n)

/-- The text of a value. -/
def text (v : Value) : Eval Text := do return (← heap).text v

/-- A value described for messages. -/
def describe (v : Value) : Eval Text := do return (← heap).describe v

end Eval

/-- The argument at a position, or `null` past the end. -/
def argAt (args : List Value) (i : Nat) : Value := args.getD i .null

/-- The failure of a native function that got too few arguments. -/
def requireArgs (name : String) (args : List Value) (count : Nat) : Eval Unit :=
  if args.length < count then
    Eval.throwMessage (name ++ " requires " ++ toString count ++ " arguments, got " ++
      toString args.length)
  else pure ()

/-- The string argument at a position. -/
def stringArg (name : String) (args : List Value) (i : Nat) : Eval Text :=
  match argAt args i with
  | .string t => pure t
  | v => Eval.throwMessage (name ++ " expects a string argument, got " ++ v.typeName)

/-- The number argument at a position. -/
def numberArg (name : String) (args : List Value) (i : Nat) : Eval Float :=
  match argAt args i with
  | .number x => pure x
  | v => Eval.throwMessage (name ++ " expects a number argument, got " ++ v.typeName)

end Vernacular
