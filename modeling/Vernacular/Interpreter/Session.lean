import Vernacular.Interpreter.Eval
import Vernacular.Interpreter.Snapshot
import Vernacular.Interpreter.SourceForm
/-!
# Sessions

A session is an interpreter with a current dialect and, once a source has
run, the global scope that later sources run in. Running a source parses it
in the current dialect and evaluates it in that scope.

In strict mode a failure is the result of the run. Otherwise it is reported
on standard error as `ERROR ` and its message, with the offending line under
a parse error, and the run gives `nothing`.
-/

set_option autoImplicit false

namespace Vernacular

/-- How a session is set up. -/
structure Config where
  registry : Registry
  dialect : String
  work : Option Volume
  builtin : Option Volume
  disk : Disk
  stdin : String
  strict : Bool
  logging : Bool

/-- Why a run failed. -/
inductive Failure where
  | parseError (e : ParseError)
  | fault (f : RuntimeFault)
  | thrown (v : Value)
  | host (message : Text)
  | exhausted
  | panicked (message : String)
deriving Inhabited

namespace Failure

/-- The failure a signal that reached the top stands for. -/
def ofSignal (s : Signal) : Failure :=
  match s.escaped with
  | .thrown v => thrown v
  | .fault f => fault f
  | .parseError e => parseError e
  | .host m => host m
  | .panicked m => panicked m
  | _ => exhausted

/-- The failure of a parse. -/
def ofParse : ParseFault → Failure
  | .error e => parseError e
  | .exhausted => exhausted

/-- The message of a failure. -/
def message (h : Heap) : Failure → Text
  | parseError e => Text.ofString e.render
  | fault f => f.message
  | thrown v => Text.ofString "Uncaught " ++ h.text v
  | host m => m
  | exhausted => Text.ofString "evaluation ran out of fuel"
  | panicked m => Text.ofString m

/-- Whether a failure stops the whole program rather than the run. -/
def isPanic : Failure → Bool
  | panicked _ => true
  | _ => false

/-- The message of a failure as a report shows it: a parse error in the
source itself also shows the line and a caret. -/
def report (h : Heap) (source : String) : Failure → Text
  | parseError e => Text.ofString (e.withContext source)
  | f => f.message h

end Failure

/-- A fresh machine for a configuration. -/
def Machine.start (c : Config) : Machine where
  heap := Heap.empty
  stdout := #[]
  stderr := #[]
  stdin := (Text.ofString c.stdin).bytes
  readers := #[]
  work := c.work
  builtin := c.builtin
  disk := c.disk
  registry := c.registry
  dialect := c.registry.get c.dialect
  importing := []
  clock := 1700000000000
  seed := 1
  responses := #[]
  logging := c.logging

/-- What one run produced and wrote. -/
structure StepResult where
  outcome : Except Failure Value
  stdout : Text
  stderr : Text
  heap : Heap

/-- An interpreter with its machine and the global scope of earlier runs. -/
structure Session where
  machine : Machine
  strict : Bool
  scope : Option Nat

namespace Session

/-- A new session. -/
def start (c : Config) : Session := ⟨Machine.start c, c.strict, none⟩

/-- Run an evaluation on the session's machine. -/
def exec {α : Type} (s : Session) (e : Eval α) : Except Signal α × Session :=
  match e.run s.machine with
  | .ok a m => (.ok a, { s with machine := m })
  | .error sig m => (.error sig, { s with machine := m })

/-- The global scope of the session, made in the current dialect if there is
none yet. -/
def ensureScope (s : Session) : Nat × Session :=
  match s.scope with
  | some scope => (scope, s)
  | none =>
    match s.exec (Library.globalScope s.machine.dialect) with
    | (.ok scope, s) => (scope, { s with scope := some scope })
    | (.error _, s) => (0, s)

/-- Take what was written to the output streams so far. -/
def takeOutput (s : Session) : Text × Text × Session :=
  (Text.concat s.machine.stdout.toList, Text.concat s.machine.stderr.toList,
    { s with machine := { s.machine with stdout := #[], stderr := #[] } })

/-- Run a source in the session. -/
def run (s : Session) (source : String) : StepResult × Session :=
  let (scope, s) := s.ensureScope
  let (outcome, s) : Except Failure Value × Session :=
    match Program.parse s.machine.dialect source with
    | .error f => (.error (Failure.ofParse f), s)
    | .ok p =>
      match s.exec (Interp.program scope p) with
      | (.ok v, s) => (.ok v, s)
      | (.error sig, s) => (.error (Failure.ofSignal sig), s)
  let (outcome, s) : Except Failure Value × Session :=
    match outcome with
    | .error f =>
      if s.strict || f.isPanic then (.error f, s)
      else
        let message := (f.message s.machine.heap).toStringLossy
        let (_, s) := s.exec (Eval.debug "run failed" [("error", .text message)])
        let line := Text.ofString "ERROR " ++ f.report s.machine.heap source ++ Text.ofString "\n"
        (.ok .nothing, { s with machine := { s.machine with stderr := s.machine.stderr.push line } })
    | ok => (ok, s)
  let (out, err, s) := s.takeOutput
  (⟨outcome, out, err, s.machine.heap⟩, s)

/-- Handle one request with a handler, in a scope: a fresh response and the
request object are made, the handler is called with them, and the response is
finished with the handler's failure, if it failed; a stop of the program is
passed on. The result is the response's index. -/
def handle (handler : Value) (req : HttpRequest) (method uri : String) (scope : Nat) : Eval Nat := do
  let (ref, resObj) ← Library.newResponse
  let reqObj ← Library.requestObject req method uri
  let failure ← tryCatch
    (do discard <| Interp.call Interp.fuel handler [reqObj, resObj] scope; pure none)
    fun sig => match sig with
      | .panicked _ => throw sig
      | _ => do return some ((Failure.ofSignal sig).message (← Eval.heap))
  Library.finishResponse ref failure
  return ref

/-- Serve one request with a handler, in the session's global scope. The
result holds the status as written, the headers as they stand once the handler
returns, the body, and what the handler printed, or why the
server halted: the request line could not be read, the handler's status
could not be written, or the handler stopped the program. -/
def serve (s : Session) (handler : Value) (req : HttpRequest) : Except String HttpResult × Session :=
  match RequestLine.read req.method req.target with
  | .error why => (.error why, s)
  | .ok (method, uri) =>
    let (scope, s) := s.ensureScope
    let (ref, panic, s) := match s.exec (handle handler req method uri scope) with
      | (.ok ref, s) => (ref, none, s)
      | (.error (.panicked m), s) => (s.machine.responses.size, some m, s)
      | (.error _, s) => (s.machine.responses.size, none, s)
    let r := s.machine.responses.getD ref default
    let (out, err, s) := s.takeOutput
    let status := (r.written.map (·.1)).getD r.status
    let headers := r.headers.mergeSort (fun a b => decide (a.1 ≤ b.1))
    match panic.orElse fun _ => r.halted with
    | some why => (.error why, s)
    | none => (.ok ⟨status, headers, r.body, out, err⟩, s)

/-- Switch to a registered dialect; the next run starts a new global scope.
An unknown name changes nothing. -/
def switchDialect (s : Session) (name : String) : Bool × Session :=
  match s.machine.registry.lookup name with
  | some d =>
    let s := { s with machine := { s.machine with dialect := d }, scope := none }
    (true, (s.exec (Eval.debug "dialect switched" [("dialect", .text name)])).2)
  | none => (false, s)

end Session

/-- A configuration with the standard dialects, no filesystems, empty input
and strict failures. -/
def Config.plain : Config :=
  ⟨Registry.standard, Registry.defaultName, none, none, Disk.empty, "", true, false⟩

/-- The text that reads a source form back in a dialect: it binds the form to
`v` and then evaluates `v`, with single blanks between the tokens and after
each semicolon. -/
def Dialect.readBackText (d : Dialect) (form : Text) : String :=
  String.join [d.spelling .letWord, " v ", d.spelling .equal, " ", form.toStringLossy, " ",
    d.spelling .semiColon, " v ", d.spelling .semiColon, " "]

/-- What becomes of a value's source form. -/
inductive RoundTrip where
  /-- The value has no source form, for the reason given. -/
  | noForm (reason : String)
  /-- The source form and the result of reading it back with fresh globals. -/
  | form (text : Text) (readBack : StepResult)

/-- Write a value of a heap in a dialect and read the text back in a new
session of the same registry. -/
def RoundTrip.of (c : Config) (h : Heap) (target : String) (v : Value) : RoundTrip :=
  let d := c.registry.get target
  match h.source d v with
  | .error reason => .noForm reason
  | .ok text =>
    let (res, _) := (Session.start { c with dialect := target, strict := true }).run
      (d.readBackText text)
    .form text res

/-- The value a JSON document decodes to, on a fresh heap, or the decoder's
message. -/
def decodeJsonDocument (source : String) : Except String (Value × Heap) :=
  match (Eval.decodeJson (Text.ofString source)).run (Machine.start Config.plain) with
  | .ok (.ok v) m => .ok (v, m.heap)
  | .ok (.error e) _ => .error e
  | .error _ _ => .error "unexpected end of JSON input"

end Vernacular
