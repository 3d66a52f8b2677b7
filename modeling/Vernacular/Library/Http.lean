import Vernacular.Library.Install
import Vernacular.Web.RequestLine
/-!
# Serving requests

`http.server(handler)` answers an object whose `listen(port)` would serve
requests with the handler. A handler is called with a request object, with
`headers`, `url`, `method` and `body`, and a response object, with `send`,
`set_header` and `status`.

The response follows the life of an HTTP response: the status line and the
headers are written once, when the handler sends or, failing that, when it
returns; headers set later are not seen. A handler that fails before sending
answers status 500 with the failure's message as plain text.

Header names are put in canonical form: the first letter and every letter
after a hyphen upper-case, the others lower-case, unless the name holds a
character that is not allowed in a header name.
-/

set_option autoImplicit false

namespace Vernacular

/-- Characters allowed in a header name. -/
def isHeaderNameChar (c : Char) : Bool :=
  isLetterChar c || isDigitChar c || c == '`' ||
    ['!', '#', '$', '%', '&', '\'', '*', '+', '-', '.', '^', '_', '|', '~'].contains c

/-- The canonical form of a header name. -/
def canonicalHeaderName (name : String) : String :=
  if !name.toList.all isHeaderNameChar then name
  else
    let step (acc : List Char × Bool) (c : Char) : List Char × Bool :=
      let c' := if acc.2 then c.toUpper else c.toLower
      (c' :: acc.1, c == '-')
    String.ofList ((name.toList.foldl step ([], true)).1.reverse)

/-- Set a header, replacing its values. -/
def setHeader (headers : List (String × List String)) (name value : String) :
    List (String × List String) :=
  let key := canonicalHeaderName name
  if headers.any (·.1 == key) then headers.map fun h => if h.1 == key then (key, [value]) else h
  else headers ++ [(key, [value])]

/-- Add a header value after the ones already there. -/
def addHeader (headers : List (String × List String)) (name value : String) :
    List (String × List String) :=
  let key := canonicalHeaderName name
  if headers.any (·.1 == key) then headers.map fun h => if h.1 == key then (key, h.2 ++ [value]) else h
  else headers ++ [(key, [value])]

/-- A request to serve: method, target, body and headers in order. -/
structure HttpRequest where
  method : String
  target : String
  body : String
  headers : List (String × String)
deriving Inhabited

/-- What serving a request produced. -/
structure HttpResult where
  status : Int
  headers : List (String × List String)
  body : Text
  stdout : Text
  stderr : Text
deriving Inhabited

/-- Whether a status can be written: it has three digits. -/
def validStatus (code : Int) : Bool := decide (100 ≤ code) && decide (code ≤ 999)

/-- Why a status line with this code cannot be written. -/
def invalidStatusMessage (code : Int) : String := "invalid WriteHeader code " ++ toString code

/-- Write the status line and headers, once. A status that is not three
digits is not written: it halts the server instead. -/
def Response.writeHeader (r : Response) (code : Int) : Response :=
  match r.written with
  | some _ => r
  | none =>
    if validStatus code then { r with written := some (code, r.headers) }
    else { r with halted := some (invalidStatusMessage code) }

/-- The status a response reports: the one set, or 200. -/
def Response.status (r : Response) : Int := if r.code == 0 then 200 else r.code

/-- A response before its handler runs: no status set, nothing sent or written. -/
def Response.fresh : Response := ⟨0, false, [], none, Text.empty, none⟩

/-- Send a body: the response is sent, its status line written with the status
it reports, and the body follows, unless the status could not be written. -/
def Response.send (r : Response) (text : Text) : Response :=
  let r := ({ r with sent := true } : Response).writeHeader r.status
  if r.halted.isSome then r else { r with body := r.body ++ text }

/-- Finish a response after its handler returned, or failed with a message. A
sent response stays as it is. Otherwise a failure answers status 500 with the
message as plain text, and a return writes the status the response reports. -/
def Response.finish (r : Response) (failure : Option Text) : Response :=
  match failure with
  | some message =>
    if r.sent then r
    else
      let headers := r.headers.filter (·.1 != "Content-Length")
      let headers := setHeader headers "Content-Type" "text/plain; charset=utf-8"
      let headers := setHeader headers "X-Content-Type-Options" "nosniff"
      let r := ({ r with headers } : Response).writeHeader 500
      { r with body := r.body ++ message ++ Text.ofString "\n" }
  | none => if r.sent then r else r.writeHeader r.status

namespace Library

/-- The response a handler is building. -/
def response (ref : Nat) : Eval Response := do
  return (← get).responses.getD ref default

/-- Change the response a handler is building. -/
def updateResponse (ref : Nat) (f : Response → Response) : Eval Unit :=
  modify fun m => { m with responses := m.responses.modify ref f }

/-- Run a method of a response object. -/
def responseAction (ref : Nat) (action : ResponseAction) (args : List Value) : Eval Value := do
  match action with
  | .send =>
    let r ← response ref
    if r.sent then Eval.throwMessage "response already sent"
    let text ← if args.isEmpty then pure Text.empty else Eval.text (argAt args 0)
    updateResponse ref (·.send text)
    if let some why := (← response ref).halted then throw (.host (Text.ofString why))
    return .null
  | .setHeader =>
    requireArgs "res.set_header" args 2
    let name ← Eval.text (argAt args 0)
    let value ← Eval.text (argAt args 1)
    updateResponse ref fun r =>
      { r with headers := setHeader r.headers name.toStringLossy value.toStringLossy }
    return .null
  | .status =>
    let code ← numberArg "res.status" args 0
    updateResponse ref fun r => { r with code := toInt64Truncated code }
    return .null

/-- `http.server(handler)`: an object whose `listen` would serve with the handler. -/
def server (args : List Value) (scope : Nat) : Eval Value := do
  requireArgs "http.server" args 1
  Eval.newObject [(Text.ofString "listen", ← Eval.newNative (.listen (argAt args 0) scope))] false

/-- `listen(port)`: checks its port; serving happens outside the program. -/
def listen (args : List Value) : Eval Value := do
  let _ ← numberArg "server.listen" args 0
  return .null

/-- A fresh response and the object a handler uses to build it. -/
def newResponse : Eval (Nat × Value) := do
  let ref ← modifyGet fun m =>
    (m.responses.size, { m with responses := m.responses.push Response.fresh })
  let obj ← Eval.newObject [
    (Text.ofString "send", ← Eval.newNative (.response ref .send)),
    (Text.ofString "set_header", ← Eval.newNative (.response ref .setHeader)),
    (Text.ofString "status", ← Eval.newNative (.response ref .status))] false
  return (ref, obj)

/-- The object a handler receives for a request, with the method and request
URI its request line was read as. A header with one value maps to it; one
with several maps to an array of them. -/
def requestObject (req : HttpRequest) (method uri : String) : Eval Value := do
  let grouped := req.headers.foldl (fun acc (n, v) => addHeader acc n v) []
  let mut fields : List (Text × Value) := []
  for (name, values) in grouped do
    let v ← match values with
      | [one] => pure (Value.string (Text.ofString one))
      | many => Eval.newArray (many.map fun s => Value.string (Text.ofString s)).toArray
    fields := fields ++ [(Text.ofString name, v)]
  let headers ← Eval.newObject fields false
  Eval.newObject [(Text.ofString "headers", headers),
    (Text.ofString "url", .string (Text.ofString uri)),
    (Text.ofString "method", .string (Text.ofString method)),
    (Text.ofString "body", .string (Text.ofString req.body))] false

/-- Finish a response after its handler returned or failed with a message. -/
def finishResponse (ref : Nat) (failure : Option Text) : Eval Unit :=
  updateResponse ref (·.finish failure)

end Library

end Vernacular
