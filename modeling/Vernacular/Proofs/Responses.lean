import Mathlib
import Vernacular.Proofs.QuietNatives
/-!
# Responses

A handler answers its request through three methods of the response object:
`status` sets the code, `set_header` a header and `send` the body. The first
send writes the status line with the code in force and appends the body; a
later send is refused; when the handler ends, a response it did not send is
finished with status 500 and the failure's message, or with the status line
alone.

A sequence of such calls (`ResponseCall`) asks for one answer, read off the
calls alone (`ResponseCall.answer`): the status set last before the first send
(200 when none or 0 was set) and that send's text, or 500 and the message, or
the last status and no body. `Response.Pending.finish_run` proves that a fresh
response, after any calls and either exit, shows that answer, except that a
code outside 100..999 is never written: the response halts instead, with
nothing written and no body (`ResponseCall.outcome`). The status line, once
written, is never written again (`ResponseCall.run_written`). Each method of a
response object makes exactly the call its arguments name, on its own
response, and changes nothing else of the machine
(`Library.responseAction_calls`).
-/

set_option autoImplicit false
set_option mvcgen.warning false

open Std.Do

namespace Vernacular

/-- A call a handler makes on its response object: set the status, set a
header, or send a body. -/
inductive ResponseCall
  | status (code : Int)
  | header (name value : String)
  | send (text : Text)

namespace ResponseCall

/-- What a call does to the response, as the response object's methods do; a
second send is refused and changes nothing. -/
def apply : ResponseCall → Response → Response
  | .status code, r => { r with code }
  | .header name value, r => { r with headers := setHeader r.headers name value }
  | .send text, r => if r.sent then r else r.send text

/-- The response after a sequence of calls. -/
def run (r : Response) (calls : List ResponseCall) : Response := calls.foldl (fun r c => c.apply r) r

/-- The first send of a sequence of calls, with the status set before it,
reading from a status `code`. -/
def firstSend : Int → List ResponseCall → Option (Int × Text)
  | _, [] => none
  | _, .status code :: calls => firstSend code calls
  | code, .header _ _ :: calls => firstSend code calls
  | code, .send text :: _ => some (code, text)

/-- The last status set, reading from a status `code`. -/
def lastStatus : Int → List ResponseCall → Int
  | code, [] => code
  | _, .status code :: calls => lastStatus code calls
  | code, _ :: calls => lastStatus code calls

/-- The answer calls ask for when read from a status `code`: the status in
force at the first send (200 for 0) and the first send's text; failing that,
500 and the failure's message on a line, or the last status set and no body. -/
def answerFrom (code : Int) (calls : List ResponseCall) (failure : Option Text) : Int × Text :=
  let reported (code : Int) : Int := if code = 0 then 200 else code
  match firstSend code calls, failure with
  | some (code, text), _ => (reported code, text)
  | none, some message => (500, message ++ Text.ofString "\n")
  | none, none => (reported (lastStatus code calls), Text.empty)

/-- The answer a handler's calls ask for, from a fresh response. -/
def answer (calls : List ResponseCall) (failure : Option Text) : Int × Text :=
  answerFrom 0 calls failure

@[simp] theorem run_nil (r : Response) : run r [] = r := rfl

@[simp] theorem run_cons (r : Response) (c : ResponseCall) (calls : List ResponseCall) :
    run r (c :: calls) = run (c.apply r) calls := rfl

theorem run_append (r : Response) (first second : List ResponseCall) :
    run r (first ++ second) = run (run r first) second := List.foldl_append

end ResponseCall

@[simp] theorem Text.empty_append (t : Text) : Text.empty ++ t = t := rfl

/-- What a response shows: the status it wrote, its body, and why it halted. -/
def Response.shown (r : Response) : Option Int × Text × Option String :=
  (r.written.map Prod.fst, r.body, r.halted)

/-- What a response asked to answer `(code, body)` shows: that status line and
body, or, for a status that cannot be written, nothing but the halt. -/
def ResponseCall.outcome (answer : Int × Text) : Option Int × Text × Option String :=
  if validStatus answer.1 then (some answer.1, answer.2, none)
  else (none, Text.empty, some (invalidStatusMessage answer.1))

/-! ## Before the first send -/

/-- A response its handler has not sent: nothing written, no body, no halt. -/
structure Response.Pending (r : Response) : Prop where
  unsent : r.sent = false
  unwritten : r.written = none
  empty : r.body = Text.empty
  running : r.halted = none

theorem Response.pending_fresh : Response.fresh.Pending := ⟨rfl, rfl, rfl, rfl⟩

namespace Response.Pending

variable {r : Response} (pending : r.Pending)
include pending

theorem status (code : Int) : ((ResponseCall.status code).apply r).Pending :=
  ⟨pending.unsent, pending.unwritten, pending.empty, pending.running⟩

theorem header (name value : String) : ((ResponseCall.header name value).apply r).Pending :=
  ⟨pending.unsent, pending.unwritten, pending.empty, pending.running⟩

/-- The first send writes the status the response reports and the text, or
halts when that status cannot be written. -/
theorem send (text : Text) :
    let s := (ResponseCall.send text).apply r
    s.sent = true ∧ s.shown = ResponseCall.outcome (r.status, text) := by
  simp only [ResponseCall.apply, pending.unsent, Bool.false_eq_true, if_false, Response.send,
    Response.writeHeader, pending.unwritten, ResponseCall.outcome, Response.shown]
  split <;> simp [pending.running, pending.empty, *]

/-- Finishing an unsent response writes 500 and the failure's message, or the
status the response reports. -/
theorem finish (failure : Option Text) :
    (r.finish failure).shown =
      match failure with
      | some message => ResponseCall.outcome (500, message ++ Text.ofString "\n")
      | none => ResponseCall.outcome (r.status, Text.empty) := by
  cases failure with
  | some message =>
    simp [Response.finish, pending.unsent, Response.writeHeader, pending.unwritten, validStatus,
      pending.empty, pending.running, ResponseCall.outcome, Response.shown]
  | none =>
    simp only [Response.finish, pending.unsent, Bool.false_eq_true, if_false, Response.writeHeader,
      pending.unwritten, ResponseCall.outcome, Response.shown]
    split <;> simp [pending.running, pending.empty, *]

end Response.Pending

/-! ## After the first send -/

namespace ResponseCall

/-- Calls on a sent response leave what it wrote as it is. -/
theorem apply_of_sent {r : Response} (sent : r.sent = true) (c : ResponseCall) :
    (c.apply r).sent = true ∧ (c.apply r).written = r.written ∧ (c.apply r).body = r.body ∧
      (c.apply r).halted = r.halted := by
  cases c <;> simp [apply, sent]

theorem run_of_sent {r : Response} (sent : r.sent = true) (calls : List ResponseCall) :
    (run r calls).sent = true ∧ (run r calls).written = r.written ∧ (run r calls).body = r.body ∧
      (run r calls).halted = r.halted := by
  induction calls generalizing r with
  | nil => exact ⟨sent, rfl, rfl, rfl⟩
  | cons c calls ih =>
    obtain ⟨sent', written, body, halted⟩ := apply_of_sent sent c
    obtain ⟨sent'', written', body', halted'⟩ := ih sent'
    rw [run_cons]
    exact ⟨sent'', written'.trans written, body'.trans body, halted'.trans halted⟩

end ResponseCall

/-- Finishing a sent response changes nothing. -/
theorem Response.finish_of_sent {r : Response} (sent : r.sent = true) (failure : Option Text) :
    r.finish failure = r := by
  cases failure <;> simp [Response.finish, sent]

/-! ## One status line -/

theorem Response.writeHeader_written {r : Response} {w : Int × List (String × List String)}
    (written : r.written = some w) (code : Int) : r.writeHeader code = r := by
  simp [Response.writeHeader, written]

/-- A status line once written stays as it was, whatever the handler calls next. -/
theorem ResponseCall.apply_written {r : Response} {w : Int × List (String × List String)}
    (written : r.written = some w) (c : ResponseCall) : (c.apply r).written = some w := by
  cases c with
  | status => exact written
  | header => exact written
  | send text =>
    by_cases sent : r.sent
    · simp [apply, sent, written]
    · simp only [apply, sent, Bool.false_eq_true, if_false, Response.send, Response.writeHeader,
        written]
      split <;> rfl

theorem Response.finish_written {r : Response} {w : Int × List (String × List String)}
    (written : r.written = some w) (failure : Option Text) : (r.finish failure).written = some w := by
  cases failure <;> by_cases sent : r.sent <;>
    simp [Response.finish, sent, Response.writeHeader, written]

theorem ResponseCall.run_written {r : Response} {w : Int × List (String × List String)}
    (written : r.written = some w) (calls : List ResponseCall) : (run r calls).written = some w := by
  induction calls generalizing r with
  | nil => exact written
  | cons c calls ih => exact ih (apply_written written c)

/-! ## The answer -/

namespace ResponseCall

@[simp] theorem answerFrom_status (code status : Int) (calls : List ResponseCall)
    (failure : Option Text) :
    answerFrom code (.status status :: calls) failure = answerFrom status calls failure := rfl

@[simp] theorem answerFrom_header (code : Int) (name value : String) (calls : List ResponseCall)
    (failure : Option Text) :
    answerFrom code (.header name value :: calls) failure = answerFrom code calls failure := rfl

@[simp] theorem answerFrom_send (code : Int) (text : Text) (calls : List ResponseCall)
    (failure : Option Text) :
    answerFrom code (.send text :: calls) failure = (if code = 0 then 200 else code, text) := by
  simp [answerFrom, firstSend]

theorem answerFrom_nil (code : Int) (failure : Option Text) :
    answerFrom code [] failure = match failure with
      | some message => (500, message ++ Text.ofString "\n")
      | none => (if code = 0 then 200 else code, Text.empty) := by
  cases failure <;> rfl

end ResponseCall

theorem Response.status_eq (r : Response) : r.status = if r.code = 0 then 200 else r.code := by
  simp [Response.status]

open ResponseCall in
/-- A response that starts unsent ends, after any calls and either exit,
showing the answer those calls ask for. The induction runs over the calls up to
the first send; from there on nothing the response shows changes. -/
theorem Response.Pending.finish_run {r : Response} (pending : r.Pending)
    (calls : List ResponseCall) (failure : Option Text) :
    ((run r calls).finish failure).shown = outcome (answerFrom r.code calls failure) := by
  induction calls generalizing r with
  | nil =>
    rw [run_nil, pending.finish, answerFrom_nil, Response.status_eq]
    cases failure <;> rfl
  | cons c calls ih =>
    cases c with
    | status code => exact ih (pending.status code)
    | header name value => exact ih (pending.header name value)
    | send text =>
      obtain ⟨sent, shown⟩ := pending.send text
      obtain ⟨-, written, body, halted⟩ := run_of_sent sent calls
      rw [run_cons, Response.finish_of_sent (run_of_sent sent calls).1, answerFrom_send,
        ← Response.status_eq, ← shown]
      simp only [Response.shown, written, body, halted]

/-- The call a method of a response object makes with its arguments, their
text read on the heap `h`; none when the method refuses its arguments. A send
on a sent response is refused before its text is read, which is the call
applied to a sent response: nothing. -/
def ResponseAction.call (h : Heap) : ResponseAction → List Value → Option ResponseCall
  | .send, args => some (.send (if args.isEmpty then Text.empty else h.text (argAt args 0)))
  | .setHeader, args =>
    if args.length < 2 then none
    else some (.header (h.text (argAt args 0)).toStringLossy (h.text (argAt args 1)).toStringLossy)
  | .status, args =>
    match argAt args 0 with
    | .number x => some (.status (toInt64Truncated x))
    | _ => none

/-- The machine after calls on its response `ref`. -/
def Machine.callResponse (m : Machine) (ref : Nat) (calls : List ResponseCall) : Machine :=
  { m with responses := m.responses.modify ref (ResponseCall.run · calls) }

theorem Array.modify_congr {α : Type} {xs : Array α} {i : Nat} {f g : α → α}
    (same : ∀ a, xs[i]? = some a → f a = g a) : xs.modify i f = xs.modify i g := by
  apply Array.ext_getElem?
  intro j
  rw [Array.getElem?_modify, Array.getElem?_modify]
  split
  next here =>
    subst here
    cases found : xs[i]? <;> simp [same, found]
  next => rfl

theorem Array.modify_eq_self {α : Type} {xs : Array α} {i : Nat} {f : α → α}
    (same : ∀ a, xs[i]? = some a → f a = a) : xs.modify i f = xs := by
  apply Array.ext_getElem?
  intro j
  rw [Array.getElem?_modify]
  split
  next here =>
    subst here
    cases found : xs[i]? <;> simp [same, found]
  next => rfl

theorem ResponseCall.apply_status_eq (code : Int) :
    (ResponseCall.status code).apply = fun r => { r with code } := rfl

theorem ResponseCall.apply_header_eq (name value : String) :
    (ResponseCall.header name value).apply =
      fun r => { r with headers := setHeader r.headers name value } := rfl

theorem ResponseCall.apply_send_eq (text : Text) :
    (ResponseCall.send text).apply = fun r => if r.sent then r else r.send text := rfl

@[simp] theorem Machine.callResponse_nil (m : Machine) (ref : Nat) : m.callResponse ref [] = m :=
  congrArg (fun rs => { m with responses := rs }) (Array.modify_eq_self fun _ _ => rfl)

@[simp] theorem Machine.callResponse_single (m : Machine) (ref : Nat) (c : ResponseCall) :
    m.callResponse ref [c] = { m with responses := m.responses.modify ref c.apply } := rfl

/-- A send on an unsent response is the response's own send, -/
theorem Response.modify_send_of_unsent {rs : Array Response} {ref : Nat}
    (unsent : (rs[ref]?.getD default).sent = false) (t : Text) :
    rs.modify ref (fun r => if r.sent then r else r.send t) = rs.modify ref (·.send t) :=
  Array.modify_congr fun _ _ => by simp_all

/-- and on a sent one does nothing. -/
theorem Response.modify_send_of_sent {rs : Array Response} {ref : Nat}
    (sent : (rs[ref]?.getD default).sent = true) (t : Text) :
    rs.modify ref (fun r => if r.sent then r else r.send t) = rs :=
  Array.modify_eq_self fun _ _ => by simp_all

namespace Library

open Eval

/-- A method of response `ref` makes the call its arguments name on that
response, and changes nothing else, whether it returns or throws. -/
theorem responseAction_calls (ref : Nat) (action : ResponseAction) (args : List Value)
    (m : Machine) :
    ⦃fun m' => ⌜m' = m⌝⦄ responseAction ref action args
    ⦃post⟨fun _ m' => ⌜m' = m.callResponse ref (action.call m.heap args).toList⌝,
      fun _ m' => ⌜m' = m.callResponse ref (action.call m.heap args).toList⌝⟩⦄ := by
  cases action with
  | send =>
    mvcgen [responseAction, response, updateResponse, Eval.text, Eval.heap, Eval.throwMessage,
      Eval.throwText]
    all_goals simp_all +zetaDelta [ResponseAction.call, ResponseCall.apply_send_eq,
      Response.modify_send_of_unsent, Response.modify_send_of_sent]
  | setHeader =>
    mvcgen [responseAction, updateResponse, Eval.text, Eval.heap, requireArgs, Eval.throwMessage,
      Eval.throwText]
    · simp_all [ResponseAction.call]
    · -- the test for too few arguments is `< 2` in the call, `≤ 1` in the goal
      rw [ResponseAction.call, if_neg (by omega)]
      simp_all +zetaDelta [ResponseCall.apply_header_eq]
  | status =>
    mvcgen [responseAction, updateResponse, numberArg, Eval.throwMessage, Eval.throwText]
    all_goals simp_all +zetaDelta [ResponseAction.call, ResponseCall.apply_status_eq]

end Library

end Vernacular
