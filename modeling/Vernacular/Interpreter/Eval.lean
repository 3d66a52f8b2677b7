import Vernacular.Library.Dispatch
import Vernacular.Interpreter.Modules
import Vernacular.Interpreter.Log
import Vernacular.Syntax.Parser
import Vernacular.Syntax.Printer
/-!
# Evaluation

The evaluator walks the syntax tree in a scope of the heap.

* A statement list produces the value of its last statement; statements that
  produce nothing (declarations, loops, imports, exports) give `nothing`.
* Blocks share the scope they appear in. Each iteration of a loop body gets a
  fresh scope under the loop's scope, a `for` loop has one scope for its
  start, test and update, a call has a fresh scope under the function's
  closure scope, and a `catch` binds its name as a constant in a fresh scope.
* Both operands of `&&` and `||` are evaluated. The arguments of a call are
  evaluated before the function.
* A function returns the value given to `return`, or else the value of its
  last statement, with `nothing` read as `null`.
* An import runs the module in a fresh global scope, in the dialect its
  extension selects, and binds a frozen copy of its exports.

Every evaluation function takes fuel and stops with `Signal.exhausted` when
it runs out; `Interp.fuel` is more than any run can use up.
-/

set_option autoImplicit false

namespace Vernacular

namespace Interp

open Eval

/-- More fuel than any program can use up. -/
def fuel : Nat := Nat.pow 2 62

/-- A fresh scope under a parent. -/
def childScope (parent : Nat) : Eval Nat := onHeap (·.allocScope (some parent))

/-- Bind a name in a scope. -/
def declare (scope : Nat) (name : String) (v : Value) (constant : Bool) : Eval Unit := do
  let h ← orFail ((← heap).declare scope name v constant)
  modify fun m => { m with heap := h }

/-- The value of a name. -/
def lookup (scope : Nat) (name : String) : Eval Value := do
  orFail ((← heap).lookup scope name)

/-- Update the binding of a name. -/
def assign (scope : Nat) (name : String) (v : Value) : Eval Unit := do
  let h ← orFail ((← heap).assign scope name v)
  modify fun m => { m with heap := h }

/-- Copy the names into the exports of the root scope, with their values as
the root scope sees them. -/
def exportNames (scope : Nat) (names : List String) : Eval Value := do
  for name in names do
    let h ← heap
    let v ← orFail (h.lookup (h.root scope) name)
    match h.exportsOf scope with
    | some ref => updateHeap (·.objectSet ref (Text.ofString name) v)
    | none => pure ()
  return .nothing

/-- Whether a signal from a loop body ends the loop (`break`) or only the pass
(`continue`); any other signal goes on. -/
def loopSignal (s : Signal) : Eval Bool :=
  match s with
  | .broke => pure true
  | .continued => pure false
  | other => throw other

/-- One pass of a loop body: `true` when it breaks the loop. -/
def loopPass (body : Eval Value) : Eval Bool :=
  tryCatch (do discard body; pure false) loopSignal

/-- The value of a call from the run of the function's body: the value given to
`return`, or else the value of the last statement, with `nothing` read as
`null`. Any other control signal that leaves the body becomes a fault. -/
def functionResult (body : Eval Value) : Eval Value := do
  let outcome ← tryCatch (Sum.inl <$> body) fun sig =>
    match sig with
    | .returned v => pure (Sum.inr v)
    | other => throw other.escaped
  match outcome with
  | .inl .nothing => return .null
  | .inl v => return v
  | .inr v => return v

/-- The body of a program or a module: control signals that leave it become
faults. -/
def topLevel (body : Eval Value) : Eval Value :=
  tryCatch body fun sig => throw sig.escaped

/-- The parse error of a module, naming the module's file. -/
def moduleError (path : String) : ParseFault → Signal
  | .error e => .parseError (if e.file.isEmpty then { e with file := path } else e)
  | .exhausted => .exhausted

mutual

/-- Evaluate an expression. -/
def expr : Nat → Nat → Expr → Eval Value
  | 0, _, _ => throw .exhausted
  | fuel + 1, scope, e =>
    match e with
    | .ident name => lookup scope name
    | .number x => pure (.number x)
    | .string s => pure (.string (Text.ofString s))
    | .boolean b => pure (.boolean b)
    | .null => pure .null
    | .binary op l r => do
      let lv ← expr fuel scope l
      let rv ← expr fuel scope r
      return Value.binary op lv rv
    | .logical op l r => do
      let lv ← expr fuel scope l
      let rv ← expr fuel scope r
      match op with
      | .and => return .boolean (lv.truthy && rv.truthy)
      | .or => return .boolean (lv.truthy || rv.truthy)
    | .unary op a => do
      let v ← expr fuel scope a
      return Value.unary op v
    | .step op name => do
      let old ← lookup scope name
      match old with
      | .number _ =>
        let updated := Value.binary op.binary old (.number 1)
        assign scope name updated
        return updated
      | _ => return .null
    | .call callee args => do
      let argValues ← exprs fuel scope args
      let f ← expr fuel scope callee
      match f with
      | .null => throw (.fault ⟨.notCallable, Text.ofString (callee.render ++ " is not a function")⟩)
      | _ => call fuel f argValues scope
    | .field obj name => do
      let o ← expr fuel scope obj
      getProperty scope o (.string (Text.ofString name))
    | .index obj position => do
      let o ← expr fuel scope obj
      getProperty scope o (.number position)
    | .computed obj key => do
      let o ← expr fuel scope obj
      let k ← expr fuel scope key
      getProperty scope o k
    | .assign op target value => assignment fuel scope op target value
    | .array elements => do
      let vs ← exprs fuel scope elements
      newArray vs.toArray
    | .object entries => do
      let fields ← entryValues fuel scope entries
      newObject fields false
    | .function params body => onHeap (·.allocClosure ⟨"", params, body, scope⟩)

/-- Evaluate expressions left to right. -/
def exprs : Nat → Nat → List Expr → Eval (List Value)
  | 0, _, _ => throw .exhausted
  | _ + 1, _, [] => pure []
  | fuel + 1, scope, e :: rest => do
    let v ← expr fuel scope e
    let vs ← exprs fuel scope rest
    return v :: vs

/-- Evaluate the entries of an object literal, left to right. -/
def entryValues : Nat → Nat → List Entry → Eval (List (Text × Value))
  | 0, _, _ => throw .exhausted
  | _ + 1, _, [] => pure []
  | fuel + 1, scope, entry :: rest => do
    let field ← match entry with
      | .keyed key value => do
        let v ← expr fuel scope value
        pure (Text.ofString key, v)
      | .shorthand key => do
        let v ← lookup scope key
        pure (Text.ofString key, v)
    let fields ← entryValues fuel scope rest
    return field :: fields

/-- Evaluate an assignment. A compound assignment reads the target before it
evaluates the right-hand side. -/
def assignment : Nat → Nat → AssignOp → Expr → Expr → Eval Value
  | 0, _, _, _, _ => throw .exhausted
  | fuel + 1, scope, op, target, value => do
    let combine (current : Option Value) (right : Value) : Value :=
      match op.binary, current with
      | some b, some c => Value.binary b c right
      | _, _ => right
    match target with
    | .ident name =>
      let current ← if op == .set then pure none else some <$> lookup scope name
      let right ← expr fuel scope value
      let v := combine current right
      assign scope name v
      return v
    | .field _ _ | .index _ _ | .computed _ _ =>
      let (objExpr, keyOf) : Expr × (Nat → Eval Value) := match target with
        | .field obj name => (obj, fun _ => pure (.string (Text.ofString name)))
        | .index obj position => (obj, fun _ => pure (.number position))
        | .computed obj key => (obj, fun s => expr fuel s key)
        | other => (other, fun _ => pure .null)
      let o ← expr fuel scope objExpr
      let k ← keyOf scope
      let current ← if op == .set then pure none else some <$> getProperty scope o k
      let right ← expr fuel scope value
      let v := combine current right
      setProperty o k v
      return v
    | _ => throw (.fault ⟨.invalidAssignment, Text.ofString ("Invalid assignment target " ++ target.render)⟩)

/-- Evaluate a statement. -/
def stmt : Nat → Nat → Stmt → Eval Value
  | 0, _, _ => throw .exhausted
  | fuel + 1, scope, s =>
    match s with
    | .empty => pure .nothing
    | .expr e => expr fuel scope e
    | .declare constant name init => do
      let v ← match init with
        | some e => expr fuel scope e
        | none => pure .null
      declare scope name v constant
      return .nothing
    | .function name params body => do
      let f ← onHeap (·.allocClosure ⟨name, params, body, scope⟩)
      declare scope name f false
      return .nothing
    | .block body => stmts fuel scope body
    | .ifElse test consequent alternate => do
      let t ← expr fuel scope test
      if t.truthy then stmt fuel scope consequent
      else match alternate with
        | some alt => stmt fuel scope alt
        | none => pure .nothing
    | .loop test body => whileLoop fuel scope test body
    | .forLoop start test update body => do
      let loopScope ← childScope scope
      match start with
      | some first => discard <| stmt fuel loopScope first
      | none => pure ()
      forLoop fuel loopScope test update body
    | .tryCatch body param handler =>
      tryCatch (stmts fuel scope body) fun sig =>
        match sig with
        | .thrown v => do
          let catchScope ← childScope scope
          declare catchScope param v true
          stmts fuel catchScope handler
        | other => throw other
    | .throw e => do
      let v ← expr fuel scope e
      throw (.thrown v)
    | .ret none => throw (.returned .null)
    | .ret (some e) => do
      let v ← expr fuel scope e
      throw (.returned v)
    | .brk => throw .broke
    | .cont => throw .continued
    | .importModule path boundName => importModule fuel scope path boundName
    | .export names => exportNames scope names

/-- Evaluate statements in order; the value of the last one, or `nothing`. -/
def stmts : Nat → Nat → List Stmt → Eval Value
  | 0, _, _ => throw .exhausted
  | _ + 1, _, [] => pure .nothing
  | fuel + 1, scope, [s] => stmt fuel scope s
  | fuel + 1, scope, s :: rest => do
    discard <| stmt fuel scope s
    stmts fuel scope rest

/-- A `while` loop. -/
def whileLoop : Nat → Nat → Expr → Stmt → Eval Value
  | 0, _, _, _ => throw .exhausted
  | fuel + 1, scope, test, body => do
    let t ← expr fuel scope test
    if !t.truthy then return .nothing
    let bodyScope ← childScope scope
    let stop ← loopPass (stmt fuel bodyScope body)
    if stop then return .nothing
    whileLoop fuel scope test body

/-- A `for` loop after its start: test, body, update, again. A `continue`
still runs the update. -/
def forLoop : Nat → Nat → Option Expr → Option Expr → Stmt → Eval Value
  | 0, _, _, _, _ => throw .exhausted
  | fuel + 1, loopScope, test, update, body => do
    let go ← match test with
      | some t => do
        let v ← expr fuel loopScope t
        pure v.truthy
      | none => pure true
    if !go then return .nothing
    let bodyScope ← childScope loopScope
    let stop ← loopPass (stmt fuel bodyScope body)
    if stop then return .nothing
    match update with
    | some u => discard <| expr fuel loopScope u
    | none => pure ()
    forLoop fuel loopScope test update body

/-- Call a function value with arguments, from a scope. -/
def call : Nat → Value → List Value → Nat → Eval Value
  | 0, _, _, _ => throw .exhausted
  | fuel + 1, callee, args, scope =>
    match callee with
    | .native ref => do
      let n := (← heap).native ref
      invokeNative fuel n args scope
    | .closure ref => do
      let c := (← heap).closure ref
      let fnScope ← childScope c.scope
      for (param, i) in c.params.zipIdx do
        declare fnScope param (argAt args i) false
      functionResult (stmts fuel fnScope c.body)
    | _ => do
      let d ← describe callee
      throw (.fault ⟨.notCallable, d ++ Text.ofString " is not a function"⟩)

/-- Call a native function. -/
def invokeNative : Nat → Native → List Value → Nat → Eval Value
  | 0, _, _, _ => throw .exhausted
  | fuel + 1, n, args, scope =>
    match n with
    | .bound m self => call fuel m (self :: args) scope
    | .arrayMethod .foreach => do
      requireArgs "array.foreach" args 2
      let r ← Library.arrayArg "array.foreach" args
      let count := ((← heap).elements r).size
      foreachLoop fuel (argAt args 1) r 0 count scope
      return .null
    | other => Library.invoke other args scope

/-- Call a function on the elements present when `foreach` started, while
they are still present. -/
def foreachLoop : Nat → Value → Nat → Nat → Nat → Nat → Eval Unit
  | 0, _, _, _, _, _ => throw .exhausted
  | fuel + 1, fn, ref, i, count, scope => do
    if i < count then
      let els := (← heap).elements ref
      match els[i]? with
      | some el =>
        discard <| call fuel fn [el, .number i.toFloat, .array ref] scope
        foreachLoop fuel fn ref (i + 1) count scope
      | none => pure ()

/-- Import a module and bind its exports under an alias. -/
def importModule : Nat → Nat → String → String → Eval Value
  | 0, _, _, _ => throw .exhausted
  | fuel + 1, scope, path, boundName => do
    let m ← get
    let source ← orFail (resolveModule m.builtin m.work m.disk m.registry.extensionList path)
    if m.importing.contains source.key then
      throw (.failure .importCycle ("Import cycle through " ++ escapedQuote path))
    modify fun m => { m with importing := source.key :: m.importing }
    let pop : Eval Unit := modify fun m => { m with importing := m.importing.drop 1 }
    tryCatch (do
      let d := (m.registry.forExtension source.ext).getD m.dialect
      debug "import" [("path", .text source.path), ("builtin", .flag source.builtin),
        ("dialect", .text d.name)]
      let program ← match Program.parse d source.source with
        | .ok p => pure p
        | .error f => throw (moduleError source.path f)
      let moduleScope ← Library.globalScope d
      discard <| topLevel (stmts fuel moduleScope program.body)
      let h ← heap
      let entries := match h.exportsOf moduleScope with
        | some ref => (h.object ref).entries.toList
        | none => []
      let ns ← newObject entries true
      declare scope boundName ns true
      pop) fun sig => do
        pop
        throw sig
    return .nothing

end

-- Every evaluator function stops with `exhausted` once its fuel is spent. Tagging
-- these equations here also builds the functions' equation lemmas once, before any
-- proof unfolds them.
attribute [simp] expr.eq_1 exprs.eq_1 entryValues.eq_1 assignment.eq_1 stmt.eq_1 stmts.eq_1
  whileLoop.eq_1 forLoop.eq_1 call.eq_1 invokeNative.eq_1 foreachLoop.eq_1 importModule.eq_1

/-- Evaluate a program in a scope; control signals that leave it become faults. -/
def program (scope : Nat) (p : Program) : Eval Value :=
  topLevel (stmts fuel scope p.body)

end Interp

end Vernacular
