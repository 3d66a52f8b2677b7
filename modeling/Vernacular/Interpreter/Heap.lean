import Vernacular.Interpreter.Fault
import Vernacular.Syntax.Tree
import Vernacular.Text.Quoted
/-!
# The heap

The heap holds everything a value can share: arrays, objects, closures,
native functions and scopes. Each kind lives in its own array and a reference
is an index into it. Nothing is ever freed, so a reference stays valid for the
life of the heap.

Objects keep their keys in insertion order; writing an existing key replaces
the value in place, and deleting a key closes the gap. A frozen object refuses
writes from scripts.

Scopes form chains through their parents; a scope's parent is always
allocated before it, which bounds every walk up the chain.
-/

set_option autoImplicit false

namespace Vernacular

/-- The math functions of one number. -/
inductive MathFn where
  | abs | ceil | floor | round | cos | sin | tan
deriving DecidableEq, Repr, Inhabited

/-- The file-system operations. -/
inductive FileOp where
  | read | write | rmrf | mkdir | readdir | stat
deriving DecidableEq, Repr, Inhabited

/-- The methods of a response object. -/
inductive ResponseAction where
  | send | setHeader | status
deriving DecidableEq, Repr, Inhabited

/-- The methods of strings. -/
inductive StringMethod where
  | length | replace | uppercase | lowercase | split | charCode | trim | includes
deriving DecidableEq, Repr, Inhabited

/-- The methods of arrays. -/
inductive ArrayMethod where
  | length | foreach | join | pop | push | includes
deriving DecidableEq, Repr, Inhabited

/-- The methods of numbers. -/
inductive NumberMethod where
  | codeToStr | format
deriving DecidableEq, Repr, Inhabited

/-- A native function, described by what it does. `bound` is a method taken
from a method table with its receiver: calling it calls the method with the
receiver first. -/
inductive Native where
  | print
  | input (reader : Nat)
  | format
  | typeOf
  | length
  | math (fn : MathFn)
  | random
  | now
  | date
  | constant (v : Value)
  | dateFormat (millis : Int)
  | jsonParse
  | jsonStringify
  | file (op : FileOp)
  | server
  | listen (handler : Value) (scope : Nat)
  | response (ref : Nat) (action : ResponseAction)
  | stringMethod (m : StringMethod)
  | arrayMethod (m : ArrayMethod)
  | numberMethod (m : NumberMethod)
  | bound (method self : Value)
deriving Inhabited

/-- An object: entries in insertion order, and whether scripts may write it. -/
structure ObjectCell where
  entries : Array (Text × Value)
  frozen : Bool
deriving Inhabited

namespace ObjectCell

/-- The empty, writable object. -/
def empty : ObjectCell := ⟨#[], false⟩

/-- The value under a key. -/
def get? (o : ObjectCell) (key : Text) : Option Value :=
  (o.entries.find? (·.1 == key)).map (·.2)

/-- Write a key: replace its value in place, or append it. -/
def set (o : ObjectCell) (key : Text) (v : Value) : ObjectCell :=
  match o.entries.findIdx? (·.1 == key) with
  | some i => { o with entries := o.entries.set! i (key, v) }
  | none => { o with entries := o.entries.push (key, v) }

/-- Delete a key: drop its entry and keep the others in order. Deleting a
missing key changes nothing. -/
def erase (o : ObjectCell) (key : Text) : ObjectCell :=
  match o.entries.findIdx? (·.1 == key) with
  | some i => { o with entries := o.entries.eraseIdxIfInBounds i }
  | none => o

/-- The keys in insertion order. -/
def keys (o : ObjectCell) : List Text := o.entries.toList.map (·.1)

/-- The object holding the given entries, each written in turn into the empty
object: a later entry for a key replaces the value of an earlier one in place. -/
def ofList (entries : List (Text × Value)) : ObjectCell :=
  entries.foldl (fun o e => o.set e.1 e.2) empty

/-- A shallow copy: every key written in order, with its value, into the empty
object, so the copy is writable even when the original is frozen. -/
def copy (o : ObjectCell) : ObjectCell := ofList o.entries.toList

end ObjectCell

/-- A function written in the language, with the scope it closes over.
An anonymous function has the empty name. -/
structure Closure where
  name : String
  params : List String
  body : List Stmt
  scope : Nat
deriving Inhabited

/-- A variable binding. -/
structure Binding where
  name : String
  value : Value
  constant : Bool
deriving Inhabited

/-- A scope: its parent, its bindings, and for a root scope the object of
exported names. -/
structure Scope where
  parent : Option Nat
  bindings : Array Binding
  exports : Option Nat
deriving Inhabited

/-- The binding of a name in one scope. -/
def Scope.binding? (s : Scope) (name : String) : Option Binding :=
  s.bindings.find? (·.name == name)

/-- The heap. -/
structure Heap where
  arrays : Array (Array Value)
  objects : Array ObjectCell
  closures : Array Closure
  natives : Array Native
  scopes : Array Scope
deriving Inhabited

namespace Heap

/-- The empty heap. -/
def empty : Heap := ⟨#[], #[], #[], #[], #[]⟩

/-! ## Allocation -/

/-- Allocate an array. -/
def allocArray (h : Heap) (elements : Array Value) : Value × Heap :=
  (.array h.arrays.size, { h with arrays := h.arrays.push elements })

/-- Allocate an object. -/
def allocObject (h : Heap) (o : ObjectCell) : Value × Heap :=
  (.object h.objects.size, { h with objects := h.objects.push o })

/-- Allocate a closure. -/
def allocClosure (h : Heap) (c : Closure) : Value × Heap :=
  (.closure h.closures.size, { h with closures := h.closures.push c })

/-- Allocate a native function. -/
def allocNative (h : Heap) (n : Native) : Value × Heap :=
  (.native h.natives.size, { h with natives := h.natives.push n })

/-- Allocate a scope under a parent. A root scope also gets an empty object
for its exports. -/
def allocScope (h : Heap) (parent : Option Nat) : Nat × Heap :=
  match parent with
  | some _ => (h.scopes.size, { h with scopes := h.scopes.push ⟨parent, #[], none⟩ })
  | none =>
    let (exports, h) := h.allocObject .empty
    let ref := match exports with
      | .object r => some r
      | _ => none
    (h.scopes.size, { h with scopes := h.scopes.push ⟨none, #[], ref⟩ })

/-! ## Containers -/

/-- The elements of an array. -/
def elements (h : Heap) (ref : Nat) : Array Value := h.arrays.getD ref #[]

/-- Replace the elements of an array. -/
def setElements (h : Heap) (ref : Nat) (elements : Array Value) : Heap :=
  { h with arrays := h.arrays.set! ref elements }

/-- An object cell. -/
def object (h : Heap) (ref : Nat) : ObjectCell := h.objects.getD ref .empty

/-- Replace an object cell. -/
def setObject (h : Heap) (ref : Nat) (o : ObjectCell) : Heap :=
  { h with objects := h.objects.set! ref o }

/-- Write a key of an object, frozen or not. -/
def objectSet (h : Heap) (ref : Nat) (key : Text) (v : Value) : Heap :=
  h.setObject ref ((h.object ref).set key v)

/-- Freeze an object. -/
def freeze (h : Heap) (ref : Nat) : Heap :=
  h.setObject ref { h.object ref with frozen := true }

/-- A closure. -/
def closure (h : Heap) (ref : Nat) : Closure := h.closures.getD ref default

/-- A native function. -/
def native (h : Heap) (ref : Nat) : Native := h.natives.getD ref default

/-! ## Scopes -/

/-- A scope. -/
def scope (h : Heap) (ref : Nat) : Scope := h.scopes.getD ref default

/-- The nearest scope of the chain from `ref` that binds a name. -/
def owner? (h : Heap) (ref : Nat) (name : String) : Option Nat :=
  let rec walk : Nat → Nat → Option Nat
    | 0, _ => none
    | fuel + 1, r =>
      let s := h.scope r
      if (s.binding? name).isSome then some r
      else match s.parent with
        | some p => walk fuel p
        | none => none
  walk (h.scopes.size + 1) ref

/-- The root of the chain from a scope. -/
def root (h : Heap) (ref : Nat) : Nat :=
  let rec walk : Nat → Nat → Nat
    | 0, r => r
    | fuel + 1, r =>
      match (h.scope r).parent with
      | some p => walk fuel p
      | none => r
  walk (h.scopes.size + 1) ref

/-- The fault for a name no scope binds. -/
def undefinedName (name : String) : Signal :=
  .failure .undefinedVariable ("Variable " ++ escapedQuote name ++ " is not defined")

/-- Bind a name in a scope; a name may be bound once per scope. -/
def declare (h : Heap) (ref : Nat) (name : String) (v : Value) (constant : Bool) :
    Except Signal Heap :=
  let s := h.scope ref
  if (s.binding? name).isSome then
    .error (.failure .redeclaration ("Cannot redeclare variable " ++ escapedQuote name))
  else
    .ok { h with scopes := h.scopes.set! ref { s with bindings := s.bindings.push ⟨name, v, constant⟩ } }

/-- The value of a name, from the nearest scope that binds it. -/
def lookup (h : Heap) (ref : Nat) (name : String) : Except Signal Value :=
  match h.owner? ref name with
  | some r =>
    match (h.scope r).binding? name with
    | some b => .ok b.value
    | none => .error (undefinedName name)
  | none => .error (undefinedName name)

/-- Update the nearest binding of a name; constants refuse. -/
def assign (h : Heap) (ref : Nat) (name : String) (v : Value) : Except Signal Heap :=
  match h.owner? ref name with
  | none => .error (undefinedName name)
  | some r =>
    let s := h.scope r
    match s.bindings.findIdx? (·.name == name) with
    | none => .error (undefinedName name)
    | some i =>
      let b := s.bindings.getD i default
      if b.constant then
        .error (.failure .constantAssignment
          ("Cannot assign to constant variable " ++ escapedQuote name))
      else
        .ok { h with scopes := h.scopes.set! r { s with bindings := s.bindings.set! i { b with value := v } } }

/-- Bind a name in a scope unconditionally, as a constant: how the library is
installed. -/
def install (h : Heap) (ref : Nat) (name : String) (v : Value) : Heap :=
  let s := h.scope ref
  let bindings := match s.bindings.findIdx? (·.name == name) with
    | some i => s.bindings.set! i ⟨name, v, true⟩
    | none => s.bindings.push ⟨name, v, true⟩
  { h with scopes := h.scopes.set! ref { s with bindings } }

/-- The export object of the root of a scope's chain. -/
def exportsOf (h : Heap) (ref : Nat) : Option Nat := (h.scope (h.root ref)).exports

end Heap

end Vernacular
