import Vernacular.Dialect.Builtin
/-!
# Registries of dialects

A registry knows dialects by name and by file extension. Registering a
dialect under a name it already knows replaces it and keeps its place in the
name order; the old dialect's extension is forgotten only if it still points
at that dialect. Extensions are normalised to start with a dot. A registry
always starts with the built-in dialects, and an unknown name falls back to
the `myriad` dialect.
-/

set_option autoImplicit false

namespace Vernacular

/-- Extensions are compared with a leading dot. -/
def normalizeExtension (ext : String) : String :=
  if ext.startsWith "." then ext else "." ++ ext

/-- Dialects by name, in registration order, and extensions by the name of the
dialect they select. -/
structure Registry where
  names : List String
  dialects : List (String × Dialect)
  extensions : List (String × String)

namespace Registry

/-- The registry with no dialect. -/
def empty : Registry := ⟨[], [], []⟩

instance : Inhabited Registry := ⟨empty⟩

/-- Replace or add the entry for a key, keeping its place if present. -/
def setEntry {α : Type} (entries : List (String × α)) (key : String) (value : α) :
    List (String × α) :=
  if entries.any (·.1 == key) then entries.map (fun e => if e.1 == key then (key, value) else e)
  else entries ++ [(key, value)]

/-- The dialect registered under a name. -/
def lookup (r : Registry) (name : String) : Option Dialect := r.dialects.lookup name

/-- Add a validated dialect, replacing one of the same name. -/
def insert (r : Registry) (d : Dialect) : Registry :=
  let names := if (r.lookup d.name).isSome then r.names else r.names ++ [d.name]
  let extensions :=
    match r.lookup d.name with
    | some prev =>
      let key := normalizeExtension prev.extension
      if !prev.extension.isEmpty && r.extensions.lookup key == some prev.name then
        r.extensions.filter (·.1 != key)
      else r.extensions
    | none => r.extensions
  let extensions :=
    if d.extension.isEmpty then extensions
    else setEntry extensions (normalizeExtension d.extension) d.name
  { names, dialects := setEntry r.dialects d.name d, extensions }

/-- Register a dialect document: it must have a name and pass validation,
checked in that order; a refused document leaves the registry as it was. -/
def register (r : Registry) (spec : DialectSpec) : Except DialectRefusal Registry :=
  if spec.name.isEmpty then .error ⟨"", .missingName⟩
  else
    match spec.validate with
    | .error refusal => .error refusal
    | .ok d => .ok (r.insert d)

/-- The name of the dialect used for unknown names. -/
def defaultName : String := "myriad"

/-- The dialect registered under a name, or the default dialect. -/
def get (r : Registry) (name : String) : Dialect :=
  match r.lookup name with
  | some d => d
  | none => (r.lookup defaultName).getD default

/-- The dialect an extension such as `.genzl` selects. -/
def forExtension (r : Registry) (ext : String) : Option Dialect :=
  (r.extensions.lookup ext).bind r.lookup

/-- The normalised extensions of the registered dialects, in name order. -/
def extensionList (r : Registry) : List String :=
  r.names.filterMap fun name =>
    match r.lookup name with
    | some d => if d.extension.isEmpty then none else some (normalizeExtension d.extension)
    | none => none

/-- Register documents in turn; a refused one leaves the registry as it was. -/
def registerEach (r : Registry) (specs : List DialectSpec) : Registry :=
  specs.foldl (fun r spec => match r.register spec with
    | .ok r' => r'
    | .error _ => r) r

/-- The registry every runner starts with: the built-in dialects. -/
def standard : Registry := empty.registerEach Builtin.builtinSpecs

end Registry

end Vernacular
