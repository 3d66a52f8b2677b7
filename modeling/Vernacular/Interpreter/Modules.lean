import Vernacular.Interpreter.Machine
/-!
# Finding modules

An import names a module. The built-in module file system is tried first,
with each registered dialect's extension appended to the name. Then the
working file system: a directory stands for its `main.myriad`, and a file for
itself. A module is known by a key that tells the two file systems apart, so
that import cycles are caught whichever way a module is named.
-/

set_option autoImplicit false

namespace Vernacular

/-- The file a directory import loads. -/
def entryFile : String := "main.myriad"

/-- A module found for an import: its key, the path it was read from, the
extension that picks its dialect, and its source. -/
structure ModuleSource where
  key : String
  path : String
  ext : String
  source : String
  builtin : Bool
deriving Inhabited

/-- Read a module from a volume. -/
def loadModule (v : Volume) (d : Disk) (name : String) (builtin : Bool) :
    Except Signal ModuleSource :=
  match v.readFile d name with
  | .error e => .error (.host (Text.ofString e.message))
  | .ok content =>
    let key := (if builtin then "builtin:" else "work:") ++ Path.clean name
    .ok ⟨key, name, Path.ext name, content.toStringLossy, builtin⟩

/-- The module an import path names. -/
def resolveModule (builtin work : Option Volume) (d : Disk) (extensions : List String)
    (importPath : String) : Except Signal ModuleSource :=
  let fromBuiltin : Option String := builtin.bind fun v =>
    extensions.findSome? fun ext =>
      match v.stat d (importPath ++ ext) with
      | .ok info => if info.isDir then none else some (importPath ++ ext)
      | .error _ => none
  let notFound : Except Signal ModuleSource :=
    .error (.failure .moduleNotFound ("Module " ++ escapedQuote importPath ++ " not found"))
  match fromBuiltin, builtin with
  | some name, some v => loadModule v d name true
  | _, _ =>
    match work with
    | none => notFound
    | some v =>
      match v.stat d importPath with
      | .ok info =>
        if info.isDir then
          let entry := Path.join [importPath, entryFile]
          match v.stat d entry with
          | .ok e => if e.isDir then notFound else loadModule v d entry false
          | .error _ => notFound
        else loadModule v d importPath false
      | .error e =>
        if e.isNotExist then notFound else .error (.host (Text.ofString e.message))

end Vernacular
