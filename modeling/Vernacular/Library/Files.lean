import Vernacular.Library.Install
/-!
# The file-system namespace

`fs.read`, `fs.write`, `fs.rmrf`, `fs.mkdir`, `fs.readdir` and `fs.stat` work
on the interpreter's working file system. Each checks its arguments first,
then that there is a working file system, and reports a failure of the file
system as a catchable error naming the function.

`fs.readdir` lists the names in a directory in sorted order; with a truthy
second argument it also lists, after each subdirectory, the paths inside it
relative to the starting directory. `fs.stat` describes a path as an object
with the predicates `is_directory` and `is_file` and the fields `name`,
`size`, `mtime` and `mode`.
-/

set_option autoImplicit false

namespace Vernacular

namespace Library

/-- The working volume, or the error that there is none. -/
def workVolume : Eval Volume := do
  match (← get).work with
  | some v => return v
  | none => Eval.throwMessage "fs: no working filesystem"

/-- Replace the working volume and the disk. -/
def setWork (change : Volume × Disk) : Eval Unit :=
  modify fun m => { m with work := some change.1, disk := change.2 }

/-- A file-system result, or the error reported under the function's name. -/
def fileResult {α : Type} (name : String) : Except FileError α → Eval α
  | .ok a => pure a
  | .error e => Eval.throwMessage (name ++ ": " ++ e.message)

/-- The names under a directory, descending into subdirectories when `deep`:
each name is prefixed with the path of its directory relative to the start. -/
def walkDirectory (v : Volume) (d : Disk) (deep : Bool) :
    Nat → String → String → Except FileError (List String)
  | 0, _, _ => .ok []
  | fuel + 1, dir, pre => do
    let entries ← v.readDir d dir
    let mut names : List String := []
    for entry in entries do
      let rel := if pre.isEmpty then entry.name else pre ++ "/" ++ entry.name
      names := names ++ [rel]
      if entry.isDir && deep then
        names := names ++ (← walkDirectory v d deep fuel (Path.join [dir, entry.name]) rel)
    return names

/-- The object `fs.stat` answers for a file. -/
def statObject (info : FileInfo) : Eval Value := do
  let clock := (← get).clock
  let isDir ← Eval.newNative (.constant (.boolean info.isDir))
  let isFile ← Eval.newNative (.constant (.boolean !info.isDir))
  Eval.newObject [(Text.ofString "is_directory", isDir), (Text.ofString "is_file", isFile),
    (Text.ofString "name", .string (Text.ofString info.name)),
    (Text.ofString "size", .number (Float.ofNat info.size)),
    (Text.ofString "mtime", .number (Float.ofInt clock)),
    (Text.ofString "mode", .number (Float.ofNat info.perm))] false

/-- A bound on the entries a volume holds, for walking its directories. -/
def entryBound (v : Volume) (d : Disk) : Nat :=
  match v with
  | .memory fs => fs.files.length + 1
  | .disk _ => d.entries.length + 1

/-- Run a file-system function. -/
def fileOp (op : FileOp) (args : List Value) : Eval Value := do
  match op with
  | .read =>
    let p ← stringArg "fs.read" args 0
    let v ← workVolume
    return .string (← fileResult "fs.read" (v.readFile (← get).disk p.toStringLossy))
  | .write =>
    requireArgs "fs.write" args 2
    let p ← stringArg "fs.write" args 0
    let v ← workVolume
    let data ← Eval.text (argAt args 1)
    setWork (← fileResult "fs.write" (v.writeFile (← get).disk p.toStringLossy data filePerm))
    return .null
  | .rmrf =>
    let p ← stringArg "fs.rmrf" args 0
    let v ← workVolume
    let (change, failure) := v.removeAll (← get).disk p.toStringLossy
    setWork change
    match failure with
    | some e => fileResult "fs.rmrf" (.error e)
    | none => return .null
  | .mkdir =>
    let p ← stringArg "fs.mkdir" args 0
    let v ← workVolume
    setWork (← fileResult "fs.mkdir" (v.mkdirAll (← get).disk p.toStringLossy dirPerm))
    return .null
  | .readdir =>
    let p ← stringArg "fs.readdir" args 0
    let v ← workVolume
    let d := (← get).disk
    let deep := (argAt args 1).truthy
    let names ← fileResult "fs.readdir" (walkDirectory v d deep (entryBound v d) p.toStringLossy "")
    Eval.newArray (names.map (fun n => Value.string (Text.ofString n))).toArray
  | .stat =>
    let p ← stringArg "fs.stat" args 0
    let v ← workVolume
    statObject (← fileResult "fs.stat" (v.stat (← get).disk p.toStringLossy))

end Library

end Vernacular
