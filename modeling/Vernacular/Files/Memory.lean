import Vernacular.Files.Error
/-!
# An in-memory file system

Files and directories are kept by their clean absolute path, and each
directory keeps the names of its children. Creating an entry creates its
missing parent directories, with the entry's permission bits. When a parent
cannot be created because a file stands in the way, the entry is still
created but no directory lists it.

Scripts see the file system rooted at `/`: a relative path is taken from the
root, and a path that climbs out through `../` is refused. Reading a missing
directory lists nothing.
-/

set_option autoImplicit false

namespace Vernacular

/-- A file or a directory. `name` is the last element of the path it was
created under. -/
structure FileEntry where
  name : String
  isDir : Bool
  perm : Nat
  content : Text
deriving Inhabited

/-- An in-memory file system. -/
structure MemoryFS where
  files : List (String × FileEntry)
  children : List (String × List String)
deriving Inhabited

namespace MemoryFS

/-- The empty file system; even the root directory appears only once
something is created. -/
def empty : MemoryFS := ⟨[], []⟩

/-! ## Storage by absolute path -/

/-- The entry at a path. -/
def get? (fs : MemoryFS) (path : String) : Option FileEntry := fs.files.lookup (Path.clean path)

/-- Replace or add an assoc-list entry. -/
def setAssoc {α : Type} (l : List (String × α)) (key : String) (v : α) : List (String × α) :=
  if l.any (·.1 == key) then l.map (fun e => if e.1 == key then (key, v) else e) else l ++ [(key, v)]

/-- Store an entry at a clean path. -/
def setEntry (fs : MemoryFS) (path : String) (e : FileEntry) : MemoryFS :=
  { fs with files := setAssoc fs.files path e }

/-- The child names of a directory. -/
def childNames (fs : MemoryFS) (path : String) : List String :=
  (fs.children.lookup (Path.clean path)).getD []

/-- Record a child name under a directory. -/
def addChild (fs : MemoryFS) (dir name : String) : MemoryFS :=
  let names := fs.childNames dir
  let names := if names.contains name then names else names ++ [name]
  { fs with children := setAssoc fs.children dir names }

/-- Create an entry, and its missing parents. An existing directory is left as
it is; an existing file is an error. -/
def create (fs : MemoryFS) (path : String) (isDir : Bool) (perm : Nat) :
    Except FileError MemoryFS :=
  let rec go : Nat → MemoryFS → String → Bool → Except FileError MemoryFS
    | fuel, fs, path, isDir =>
      let path := Path.clean path
      match fs.get? path with
      | some e =>
        if e.isDir then .ok fs else .error (.other ("file already exists " ++ escapedQuote path))
      | none =>
        let name := Path.base path
        let fs := fs.setEntry path ⟨name, isDir, perm, Text.empty⟩
        if name == "/" then .ok fs
        else match fuel with
          | 0 => .ok fs
          | fuel + 1 =>
            let parent := Path.dir path
            match go fuel fs parent true with
            | .ok fs' => .ok (fs'.addChild parent name)
            | .error _ => .ok fs
  go ((Path.elements path).length + 1) fs path isDir

/-- Remove one entry; a directory must be empty. -/
def remove (fs : MemoryFS) (path : String) : Except FileError MemoryFS :=
  let path := Path.clean path
  match fs.get? path with
  | none => .error .missing
  | some e =>
    if e.isDir && !(fs.childNames path).isEmpty then
      .error (.other ("dir: " ++ path ++ " contains files"))
    else
      let (dir, name) := Path.split path
      let dir := Path.clean dir
      let children := fs.children.map fun (d, names) =>
        if d == dir then (d, names.filter (· != name)) else (d, names)
      .ok { files := fs.files.filter (·.1 != path), children }

/-- What `stat` reports for an entry reached by a path. -/
def info (path : String) (e : FileEntry) : FileInfo :=
  ⟨Path.base path, e.isDir, e.content.size, e.perm⟩

/-- The entries of a directory, sorted by name. -/
def listing (fs : MemoryFS) (path : String) : List FileInfo :=
  let entries := (fs.childNames path).filterMap fun name =>
    (fs.get? (Path.join [path, name])).map fun e => ⟨e.name, e.isDir, e.content.size, e.perm⟩
  entries.mergeSort (fun a b => decide (a.name ≤ b.name))

/-- Remove a path and everything under it. A missing path is not an error. -/
def removeTree (fs : MemoryFS) (path : String) : Except FileError MemoryFS :=
  let rec go : Nat → MemoryFS → String → Except FileError MemoryFS
    | 0, fs, _ => .ok fs
    | fuel + 1, fs, path =>
      match fs.remove path with
      | .ok fs => .ok fs
      | .error .missing => .ok fs
      | .error err =>
        match fs.get? path with
        | none => .ok fs
        | some e =>
          if !e.isDir then .error err
          else
            let step (acc : MemoryFS × Option FileError) (entry : FileInfo) :=
              match go fuel acc.1 (Path.join [path, entry.name]) with
              | .ok fs => (fs, acc.2)
              | .error e => (acc.1, acc.2.orElse fun _ => some e)
            let (fs, first) := (fs.listing path).foldl step (fs, none)
            match fs.remove path with
            | .ok fs => .ok fs
            | .error .missing => .ok fs
            | .error e => .error (first.getD e)
  go (fs.files.length + 1) fs path

/-! ## Paths as scripts give them -/

/-- The absolute path of a script's path, or the refusal to climb out. -/
def locate (p : String) : Except FileError String :=
  if Path.climbsOut p then .error (.other "chroot boundary crossed") else .ok (Path.join ["/", p])

/-- The content of a file. -/
def readFile (fs : MemoryFS) (p : String) : Except FileError Text := do
  let path ← locate p
  match fs.get? path with
  | none => .error .missing
  | some e => if e.isDir then .error (.other ("cannot open directory: " ++ path)) else .ok e.content

/-- Write a file, creating it and its parents if needed. -/
def writeFile (fs : MemoryFS) (p : String) (data : Text) (perm : Nat) :
    Except FileError MemoryFS := do
  let path ← locate p
  let fs ← match fs.get? path with
    | none => fs.create path false perm
    | some _ => pure fs
  match fs.get? path with
  | some e =>
    if e.isDir then .error (.other ("cannot open directory: " ++ path))
    else .ok (fs.setEntry (Path.clean path) { e with content := data })
  | none => .ok fs

/-- What a path names. -/
def stat (fs : MemoryFS) (p : String) : Except FileError FileInfo := do
  let path ← locate p
  match fs.get? path with
  | none => .error .missing
  | some e => .ok (info path e)

/-- The entries of a directory, sorted by name; a missing directory has none. -/
def readDir (fs : MemoryFS) (p : String) : Except FileError (List FileInfo) := do
  let path ← locate p
  return fs.listing path

/-- Make a directory and its missing parents. -/
def mkdirAll (fs : MemoryFS) (p : String) (perm : Nat) : Except FileError MemoryFS := do
  let path ← locate p
  fs.create path true perm

/-- Remove a path and everything under it. The path is taken from the root
without the climbing check. -/
def removeAll (fs : MemoryFS) (p : String) : Except FileError MemoryFS :=
  fs.removeTree (Path.join ["/", p])

/-- A file system holding the given files, each written as by a script. -/
def ofFiles (files : List (String × String)) : MemoryFS :=
  files.foldl (fun fs (path, content) =>
    match fs.writeFile path (Text.ofString content) filePerm with
    | .ok fs' => fs'
    | .error _ => fs) empty

end MemoryFS

end Vernacular
