import Vernacular.Files.Error
/-!
# A directory tree on a disk

A command started in a working directory sees the tree below it through the
operating system's calls. This module keeps that tree as a list of entries,
each by the elements of its path from the working directory, and gives the
calls their system behaviour:

* a path is walked element by element, so a missing element fails with "no
  such file or directory" and a file used as a directory with "not a
  directory"; `.` stays, `..` climbs, and a trailing slash asks for a
  directory;
* above the working directory and at absolute paths nothing is known to
  exist: such places are directories with no entries;
* the calls that programs use on top of the system calls (`stat`, reading a
  whole file, making a directory with its parents, listing a directory,
  removing a path) fail with the name of the call and the path they were
  given, as in `stat a/x: not a directory`.

Removing a whole tree removes what it can and reports the first failure, so
it answers the tree as it was left together with that failure.
-/

set_option autoImplicit false

namespace Vernacular

/-- A file or a directory on the disk. -/
structure DiskEntry where
  isDir : Bool
  perm : Nat
  content : Text
deriving Inhabited

/-- The tree below a working directory: each entry by the elements of its
path. The working directory itself is always there. -/
structure Disk where
  entries : List (List String × DiskEntry)
deriving Inhabited

/-- Where a walk along a path stands: at the working directory or an entry
below it, by the elements of its path, or somewhere outside the tree. -/
inductive Place where
  | inside (parts : List String)
  | outside
deriving Inhabited, BEq

/-- The place one level up. -/
def Place.parent : Place → Place
  | .inside [] => .outside
  | .inside parts => .inside parts.dropLast
  | .outside => .outside

/-- The size a directory reports. -/
def directorySize : Nat := 4096

namespace Disk

/-- The empty working directory. -/
def empty : Disk := ⟨[]⟩

/-- The entry at the elements of a path. -/
def entry? (d : Disk) (parts : List String) : Option DiskEntry := d.entries.lookup parts

/-- Whether a place is a directory. -/
def isDirAt (d : Disk) : Place → Bool
  | .inside [] => true
  | .inside parts => (d.entry? parts).any (·.isDir)
  | .outside => true

/-- Walk from a place along path elements. -/
def walk (d : Disk) : Place → Bool → List String → Except Errno Place
  | here, _, [] => .ok here
  | here, isDir, part :: rest =>
    if !isDir then .error .notDirectory
    else if part == "" || part == "." then d.walk here true rest
    else if part == ".." then d.walk here.parent true rest
    else match here with
      | .outside => .error .noEntry
      | .inside parts =>
        match d.entry? (parts ++ [part]) with
        | none => .error .noEntry
        | some e => d.walk (.inside (parts ++ [part])) e.isDir rest

/-- Where a path starts: absolute paths start outside the tree. -/
def origin (p : String) : Place := if p.startsWith "/" then .outside else .inside []

/-- The place a path names. The empty path names nothing. -/
def resolve (d : Disk) (p : String) : Except Errno Place :=
  if p.isEmpty then .error .noEntry else d.walk (origin p) true (p.splitOn "/")

/-- The directory holding the last element of a path, and that element. -/
def parentAndName (d : Disk) (p : String) : Except Errno (Place × String) := do
  if p.isEmpty then throw .noEntry
  let parts := p.splitOn "/"
  let parent ← d.walk (origin p) true parts.dropLast
  if !d.isDirAt parent then throw .notDirectory
  return (parent, parts.getLastD "")

/-- Store an entry. -/
def put (d : Disk) (parts : List String) (e : DiskEntry) : Disk :=
  if d.entries.any (·.1 == parts) then
    ⟨d.entries.map fun (k, v) => if k == parts then (k, e) else (k, v)⟩
  else ⟨d.entries ++ [(parts, e)]⟩

/-- Drop an entry. -/
def drop (d : Disk) (parts : List String) : Disk := ⟨d.entries.filter (·.1 != parts)⟩

/-- The names in a directory, sorted. -/
def childNames (d : Disk) (parts : List String) : List String :=
  let names := d.entries.filterMap fun (k, _) =>
    if k.length == parts.length + 1 && k.take parts.length == parts then k.getLast? else none
  names.mergeSort (fun a b => decide (a ≤ b))

/-! ## System calls -/

/-- Open a file for writing, creating it if needed and emptying it, and write
the data. -/
def createFile (d : Disk) (p : String) (data : Text) (perm : Nat) : Except Errno Disk := do
  let (parent, name) ← d.parentAndName p
  if name == "" || name == "." || name == ".." then throw .isDirectory
  match parent with
  | .outside => throw .noEntry
  | .inside parts =>
    match d.entry? (parts ++ [name]) with
    | some e =>
      if e.isDir then throw .isDirectory
      return d.put (parts ++ [name]) { e with content := data }
    | none => return d.put (parts ++ [name]) ⟨false, perm, data⟩

/-- Path elements with trailing empty ones dropped, keeping at least one. -/
def trimTrailing (parts : List String) : List String :=
  match (parts.reverse.dropWhile (· == "")).reverse with
  | [] => [""]
  | kept => kept

/-- Make one directory. -/
def mkdir (d : Disk) (p : String) (perm : Nat) : Except Errno Disk := do
  if p.isEmpty then throw .noEntry
  let parts := trimTrailing (p.splitOn "/")
  let parent ← d.walk (origin p) true parts.dropLast
  if !d.isDirAt parent then throw .notDirectory
  let name := parts.getLastD ""
  if name == "" || name == "." || name == ".." then throw .alreadyExists
  match parent with
  | .outside => throw .noEntry
  | .inside ps =>
    match d.entry? (ps ++ [name]) with
    | some _ => throw .alreadyExists
    | none => return d.put (ps ++ [name]) ⟨true, perm, Text.empty⟩

/-- Remove a file. -/
def unlink (d : Disk) (p : String) : Except Errno Disk := do
  let (parent, name) ← d.parentAndName p
  if name == "" || name == "." || name == ".." then throw .isDirectory
  match parent with
  | .outside => throw .noEntry
  | .inside parts =>
    match d.entry? (parts ++ [name]) with
    | none => throw .noEntry
    | some e =>
      if e.isDir then throw .isDirectory
      return d.drop (parts ++ [name])

/-- Remove an empty directory. -/
def rmdir (d : Disk) (p : String) : Except Errno Disk := do
  if p.isEmpty then throw .noEntry
  let parts := trimTrailing (p.splitOn "/")
  let parent ← d.walk (origin p) true parts.dropLast
  if !d.isDirAt parent then throw .notDirectory
  let name := parts.getLastD ""
  if name == "." || name == "" then throw .invalid
  if name == ".." then throw .notEmpty
  match parent with
  | .outside => throw .noEntry
  | .inside ps =>
    match d.entry? (ps ++ [name]) with
    | none => throw .noEntry
    | some e =>
      if !e.isDir then throw .notDirectory
      if !(d.childNames (ps ++ [name])).isEmpty then throw .notEmpty
      return d.drop (ps ++ [name])

/-! ## Calls as programs make them -/

/-- What `stat` reports for a place reached by a path. -/
def infoAt (d : Disk) (p : String) : Place → FileInfo
  | .inside [] => ⟨Path.base p, true, directorySize, dirPerm⟩
  | .inside parts =>
    match d.entry? parts with
    | some e => ⟨Path.base p, e.isDir, if e.isDir then directorySize else e.content.size, e.perm⟩
    | none => ⟨Path.base p, true, directorySize, dirPerm⟩
  | .outside => ⟨Path.base p, true, directorySize, dirPerm⟩

/-- Describe what a path names. -/
def stat (d : Disk) (p : String) : Except FileError FileInfo :=
  match d.resolve p with
  | .error e => .error (.system "stat" p e)
  | .ok place => .ok (d.infoAt p place)

/-- The whole content of a file. A directory opens but cannot be read. -/
def readFile (d : Disk) (p : String) : Except FileError Text :=
  match d.resolve p with
  | .error e => .error (.system "open" p e)
  | .ok (.inside parts) =>
    match d.entry? parts with
    | some e => if e.isDir then .error (.system "read" p .isDirectory) else .ok e.content
    | none => .error (.system "read" p .isDirectory)
  | .ok .outside => .error (.system "read" p .isDirectory)

/-- The entries of a directory, sorted by name. -/
def readDir (d : Disk) (p : String) : Except FileError (List FileInfo) :=
  match d.resolve p with
  | .error e => .error (.system "open" p e)
  | .ok place =>
    if !d.isDirAt place then .error (.system "open" p .notDirectory)
    else match place with
      | .outside => .ok []
      | .inside parts =>
        .ok ((d.childNames parts).map fun name => d.infoAt name (.inside (parts ++ [name])))

/-- The parent a directory-making walk makes first: the path up to its last
separator, once trailing separators are set aside. -/
def parentPrefix (p : String) : String :=
  let rest := (p.toList.reverse.dropWhile (· == '/')).dropWhile (· != '/')
  String.ofList (rest.drop 1).reverse

/-- Make a directory and the missing directories above it. A path that is a
directory already is fine; one that is a file is not. -/
def mkdirAll (d : Disk) (p : String) (perm : Nat) : Except FileError Disk :=
  let rec go : Nat → Disk → String → Except FileError Disk
    | 0, d, _ => .ok d
    | fuel + 1, d, p =>
      match d.resolve p with
      | .ok place =>
        if d.isDirAt place then .ok d else .error (.system "mkdir" p .notDirectory)
      | .error _ => do
        let parent := parentPrefix p
        let d ← if parent.isEmpty then pure d else go fuel d parent
        match d.mkdir p perm with
        | .ok d => .ok d
        | .error e =>
          match d.resolve p with
          | .ok place => if d.isDirAt place then .ok d else .error (.system "mkdir" p e)
          | .error _ => .error (.system "mkdir" p e)
  go (p.length + 1) d p

/-- Remove a file or an empty directory. When both ways fail, the reason given
is the directory's, unless the path was not a directory at all. -/
def remove (d : Disk) (p : String) : Except FileError Disk :=
  match d.unlink p with
  | .ok d => .ok d
  | .error e =>
    match d.rmdir p with
    | .ok d => .ok d
    | .error e1 => .error (.system "remove" p (if e1 != .notDirectory then e1 else e))

/-- Create a file for writing, making its directory first. -/
def create (d : Disk) (p : String) (data : Text) (perm : Nat) : Except FileError Disk := do
  let dir := Path.dir p
  let d ← if dir != "." then d.mkdirAll dir dirPerm else pure d
  match d.createFile p data perm with
  | .ok d => .ok d
  | .error e => .error (.system "open" p e)

/-- Remove a path and everything under it. A path that does not exist, or
that runs through a file, is no failure. Whatever could be removed is gone;
the first failure met is returned with the tree. -/
def removeTree (d : Disk) (p : String) : Disk × Option FileError :=
  let rec go : Nat → Disk → String → Disk × Option FileError
    | 0, d, _ => (d, none)
    | fuel + 1, d, p =>
      match d.remove p with
      | .ok d => (d, none)
      | .error err =>
        if err.isNotExist then (d, none)
        else match d.stat p with
          | .error (.system _ _ .noEntry) | .error (.system _ _ .notDirectory) => (d, none)
          | .error serr => (d, some serr)
          | .ok info =>
            if !info.isDir then (d, some err)
            else match d.readDir p with
              | .error e => if e.isNotExist then (d, none) else (d, some e)
              | .ok infos =>
                let step (acc : Disk × Option FileError) (fi : FileInfo) :=
                  let (d', e) := go fuel acc.1 (Path.join [p, fi.name])
                  (d', acc.2.orElse fun _ => e)
                let (d, first) := infos.foldl step (d, none)
                match d.remove p with
                | .ok d => (d, first)
                | .error e1 => if e1.isNotExist then (d, first) else (d, first.orElse fun _ => some e1)
  go (d.entries.length + 2) d p

/-! ## Whole trees -/

/-- A tree holding the given files, with their directories. -/
def ofFiles (files : List (String × String)) : Disk :=
  files.foldl (fun d (path, content) =>
    match d.create (Path.clean path) (Text.ofString content) filePerm with
    | .ok d' => d'
    | .error _ => d) empty

/-- Every entry in walk order: the names of a directory in sorted order,
each directory followed by what is inside it. Directories are written with a
trailing slash and no content. -/
def walkOrder (d : Disk) : List (String × Option Text) :=
  let rec go : Nat → List String → List (String × Option Text)
    | 0, _ => []
    | fuel + 1, parts =>
      (d.childNames parts).flatMap fun name =>
        let path := parts ++ [name]
        let shown := "/".intercalate path
        match d.entry? path with
        | some e =>
          if e.isDir then (shown ++ "/", none) :: go fuel path else [(shown, some e.content)]
        | none => []
  go (d.entries.length + 1) []

end Disk

end Vernacular
