import Vernacular.Files.Memory
import Vernacular.Files.Disk
/-!
# Volumes

Scripts reach files through a volume: an in-memory file system, or a
directory of the disk that scripts see as their root. On a disk volume a
script's path is joined to the volume's directory, and a path that climbs
out through `../` is refused, except when removing a tree, which takes the
joined path as it is. Several disk volumes share the one disk, so the disk
travels beside the volumes and every change to it is seen by all of them.
-/

set_option autoImplicit false

namespace Vernacular

/-- Where a script's files live. -/
inductive Volume where
  | memory (fs : MemoryFS)
  | disk (base : String)
deriving Inhabited

namespace Volume

/-- The path on the disk a script's path on a disk volume stands for. -/
def locate (base p : String) : Except FileError String :=
  if Path.climbsOut p then .error (.other "chroot boundary crossed") else .ok (Path.join [base, p])

/-- The content of a file. -/
def readFile (v : Volume) (d : Disk) (p : String) : Except FileError Text :=
  match v with
  | .memory fs => fs.readFile p
  | .disk base => do d.readFile (← locate base p)

/-- Write a file, creating it and its directories. -/
def writeFile (v : Volume) (d : Disk) (p : String) (data : Text) (perm : Nat) :
    Except FileError (Volume × Disk) :=
  match v with
  | .memory fs => do return (.memory (← fs.writeFile p data perm), d)
  | .disk base => do return (v, ← d.create (← locate base p) data perm)

/-- What a path names. -/
def stat (v : Volume) (d : Disk) (p : String) : Except FileError FileInfo :=
  match v with
  | .memory fs => fs.stat p
  | .disk base => do d.stat (← locate base p)

/-- The entries of a directory, sorted by name. -/
def readDir (v : Volume) (d : Disk) (p : String) : Except FileError (List FileInfo) :=
  match v with
  | .memory fs => fs.readDir p
  | .disk base => do d.readDir (← locate base p)

/-- Make a directory and its missing parents. -/
def mkdirAll (v : Volume) (d : Disk) (p : String) (perm : Nat) :
    Except FileError (Volume × Disk) :=
  match v with
  | .memory fs => do return (.memory (← fs.mkdirAll p perm), d)
  | .disk base => do return (v, ← d.mkdirAll (← locate base p) dirPerm)

/-- Remove a path and everything under it: the volume and disk as they were
left, and the first failure if any. -/
def removeAll (v : Volume) (d : Disk) (p : String) : (Volume × Disk) × Option FileError :=
  match v with
  | .memory fs =>
    match fs.removeAll p with
    | .ok fs' => ((.memory fs', d), none)
    | .error e => ((v, d), some e)
  | .disk base =>
    let (d', e) := d.removeTree (Path.join [base, p])
    ((v, d'), e)

end Volume

end Vernacular
