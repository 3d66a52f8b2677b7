import Vernacular.Files.Path
import Vernacular.Text.Quoted
/-!
# File-system errors and descriptions

A file-system operation fails for a reason that scripts see as a message.
The in-memory file system has its own short messages; a directory tree on a
disk reports a failed system call as the call, the path it was given and the
error number's text, as in `open nope: no such file or directory`.

Either way, "does not exist" is a reason of its own: module lookup and
recursive removal treat a missing path differently from any other failure.
-/

set_option autoImplicit false

namespace Vernacular

/-- The error numbers a system call on a directory tree can fail with. -/
inductive Errno where
  | noEntry
  | notDirectory
  | isDirectory
  | alreadyExists
  | notEmpty
  | invalid
deriving Inhabited, BEq, Repr

/-- The text the system gives for an error number. -/
def Errno.text : Errno → String
  | .noEntry => "no such file or directory"
  | .notDirectory => "not a directory"
  | .isDirectory => "is a directory"
  | .alreadyExists => "file exists"
  | .notEmpty => "directory not empty"
  | .invalid => "invalid argument"

/-- Why a file-system operation failed: the in-memory file system's "does not
exist", another message of its own, or a failed system call. -/
inductive FileError where
  | missing
  | other (message : String)
  /-- A system call, the path it was given, and why it failed. -/
  | system (call path : String) (errno : Errno)
deriving Inhabited, Repr

/-- The message of a file-system error. -/
def FileError.message : FileError → String
  | .missing => "file does not exist"
  | .other m => m
  | .system call path errno => call ++ " " ++ path ++ ": " ++ errno.text

/-- Whether an error says that a path does not exist. -/
def FileError.isNotExist : FileError → Bool
  | .missing => true
  | .system _ _ .noEntry => true
  | _ => false

/-- What a `stat` reports. -/
structure FileInfo where
  name : String
  isDir : Bool
  size : Nat
  perm : Nat
deriving Inhabited, Repr

/-- The permission bits of files created by writing, `rw-r--r--`. -/
def filePerm : Nat := 0o644

/-- The permission bits of directories made by `mkdir`, `rwxr-xr-x`. -/
def dirPerm : Nat := 0o755

end Vernacular
