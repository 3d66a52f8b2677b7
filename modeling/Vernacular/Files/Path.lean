/-!
# Slash-separated paths

Lexical operations on paths separated by `/`, with no look at any file
system. `Path.clean` gives the shortest path naming the same file by purely
lexical steps: repeated slashes become one, `.` elements go, a `..` removes
the element before it, and a `..` at the start of a rooted path goes too. The
clean form of the empty path is `.`.
-/

set_option autoImplicit false

namespace Vernacular

namespace Path

/-- The nonempty elements of a path. -/
def elements (p : String) : List String := (p.splitOn "/").filter (· ≠ "")

/-- Resolve `.` and `..` elements, left to right. A rooted path drops a `..`
that would climb above the root. -/
def resolveElements (rooted : Bool) (parts : List String) : List String :=
  let step (acc : List String) (part : String) : List String :=
    if part == "." then acc
    else if part == ".." then
      match acc with
      | top :: rest => if top == ".." then part :: acc else rest
      | [] => if rooted then [] else [part]
    else part :: acc
  (parts.foldl step []).reverse

/-- The clean form of a path. -/
def clean (p : String) : String :=
  let rooted := p.startsWith "/"
  let body := "/".intercalate (resolveElements rooted (elements p))
  if rooted then "/" ++ body
  else if body.isEmpty then "." else body

/-- Join paths with slashes and clean the result; empty parts are skipped, and
joining only empty parts gives the empty path. -/
def join (parts : List String) : String :=
  let parts := parts.filter (· ≠ "")
  if parts.isEmpty then "" else clean ("/".intercalate parts)

/-- The last element of a path: trailing slashes are ignored, the root is
`/` and the empty path is `.`. -/
def base (p : String) : String :=
  if p.isEmpty then "."
  else
    let trimmed := (p.toList.reverse.dropWhile (· == '/')).reverse
    if trimmed.isEmpty then "/"
    else String.ofList ((trimmed.reverse.takeWhile (· != '/')).reverse)

/-- Split a path after its last slash: the directory part keeps the slash. -/
def split (p : String) : String × String :=
  let cs := p.toList
  let file := (cs.reverse.takeWhile (· != '/')).reverse
  (String.ofList (cs.take (cs.length - file.length)), String.ofList file)

/-- All but the last element of a path, cleaned. -/
def dir (p : String) : String := clean (split p).1

/-- The extension of the last element: from its last dot, or empty. -/
def ext (p : String) : String :=
  let last := (p.toList.reverse.takeWhile (· != '/'))
  match last.findIdx? (· == '.') with
  | some i => String.ofList (last.take (i + 1)).reverse
  | none => ""

/-- Whether a path, once clean, starts by climbing out through `../`. A
lone `..` does not count. -/
def climbsOut (p : String) : Bool := (clean p).startsWith "../"

end Path

end Vernacular
