import Vernacular.Interpreter.Heap
/-!
# Showing values

Three ways to turn a value into text:

* `Heap.text` is the plain text of a value, as `print`, string conversion and
  messages use it. Strings inside containers are quoted, with a single quote
  when the string has none, else a double quote, else a backtick.
* `Heap.display` is how an interactive session shows a value: like the plain
  text, but a top-level string is quoted too and an object with more than
  three keys is shown one key per line.
* `Heap.describe` names a value's type before its text, for messages.

A container met again inside itself, on the path from the top, shows as
`[Circular]`; a container shared by two places that is not cyclic is shown in
full at both.
-/

set_option autoImplicit false

namespace Vernacular

/-- Concatenate texts. -/
def Text.concat (parts : List Text) : Text := ⟨(parts.map Text.bytes).flatten⟩

/-- Join texts with a separator. -/
def Text.joinWith (sep : Text) (parts : List Text) : Text :=
  Text.concat (parts.intersperse sep)

/-- The marker of a container met again inside itself. -/
def circularMarker : Text := Text.ofString "[Circular]"

/-- The text of a function written in the language. -/
def Closure.text (c : Closure) : Text :=
  let params := ", ".intercalate c.params
  if c.name.isEmpty then Text.ofString ("[AnonymousFunction](" ++ params ++ ")")
  else Text.ofString ("[Function:" ++ c.name ++ "](" ++ params ++ ")")

namespace Heap

/-- Fuel for walks through nested containers: a path from the top visits each
container at most once. -/
def showFuel (h : Heap) : Nat := h.arrays.size + h.objects.size + 2

/-- Whether a container is on the current path. -/
def onPath (seen : List Value) (v : Value) : Bool := seen.any (·.same v)

/-- The text of a scalar or a function; containers are handled by the callers. -/
def leafText (h : Heap) : Value → Text
  | .null => Text.ofString "null"
  | .nothing => Text.empty
  | .number x => Value.numberText x
  | .string t => t
  | .boolean b => Text.ofString (if b then "true" else "false")
  | .closure r => (h.closure r).text
  | .native _ => Text.ofString "[NativeFunction]"
  | .array _ => Text.ofString "[]"
  | .object _ => Text.ofString "{}"

/-- The plain text of a container on a path of containers already entered:
strings inside are quoted and containers on the path are marked circular. -/
def containerText (h : Heap) : Nat → List Value → Value → Text
  | 0, _, v => h.leafText v
  | fuel + 1, seen, v =>
    let nested (el : Value) : Text :=
      match el with
      | .string t => t.displayLiteral
      | .array _ | .object _ =>
        if onPath (v :: seen) el then circularMarker else containerText h fuel (v :: seen) el
      | _ => h.leafText el
    match v with
    | .array r =>
      let els := (h.elements r).toList
      if els.isEmpty then Text.ofString "[]"
      else
        Text.concat [Text.ofString "[ ", Text.joinWith (Text.ofString ", ") (els.map nested),
          Text.ofString " ]"]
    | .object r =>
      let entries := (h.object r).entries.toList
      if entries.isEmpty then Text.ofString "\x7b\x7d"
      else
        let items := entries.map fun (k, el) => Text.concat [k, Text.ofString ": ", nested el]
        Text.concat [Text.ofString "\x7b ", Text.joinWith (Text.ofString ", ") items,
          Text.ofString " \x7d"]
    | _ => h.leafText v

/-- The plain text of a value. -/
def text (h : Heap) (v : Value) : Text :=
  match v with
  | .array _ | .object _ => containerText h h.showFuel [] v
  | _ => h.leafText v

/-- How a session shows a value; `quoted` says whether a string gets quotes.
Inside containers strings are always quoted. -/
def shown (h : Heap) : Nat → Bool → List Value → Value → Text
  | 0, _, _, v => h.leafText v
  | fuel + 1, quoted, seen, v =>
    match v with
    | .string t => if quoted then t.displayLiteral else t
    | .array r =>
      if onPath seen v then circularMarker
      else
        let els := (h.elements r).toList
        if els.isEmpty then Text.ofString "[]"
        else
          let items := els.map (shown h fuel true (v :: seen))
          Text.concat [Text.ofString "[ ", Text.joinWith (Text.ofString ", ") items,
            Text.ofString " ]"]
    | .object r =>
      if onPath seen v then circularMarker
      else
        let entries := (h.object r).entries.toList
        if entries.isEmpty then Text.ofString "\x7b\x7d"
        else
          let items := entries.map fun (k, el) =>
            Text.concat [k, Text.ofString ": ", shown h fuel true (v :: seen) el]
          if entries.length > 3 then
            Text.concat [Text.ofString "\x7b\n  ", Text.joinWith (Text.ofString ",\n  ") items,
              Text.ofString "\n\x7d"]
          else
            Text.concat [Text.ofString "\x7b ", Text.joinWith (Text.ofString ", ") items,
              Text.ofString " \x7d"]
    | _ => h.leafText v

/-- How a session shows a value: strings quoted, large objects one key per line. -/
def display (h : Heap) (v : Value) : Text := shown h h.showFuel true [] v

/-- How `print` shows a value: like `display`, but a top-level string as it is. -/
def printed (h : Heap) (v : Value) : Text := shown h h.showFuel false [] v

/-- A value for messages: strings quoted, `nothing` named, anything else as
its type and its text. -/
def describe (h : Heap) (v : Value) : Text :=
  match v with
  | .string t => t.displayLiteral
  | .nothing => Text.ofString "nothing"
  | _ => Text.ofString (v.typeName ++ " ") ++ h.text v

end Heap

end Vernacular
