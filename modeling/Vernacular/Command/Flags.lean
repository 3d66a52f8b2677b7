import Vernacular.Text.Quoted
/-!
# Command-line flags

The command reads flags before its arguments. A flag is `-name` or
`--name`; a value is given as `-name=value` or, for a flag that is not a
switch, as the next argument. A switch alone means true, and `-name=value`
sets it from `1`, `t`, `T`, `TRUE`, `true`, `True`, `0`, `f`, `F`, `FALSE`,
`false` or `False`. Reading stops at the first argument that is not a flag,
at a lone `-`, and after `--`. A later flag overrides an earlier one.

`-h` and `-help` ask for the usage text. An unknown flag, a bad value, a
missing value or a malformed flag is an error whose message is followed by
the usage text.
-/

set_option autoImplicit false

namespace Vernacular

/-- The flags of the command. -/
structure CommandFlags where
  dialect : String := ""
  dialectFile : String := ""
  modules : String := ""
  debug : Bool := false
  debugAst : Bool := false
  strict : Bool := false
  version : Bool := false
deriving Inhabited

/-- What reading the flags gave. -/
inductive FlagReading where
  /-- The flags, and the arguments after them. -/
  | ok (flags : CommandFlags) (args : List String)
  /-- The usage text was asked for. -/
  | help
  /-- A flag was wrong; the message says how. -/
  | failed (message : String)

namespace CommandFlags

/-- The usage text: what the command does, how it is called, and its flags. -/
def usage : String :=
  "myriad is a scripting language with interchangeable keyword dialects.\n\n" ++
  "Usage:\n  myriad [flags] <file>\n" ++
  "  myriad [flags]          start a REPL, or run a program piped on stdin\n" ++
  "  -debug\n    \tlog interpreter events to stderr\n" ++
  "  -debug-ast\n    \tprint AST\n" ++
  "  -dialect string\n    \tdialect to use (default: from the file extension, else myriad)\n" ++
  "  -dialect-file string\n    \tregister an extra dialect from a YAML file\n" ++
  "  -modules string\n    \tdirectory of built-in modules (default $MYRIAD_MODULES)\n" ++
  "  -strict\n    \texit with status 1 on the first error\n" ++
  "  -version\n    \tprint the version and exit\n"

/-- The truth value a switch's text stands for. -/
def switchValue? (s : String) : Option Bool :=
  if ["1", "t", "T", "TRUE", "true", "True"].contains s then some true
  else if ["0", "f", "F", "FALSE", "false", "False"].contains s then some false
  else none

/-- Set a switch by name. -/
def setSwitch (f : CommandFlags) (name : String) (b : Bool) : Option CommandFlags :=
  match name with
  | "debug" => some { f with debug := b }
  | "debug-ast" => some { f with debugAst := b }
  | "strict" => some { f with strict := b }
  | "version" => some { f with version := b }
  | _ => none

/-- Set a flag with a text value by name. -/
def setText (f : CommandFlags) (name value : String) : Option CommandFlags :=
  match name with
  | "dialect" => some { f with dialect := value }
  | "dialect-file" => some { f with dialectFile := value }
  | "modules" => some { f with modules := value }
  | _ => none

/-- Whether a name is a switch. -/
def isSwitch (name : String) : Bool := ["debug", "debug-ast", "strict", "version"].contains name

/-- Whether a name is a flag that takes a text value. -/
def takesText (name : String) : Bool := ["dialect", "dialect-file", "modules"].contains name

/-- Read one flag by its name and its value if written with `=`, given the
argument after it. Answers the flags and whether that argument was used as
the value. -/
def readFlag (f : CommandFlags) (name : String) (value : Option String) (next : Option String) :
    Except String (CommandFlags × Bool) :=
  if isSwitch name then
    match value with
    | none => .ok ((f.setSwitch name true).getD f, false)
    | some v =>
      match switchValue? v with
      | some b => .ok ((f.setSwitch name b).getD f, false)
      | none => .error ("invalid boolean value " ++ escapedQuote v ++ " for -" ++ name ++ ": parse error")
  else
    match value, next with
    | some v, _ => .ok ((f.setText name v).getD f, false)
    | none, some v => .ok ((f.setText name v).getD f, true)
    | none, none => .error ("flag needs an argument: -" ++ name)

/-- Read the flags from the front of the arguments. -/
def read (f : CommandFlags) : List String → FlagReading
  | [] => .ok f []
  | arg :: rest =>
    let cs := arg.toList
    if cs.length < 2 || cs.head? != some '-' then .ok f (arg :: rest)
    else
      let dashes := if cs[1]? == some '-' then 2 else 1
      if dashes == 2 && cs.length == 2 then .ok f rest
      else
        let body := cs.drop dashes
        if body.head? == some '-' || body.head? == some '=' then
          .failed ("bad flag syntax: " ++ arg)
        else
          let nameChars := (body.drop 1).takeWhile (· != '=')
          let name := String.ofList ((body.take 1) ++ nameChars)
          let value : Option String :=
            if (body.drop 1).length > nameChars.length then
              some (String.ofList (body.drop (1 + nameChars.length + 1)))
            else none
          if !isSwitch name && !takesText name then
            if name == "help" || name == "h" then .help
            else .failed ("flag provided but not defined: -" ++ name)
          else
            match readFlag f name value rest.head? with
            | .ok (f', usedNext) => if usedNext then read f' (rest.drop 1) else read f' rest
            | .error message => .failed message
termination_by args => args.length
decreasing_by
  all_goals simp only [List.length_drop, List.length_cons]
  all_goals omega

end CommandFlags

end Vernacular
