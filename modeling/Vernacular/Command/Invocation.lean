import Vernacular.Command.Flags
import Vernacular.Interpreter.Prompt
import Vernacular.Dialect.Load
import Vernacular.Syntax.Listing
import Vernacular.Syntax.Printer
/-!
# Running the command

The command is started with arguments, an environment, standard input and a
working directory, and ends with an exit status, what it wrote on its two
output streams, and the working directory as it left it.

* `-version` prints the version. Wrong flags exit with status 2 after the
  message and the usage text; `-h` prints the usage text and exits with 0.
* `-dialect-file` registers a dialect document from a file first; a failure
  to read, decode, validate or register it exits with status 1. A document
  without a name is named after the file, without its extension.
* With a file argument the program is read from that file, and its dialect
  is the one `-dialect` names, else the one of its extension; standard input
  is then what the program's `input` reads. Without one, the program is
  standard input itself.
* Scripts see the working directory through the disk, and built-in modules
  come from the directory that `-modules` or `MYRIAD_MODULES` names, if any.
* `-debug-ast` first prints the coloured listing of the parsed program; a
  parse error then exits with status 1.
* A failure is reported on standard error as `ERROR ` and its message. With
  `-strict` the run stops there with status 1; otherwise it goes on to the
  end and exits with 0.
-/

set_option autoImplicit false

namespace Vernacular

/-- What the command is started with. -/
structure Invocation where
  args : List String
  env : List (String × String)
  stdin : String
  disk : Disk

/-- What the command leaves behind. -/
structure Completion where
  exit : Nat
  stdout : Text
  stderr : Text
  disk : Disk

/-- The version the command reports. -/
def commandVersion : String := "0.1.0"

namespace Invocation

/-- A completion from plain text. -/
def done (code : Nat) (out err : String) (disk : Disk) : Completion :=
  ⟨code, Text.ofString out, Text.ofString err, disk⟩

/-- The name a dialect file gives a document without one: the file's base
name without its extension. -/
def fileDialectName (path : String) : String :=
  let base := Path.base path
  let ext := Path.ext path
  if !ext.isEmpty && base.endsWith ext then String.ofList (base.toList.take (base.length - ext.length))
  else base

/-- Register the dialect document of a file. -/
def loadDialectFile (disk : Disk) (path : String) (r : Registry) : Except Text Registry :=
  match disk.readFile path with
  | .error (.system "read" p .isDirectory) =>
    .error (Text.ofString (path ++ ": decode dialect: yaml: input error: read " ++ p ++ ": is a directory"))
  | .error e => .error (Text.ofString e.message)
  | .ok content =>
    match DialectSpec.load content.toStringLossy with
    | .error m => .error (Text.ofString (path ++ ": ") ++ m)
    | .ok spec =>
      let spec := if spec.name.isEmpty then { spec with name := fileDialectName path } else spec
      match r.register spec with
      | .ok r => .ok r
      | .error refusal => .error (Text.ofString refusal.message)

/-- The directory of built-in modules: the flag's, else the environment's. -/
def modulesDirectory (flags : CommandFlags) (env : List (String × String)) : String :=
  if flags.modules.isEmpty then (env.lookup "MYRIAD_MODULES").getD "" else flags.modules

/-- Run a program once its source and dialect are known. -/
def execute (flags : CommandFlags) (env : List (String × String)) (registry : Registry)
    (dialect source stdin : String) (disk : Disk) : Completion :=
  let dir := modulesDirectory flags env
  let session := Session.start {
    registry, dialect, disk, stdin,
    work := some (.disk "."),
    builtin := if dir.isEmpty then none else some (.disk dir),
    strict := flags.strict, logging := flags.debug }
  let session :=
    if dir.isEmpty then session
    else (session.exec (Eval.debug "built-in modules" [("dir", .text dir)])).2
  let failed (f : Failure) (s : Session) (listed : Text) : Completion :=
    let (out, err, s) := s.takeOutput
    let line := Text.ofString "ERROR " ++ f.report s.machine.heap source ++ Text.ofString "\n"
    ⟨1, listed ++ out, err ++ line, s.machine.disk⟩
  let listed : Except Failure Text :=
    if flags.debugAst then
      match Program.parse session.machine.dialect source with
      | .ok p => .ok (Text.ofString (listing (p.render ++ "\n")))
      | .error f => .error (Failure.ofParse f)
    else .ok Text.empty
  match listed with
  | .error f => failed f session Text.empty
  | .ok listed =>
    let (res, session) := session.run source
    match res.outcome with
    | .error (.panicked m) =>
      let trace := Text.ofString ("panic: " ++ m ++ "\n\ngoroutine 1 [running]:\n")
      ⟨2, listed ++ res.stdout, res.stderr ++ trace, session.machine.disk⟩
    | .error f =>
      let c := failed f session Text.empty
      { c with stdout := listed ++ res.stdout ++ c.stdout, stderr := res.stderr ++ c.stderr }
    | .ok _ => ⟨0, listed ++ res.stdout, res.stderr, session.machine.disk⟩

/-- The registry the command works with: the built-in dialects and the one
of the dialect file, if a file is named. -/
def registryFor (flags : CommandFlags) (disk : Disk) : Except Text Registry :=
  if flags.dialectFile.isEmpty then .ok Registry.standard
  else loadDialectFile disk flags.dialectFile Registry.standard

/-- The session of the interactive prompt, started when there is no file
argument and standard input is a terminal, or how the command ends before
the prompt starts. -/
def promptSession (inv : Invocation) : Except Completion Session :=
  match CommandFlags.read {} inv.args with
  | .help => .error (done 0 "" CommandFlags.usage inv.disk)
  | .failed message => .error (done 2 "" (message ++ "\n" ++ CommandFlags.usage) inv.disk)
  | .ok flags _ =>
    if flags.version then .error (done 0 ("myriad " ++ commandVersion ++ "\n") "" inv.disk)
    else match registryFor flags inv.disk with
      | .error message => .error ⟨1, Text.empty, message ++ Text.ofString "\n", inv.disk⟩
      | .ok registry =>
        let dir := modulesDirectory flags inv.env
        let session := Session.start {
          registry, dialect := flags.dialect, disk := inv.disk, stdin := inv.stdin,
          work := some (.disk "."),
          builtin := if dir.isEmpty then none else some (.disk dir),
          strict := flags.strict, logging := flags.debug }
        .ok (if dir.isEmpty then session
          else (session.exec (Eval.debug "built-in modules" [("dir", .text dir)])).2)

/-- The banner the interactive prompt opens with. -/
def promptBanner (s : Session) : String :=
  "\n Repl myriad v" ++ commandVersion ++ " (" ++ s.machine.dialect.name ++ ")\n\n"

/-- Run the command. -/
def run (inv : Invocation) : Completion :=
  match CommandFlags.read {} inv.args with
  | .help => done 0 "" CommandFlags.usage inv.disk
  | .failed message => done 2 "" (message ++ "\n" ++ CommandFlags.usage) inv.disk
  | .ok flags args =>
    if flags.version then done 0 ("myriad " ++ commandVersion ++ "\n") "" inv.disk
    else
      match registryFor flags inv.disk with
      | .error message => ⟨1, Text.empty, message ++ Text.ofString "\n", inv.disk⟩
      | .ok registry =>
        match args with
        | path :: _ =>
          match inv.disk.readFile path with
          | .error e => done 1 "" (e.message ++ "\n") inv.disk
          | .ok content =>
            let dialect :=
              if flags.dialect.isEmpty then
                ((registry.forExtension (Path.ext path)).map (·.name)).getD ""
              else flags.dialect
            execute flags inv.env registry dialect content.toStringLossy inv.stdin inv.disk
        | [] => execute flags inv.env registry flags.dialect inv.stdin "" inv.disk

end Invocation

end Vernacular
