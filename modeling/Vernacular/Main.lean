import Vernacular.Command.Invocation
/-!
# The command line

`main` runs the command on the process's own streams and working directory.
It reads the arguments, `MYRIAD_MODULES`, standard input and the files the
command line names (the program file and the dialect file), runs the
command, writes what it printed, writes back the files the program created,
changed or removed among those it could see, and exits with the command's
status.

When standard input is a terminal and no file is named, it opens the
interactive prompt instead and answers line by line until the input ends or
a line asks to leave.
-/

open Vernacular

/-- The content of a file of the working directory, if it can be read. -/
def hostFile? (path : String) : IO (Option String) := do
  try
    return some (← IO.FS.readFile path)
  catch _ =>
    return none

/-- Everything left on a stream. -/
partial def readAll (stream : IO.FS.Stream) (acc : String) : IO String := do
  let line ← stream.getLine
  if line.isEmpty then return acc else readAll stream (acc ++ line)

/-- The files a command line names: its dialect file and its program file. -/
def namedPaths (args : List String) : List String :=
  match CommandFlags.read {} args with
  | .ok flags rest => (if flags.dialectFile.isEmpty then [] else [flags.dialectFile]) ++ rest.take 1
  | _ => []

/-- Whether a command line names a program file. -/
def namesProgram (args : List String) : Bool :=
  match CommandFlags.read {} args with
  | .ok _ (_ :: _) => true
  | _ => false

/-- Write text to a stream as its bytes. -/
def emit (stream : IO.FS.Stream) (t : Text) : IO Unit := do
  stream.write (ByteArray.mk t.bytes.toArray)
  stream.flush

/-- Write back what a run changed in the working directory. -/
def writeBack (before after : Disk) : IO Unit := do
  let bytesOf (entry : String × Option Text) : String × Option (List UInt8) :=
    (entry.1, entry.2.map Text.bytes)
  let old := before.walkOrder.map bytesOf
  let new := after.walkOrder.map bytesOf
  for (path, content) in new do
    match content with
    | none => IO.FS.createDirAll path
    | some bytes =>
      if old.lookup path != some (some bytes) then
        IO.FS.writeBinFile path (ByteArray.mk bytes.toArray)
  for (path, content) in old do
    if content.isSome && (new.lookup path).isNone then
      try IO.FS.removeFile path catch _ => pure ()

/-- Answer lines at the prompt until the input ends or a line leaves. -/
partial def promptLoop (input output errors : IO.FS.Stream) (s : Session) : IO Unit := do
  output.putStr "> "
  output.flush
  let line ← input.getLine
  if line.isEmpty then return
  let (answer, s) := s.prompt (String.ofList (line.toList.reverse.dropWhile (· == '\n')).reverse)
  emit output answer.stdout
  emit errors answer.stderr
  match answer.outcome with
  | .quit => return
  | .halted why => emit errors ("panic: " ++ why ++ "\n")
  | _ => promptLoop input output errors s

/-- Run the command. -/
def main (args : List String) : IO UInt32 := do
  let input ← IO.getStdin
  let output ← IO.getStdout
  let errors ← IO.getStderr
  let env := match ← IO.getEnv "MYRIAD_MODULES" with
    | some dir => [("MYRIAD_MODULES", dir)]
    | none => []
  let mut files : List (String × String) := []
  for path in namedPaths args do
    if let some content ← hostFile? path then
      files := files ++ [(path, content)]
  let disk := Disk.ofFiles files
  if (← input.isTty) && !namesProgram args then
    match Invocation.promptSession ⟨args, env, "", disk⟩ with
    | .error c =>
      emit output c.stdout
      emit errors c.stderr
      return c.exit.toUInt32
    | .ok s =>
      output.putStr (Invocation.promptBanner s)
      let (out, err, s) := s.takeOutput
      emit output out
      emit errors err
      promptLoop input output errors s
      writeBack disk s.machine.disk
      return 0
  else
    let c := Invocation.run ⟨args, env, ← readAll input "", disk⟩
    emit output c.stdout
    emit errors c.stderr
    writeBack disk c.disk
    return c.exit.toUInt32
