import Vernacular.Interpreter.Session
/-!
# The interactive prompt

A line typed at the prompt is either one of the prompt's own commands or a
source to run in the session. The commands are recognised by the line's
words, so surrounding white space does not matter:

* a blank line does nothing;
* `exit` on its own leaves the prompt;
* `clear` on its own clears the terminal;
* `lang` on its own lists the commands and the dialects, marking the current
  one with `*`;
* `lang <name>` switches to a registered dialect, which starts a new global
  scope, or reports that there is no such dialect.

Any other line, `exit now` or `lang a b` included, runs as a source. Failures
are reported on standard error, also in a strict session, and a value other
than `nothing` is shown on standard output in the prompt's display form.
-/

set_option autoImplicit false

namespace Vernacular

/-- The words of a line: the runs of characters between white space. -/
def lineWords (line : String) : List String :=
  let step (c : Char) (acc : List (List Char)) : List (List Char) :=
    if Text.isSpaceChar c then [] :: acc
    else match acc with
      | w :: ws => (c :: w) :: ws
      | [] => [[c]]
  ((line.toList.foldr step [[]]).filter (!·.isEmpty)).map String.ofList

/-- What a line typed at the prompt asks for. -/
inductive PromptCommand where
  | blank
  | quit
  | clear
  | listDialects
  | switchDialect (name : String)
  | source
deriving Inhabited, BEq

/-- Recognise the prompt's own commands by the words of a line. -/
def PromptCommand.ofLine (line : String) : PromptCommand :=
  match lineWords line with
  | [] => .blank
  | ["exit"] => .quit
  | ["clear"] => .clear
  | ["lang"] => .listDialects
  | ["lang", name] => .switchDialect name
  | _ => .source

/-- How the prompt dealt with a line. -/
inductive PromptOutcome where
  /-- The line asked to leave the prompt. -/
  | quit
  /-- The line was one of the prompt's own commands. -/
  | handled
  /-- The line ran as a source. -/
  | ran
  /-- The line stopped the whole program, for the reason given. -/
  | halted (reason : String)
deriving Inhabited, BEq

/-- What answering one line produced: how it was dealt with, what was
written, and the dialect current afterwards. -/
structure PromptAnswer where
  outcome : PromptOutcome
  stdout : Text
  stderr : Text
  dialect : String

/-- The prompt's list of its own commands. -/
def promptHelp : String :=
  "commands:\n  exit           leave the REPL\n  lang [name]    list dialects, or switch to one\n" ++
    "  clear          clear the screen\n"

/-- The terminal sequence that clears the screen. -/
def clearScreen : String := "\x1b[H\x1b[2J"

/-- The command list followed by the registered dialects, the current one marked. -/
def dialectListing (r : Registry) (current : String) : String :=
  promptHelp ++ String.join (r.names.map fun name =>
    (if name == current then "*" else " ") ++ " " ++ name ++ "\n")

namespace Session

/-- A session for the prompt: failures are reported rather than returned. -/
def forPrompt (c : Config) : Session := Session.start { c with strict := false }

/-- Answer one line typed at the prompt. -/
def prompt (s : Session) (line : String) : PromptAnswer × Session :=
  let answer (outcome : PromptOutcome) (out err : String) (s : Session) : PromptAnswer × Session :=
    (⟨outcome, Text.ofString out, Text.ofString err, s.machine.dialect.name⟩, s)
  match PromptCommand.ofLine line with
  | .blank => answer .handled "" "" s
  | .quit => answer .quit "" "" s
  | .clear => answer .handled clearScreen "" s
  | .listDialects =>
    answer .handled (dialectListing s.machine.registry s.machine.dialect.name) "" s
  | .switchDialect name =>
    match s.switchDialect name with
    | (true, s) => answer .handled "" "" s
    | (false, s) => answer .handled "" ("unknown dialect " ++ escapedQuote name ++ "\n") s
  | .source =>
    let (res, s) := s.run line
    if let .error (.panicked m) := res.outcome then answer (.halted m) "" "" s else
    let (shown, reported) := match res.outcome with
      | .ok .nothing => (Text.empty, Text.empty)
      | .ok v => (res.heap.display v ++ Text.ofString "\n", Text.empty)
      | .error f => (Text.empty, Text.ofString "ERROR " ++ f.report res.heap line ++ Text.ofString "\n")
    (⟨.ran, res.stdout ++ shown, res.stderr ++ reported, s.machine.dialect.name⟩, s)

/-- Answer lines in order until one asks to leave the prompt or stops the
program. -/
def promptLines (s : Session) : List String → List PromptAnswer
  | [] => []
  | line :: rest =>
    let (a, s) := s.prompt line
    match a.outcome with
    | .quit | .halted _ => [a]
    | _ => a :: s.promptLines rest

end Session

end Vernacular
