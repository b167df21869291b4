import LineShell.Editor
import LineShell.Pipeline
import LineShell.Text.Cluster

/-!
# Sessions

Running lines, one after the other, until the input ends or a command asks to leave.

## The model

`Shell.route` runs one line. A session is a loop over a `LineReader`, which is shown the history and
gives a line, the end of input, or a failure. The loop is bounded by a number of lines.
-/

namespace LineShell

namespace Shell

/-- Run the stages of a line. -/
def runStages (shell : Shell) : List (List String) → Run Conclusion
  | [] => pure (.returned 0)
  | [single] => shell.runSingle single
  | stages => return .returned (← Pipeline.run shell stages)

/-- Run a line and give its status. A command that breaks off has status 1. -/
def route (shell : Shell) (line : String) : Run Int := do
  match ← shell.runStages (Pipeline.stages (words line)) with
  | .returned status => return status
  | .faulted =>
    World.note .error .interpreter s!"panic while running {Text.quote line}"
    World.say shell.streams.stderr "minishell: internal error\n"
    return Status.failure

/-! ### History between sessions -/

/-- Append the lines of the history file, if there is one, to the history. -/
def loadHistory (shell : Shell) : Run Unit := do
  let world ← get
  match shell.histfile.filter (world.files.exists? world.cwd) with
  | none => pure ()
  | some path =>
    match world.history.load world.files world.cwd path with
    | .ok (history, n) =>
      set { world with history }
      World.note .debug .interpreter s!"loaded {n} history entries from {path}"
    | .error failure => World.note .warn .interpreter failure.message

/-- Write the history to the history file, if one is named and the shell is there to do it. -/
def saveHistory (shell : Shell) : Run Unit := do
  let world ← get
  match shell.histfile.filter fun _ => ! world.isGone with
  | none => pure ()
  | some path =>
    let (result, files) := world.history.save world.files world.cwd path
    set (world.withFiles files)
    match result with
    | .ok () => pure ()
    | .error failure =>
      World.note .warn .interpreter failure.message
      World.say shell.streams.stderr s!"minishell: {failure.message}\n"

/-- Remember a line, unless it is blank. -/
def remember (line : String) : Run Unit :=
  if Text.isBlankText line then pure ()
  else modify fun world => { world with history := world.history.push line }

end Shell

/-- Gives the next line, or none at the end of input. It is shown the history, and keeps a state of its
own. -/
abbrev LineReader (σ : Type) := List String → StateT σ Run (Except Failure (Option String))

namespace Shell

/-- Read and run at most so many lines; `status` is that of the line before. -/
def loop (shell : Shell) (reader : LineReader σ) : Nat → Int → StateT σ Run Int
  | 0, status => return status
  | count + 1, status => do
    match ← reader (← getThe World).history.entries with
    | .ok none => return status
    | .error failure =>
      World.note .error .interpreter s!"reading input: {failure.report}"
      World.say shell.streams.stderr s!"minishell: {failure.message}\n"
      return Status.failure
    | .ok (some line) =>
      remember line
      let status ← shell.route line
      let world ← getThe World
      match world.exitRequest with
      | some code => return code
      | none => if world.isGone then return status else shell.loop reader count status

/-- Read and run lines until the input ends, a read fails or a command asks to leave, and keep the
history. -/
def session (shell : Shell) (reader : LineReader σ) (bound : Nat) : StateT σ Run Int := do
  let status ← shell.loop reader bound 0
  shell.saveHistory
  return status

end Shell

/-! ### Readers of lines -/

namespace LineReader

/-- Keys to come, and what was shown for those that were typed. -/
structure Typing where
  /-- The keys to come. -/
  events : List Event
  /-- What was shown. -/
  shown : String := ""

/-- Everything that a reading of a line showed. -/
def shownBy (call : Editor.Call) : String :=
  call.promptShown ++ String.join (call.echoes.map (·.shown))

/-- What became of a line that was edited. -/
def lineOf : Editor.Result → Except Failure (Option String)
  | .ok (.line text) => .ok (some text)
  | .ok .ended => .ok none
  | .error failure => .error failure

/-- Reads lines with the line editor. -/
def ofKeys (prompt : String) (completer : Completer) : LineReader Typing := fun history => do
  let typing ← getThe Typing
  let call := Editor.readLine {} { prompt, history, completer } {} typing.events
  set { events := call.rest, shown := typing.shown ++ shownBy call : Typing }
  return lineOf call.result

end LineReader

end LineShell
