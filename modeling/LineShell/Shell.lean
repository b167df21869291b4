import LineShell.Builtin
import LineShell.Program
import LineShell.Redirect
import LineShell.Text.Quoted

/-!
# The shell

What runs a command: the built-in commands, the search for programs, how they are started, and the
streams that the shell itself was given. This module runs one command with its streams; pipelines and
sessions build on it.
-/

namespace LineShell

/-- What runs commands. -/
structure Shell where
  /-- The built-in commands. -/
  commands : Registry := .ofList Builtin.defaults
  /-- Where programs are searched. -/
  searchPath : SearchPath := .environment
  /-- How programs are found. -/
  starter : Starter := Program.find
  /-- The shell's own streams. -/
  streams : Streams
  /-- Where the history is kept between sessions. -/
  histfile : Option String := none

namespace Shell

/-- What a command runs in, with its streams. -/
def context (shell : Shell) (streams : Streams) : Context :=
  { streams, searchPath := shell.searchPath, builtins := shell.commands.names }

/-- Write what the buffers of a command's streams hold. -/
def flush (streams : Streams) : Run Unit := do
  World.flush streams.stdout
  World.flush streams.stderr

/-! ### Programs and their streams -/

/-- Each worker is a thread of its own. -/
def countWorkers (workers : List Worker) : Run Unit :=
  workers.forM fun _ => discard World.newThread

/-! ### One command -/

/-- Run a program with the given streams, and wait for it and for the workers on its streams. -/
def runProgram (shell : Shell) (name path : String) (args : List String) (streams : Streams) :
    Run (Except Failure Int) := do
  flush streams
  match shell.starter (← get) name path args with
  | .error cause => return .error (cause.during (.executing name path))
  | .ok program =>
    let (stdin, feeding) ← World.inputFor streams.stdin
    let (stdout, collecting) ← World.outputFor streams.stdout
    let (stderr, noticing) ← World.outputFor streams.stderr
    let workers := feeding ++ collecting ++ noticing
    countWorkers workers
    let status ← Program.wait (← program.start stdin stdout stderr)
    workers.forM Worker.join
    return .ok status

/-- Run a command by name. An unknown name is told on standard output. -/
def dispatch (shell : Shell) (name : String) (args : List String) (streams : Streams) :
    Run Conclusion := do
  match shell.commands.get? name with
  | some command =>
    World.note .debug .interpreter s!"built-in {name} {Text.quoteList args}"
    command args (shell.context streams)
  | none =>
    match shell.searchPath.resolve (← get) name with
    | none =>
      World.note .debug .interpreter s!"{name}: not found"
      World.say streams.stdout s!"{name}: command not found\n"
      return .returned Status.notFound
    | some path =>
      match ← shell.runProgram name path args streams with
      | .ok status => return .returned status
      | .error failure =>
        World.note .warn .interpreter failure.message
        World.say streams.stderr (failure.message ++ "\n")
        return .returned Status.failure

/-- Run the only stage of a line: its redirections are opened first and closed at the end, whichever
way the command ends. -/
def runSingle (shell : Shell) (words : List String) : Run Conclusion := do
  let i := Invocation.ofWords words
  match ← Redirection.apply i shell.streams with
  | .error failure =>
    World.note .warn .interpreter s!"redirection failed: {failure.message}"
    World.say shell.streams.stderr (failure.message ++ "\n")
    return .returned Status.failure
  | .ok (streams, redirection) =>
    let conclusion ← match i.words with
      | [] => pure (.returned 0)
      | name :: args => shell.dispatch name args streams
    if conclusion ≠ .faulted then flush streams
    discard redirection.release
    return conclusion

end Shell

end LineShell
