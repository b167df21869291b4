import LineShell.CommandIndex
import LineShell.Session
import LineShell.Settings

/-!
# The whole program

From its arguments and its environment to its status: settings, log, history, and a session on the
streams that the program was given.

## The model

The program runs in a `World` whose first source is its input and whose first two sinks are its
output and its messages; `Launch.world` makes such a world. Lines are read with the line editor, which
echoes to the output although no terminal is there, or plainly by the line.
-/

namespace LineShell

namespace LineReader

/-- Whether Tab was among the keys of a line. -/
def usedTab (call : Editor.Call) : Bool :=
  call.echoes.any fun echo => match echo.key with
    | .ok key => key == .tab
    | .error _ => false

/-- Reads lines from the shell's own input with the line editor. The index of command names is built
at the first Tab. -/
def ofInput (prompt : String) (streams : Streams) : LineReader CommandIndex := fun history => do
  let world ← getThe World
  let index ← getThe CommandIndex
  let events := Event.ofBytes (world.unread streams.stdin)
  let setting := { prompt, history, completer := index.completer world : Editor.Setting }
  let call := Editor.readLine {} setting {} events
  World.consume streams.stdin (events.length - call.rest.length)
  if usedTab call then set (← index.ready)
  World.say streams.stdout (shownBy call)
  World.flush streams.stdout
  return lineOf call.result

/-- The text of a line without its end: a line feed and one carriage return before it. -/
def withoutEnd (line : String) : String :=
  match line.toList.reverse with
  | '\n' :: cs => String.ofList (Text.dropReturn cs).reverse
  | _ => line

/-- Reads lines plainly from the shell's own input, after a note on the reason and after a prompt if
there is one. Characters that were rubbed out are taken away. -/
def plain (reason : String) (prompt : Option String) (streams : Streams) :
    LineReader CommandIndex := fun _ => do
  World.note .debug .lineReader reason
  prompt.forM fun text => do
    World.say streams.stdout text
    World.flush streams.stdout
  let bs := (← getThe World).unread streams.stdin
  let line := bs.take ((bs.takeWhile (· ≠ 0x0A)).length + 1)
  World.consume streams.stdin line.length
  if line = [] then return .ok none
  else match Text.decode? line with
    | some text => return .ok (some (Text.rubOut (withoutEnd text)))
    | none => return .error (Cause.notText.during .decodingLine)

end LineReader

/-- What the program is given. -/
structure Launch where
  /-- Its arguments. -/
  args : List String := []
  /-- Its environment. -/
  env : List (String × String) := []
  /-- The time of day that its log shows. -/
  time : String := "00:00:00"
  deriving DecidableEq, Repr

namespace Launch

/-- The streams that the program is given. -/
def streams : Streams := { stdin := 0, stdout := 0, stderr := 1 }

/-- The process that reads what the program writes. -/
def readerPid : Nat := 1

/-- The signal that the program takes notice of, and does nothing at. -/
def interruptSignal : Script.Signal := 2

/-- The world that the program starts in: its input is a file, and its output and its messages go to
pipes that somebody empties all the time. -/
def world (launch : Launch) (files : FileSystem) (cwd : NodeId) (input : Bytes) : World :=
  let stdin := NodeId.entry files.nodes.size
  let nodes := files.nodes.push (.regular input.toByteArray FileSystem.newMode)
  let (stdout, files) := { files with nodes }.newPipe (.unbounded [])
  let (stderr, files) := files.newPipe (.unbounded [])
  let reading (node : NodeId) : Handle := { node, reads := true, writes := false }
  let handles : List Handle := [reading stdin, { node := stdout }, { node := stderr },
    reading stdout, reading stderr]
  let process : Script.Process := { shellProcess with
    fds := [(0, { file := 0 }), (1, { file := 1 }), (2, { file := 2 })]
    traps := [(interruptSignal, ":".toList)] }
  let reader : Script.Process := { Script.Process.nobody with
    pid := readerPid, fds := [(0, { file := 3 }), (1, { file := 4 })] }
  let machine : Script.Machine := {
    files, process, others := [reader], nextPid := shellPid + 1 }
  let machine := handles.foldl (fun machine handle => (machine.opening handle).2) machine
  { machine := machine.refreshed
    cwd
    environment := launch.env
    sources := #[.inherited [] 0]
    sinks := #[.inherited 1 (some []), .inherited 2 none] }

/-- The status of a program whose settings cannot be made out. -/
def settingsStatus : Int := 2

/-- The kinds of terminal that cannot edit lines. -/
def plainTerminals : List String := ["DUMB", "CONS25", "EMACS"]

/-- The kind of the terminal is one that cannot edit lines. -/
def hasPlainTerminal (launch : Launch) : Bool :=
  (launch.env.lookup "TERM").any fun kind =>
    plainTerminals.contains (String.ofList (kind.toList.map Char.toUpper))

/-- The programs that show a terminal in which a cluster of characters takes one place. -/
def clusterTerminals : List String := ["Apple_Terminal", "iTerm.app", "WezTerm"]

/-- How the terminal is taken to place characters: by clusters, by clusters without joiners, or one by
one. -/
def placement (launch : Launch) : String :=
  match launch.env.lookup "TERM_PROGRAM" with
  | some program => if clusterTerminals.contains program then "Unicode" else "WcWidth"
  | none => if launch.env.lookup "TERM" == some "xterm-kitty" then "NoZwj" else "WcWidth"

/-- The stream that takes log records: a file, opened to append to it, or the messages. -/
def logSink (file : Option String) : Run (Except Failure Nat) := do
  match file with
  | none => return .ok streams.stderr
  | some path =>
    let world ← get
    match world.files.openFile world.cwd path true with
    | .error cause => return .error (cause.during (.openingLog path))
    | .ok (handle, files) =>
      set (world.withFiles files)
      return .ok (← World.newSink (.opened (← World.openHandle handle) true))

/-- Start the log. A log file that cannot be opened is told about, and there is no log then. -/
def startLog (launch : Launch) (settings : Settings) : Run Unit := do
  if settings.logLevel = .off then pure ()
  else match ← logSink settings.logFile with
    | .error failure => World.say streams.stderr s!"minishell: {failure.message}\n"
    | .ok sink =>
      let target := { level := settings.logLevel, sink, time := launch.time : LogTarget }
      modify fun world => { world with log := some target }
      World.note .debug .logging s!"logging at {settings.logLevel.name}"

/-- Make the reader of lines ready that the settings ask for. -/
def prepareReader (launch : Launch) (settings : Settings) : Run Unit :=
  match settings.editor with
  | .raw => pure ()
  | .lines => World.note .debug .lineReader s!"GraphemeClusterMode: {launch.placement}"

/-- The reader of lines that the settings ask for. -/
def reader (launch : Launch) (settings : Settings) : LineReader CommandIndex :=
  match settings.editor with
  | .raw => LineReader.ofInput settings.prompt streams
  | .lines =>
    if launch.hasPlainTerminal then
      LineReader.plain "unsupported terminal" (some settings.prompt) streams
    else LineReader.plain "stdin is not a tty" none streams

/-- How many lines a session may have. -/
def lineLimit : Nat := 0xFFFFFFFFFFFF

/-- Run a session with given settings. -/
def runSession (launch : Launch) (settings : Settings) : Run Int := do
  let shell := { streams, histfile := settings.histfile : Shell }
  launch.startLog settings
  launch.prepareReader settings
  shell.loadHistory
  World.note .info .program s!"starting with {settings.editor.title} editor"
  let session := shell.session (launch.reader settings) lineLimit
  let (status, _) ← session.run { builtins := shell.commands.names }
  return status

/-- Do what the arguments ask for; gives the status. -/
def work (launch : Launch) : Run Int := do
  match Settings.grammar.read launch.args with
  | .error (.help text) =>
    World.say streams.stdout (text ++ "\n")
    return 0
  | .error (.wrong e) =>
    World.say streams.stderr (e.message ++ "\nRun minishell --help for more information.\n")
    return Status.failure
  | .ok args =>
    match Settings.resolve args launch.env with
    | .error cause =>
      World.say streams.stderr s!"minishell: {cause.message}\n"
      return settingsStatus
    | .ok settings => return (← launch.runSession settings) % 256

/-- The program is over: its process ends, and processes that can write to its output or its messages
go on until they end too. -/
def leave : Run Unit := do
  let world ← get
  let outputs := [streams.stdout, streams.stderr].filterMap fun id =>
    (world.file? id).bind fun file => (world.machine.handles[file]?).map (·.node)
  if ! world.isGone then
    set { world with machine := world.machine.finish (.exited 0) }
  discard <| World.elapse fun m => ! outputs.any m.hasWriter

/-- Run the program and give its status; none if it was killed. -/
def run (launch : Launch) : Run (Option Int) := do
  let status ← launch.work
  World.flush streams.stdout
  let isGone := (← get).isGone
  leave
  return if isGone then none else some status

end Launch

end LineShell
