import LineShell.Script.Builtin.Place
import LineShell.Script.Child
import LineShell.Script.Tools

/-!
# Starting the script interpreter

How the script interpreter begins: its environment, its arguments, and the file that it reads.

## The model

`launch` makes the running process one that runs a program, above all the script interpreter, and lives
its life. A script in a file is read in portions, so that a script sees what is added to its file while
it runs; the reader is given more text whenever it meets the end of what it has.
-/

namespace LineShell.Script

/-! ### Files of commands -/

/-- A file from which commands are read. -/
structure Feed where
  /-- The open file; without one, standard input. -/
  source : Option Nat
  /-- What has been read of it, and where reading stands. -/
  reader : Reader := { text := [] }

/-- How many bytes are read at once. -/
def portion : Nat := 8192

/-- The next portion of a file; nothing at its end. -/
def Feed.more (feed : Feed) : Eval Chars := do
  match feed.source.or ((← process).file? 0) with
  | none => return []
  | some id =>
    awaitInput id false
    let bs := (← readable id).take portion
    advance id bs.length
    return ofBytes bs

/-- Read a line, with at most so many portions; `front` is what has been read of the line. -/
def Feed.readFrom (feed : Feed) : Nat → Reader → Eval (Line × Reader × Chars)
  | 0, reader => return (.ended, reader, [])
  | bound + 1, reader => do
    let start ← prepareReader reader
    let again (more : Chars) : Eval (Line × Reader × Chars) :=
      feed.readFrom bound { reader with text := reader.text ++ more }
    match start.readLine with
    | .error e =>
      let more ← feed.more
      if more.isEmpty then syntaxFault e else again more
    | .ok (line, after) =>
      let more ← if after.starved then feed.more else pure []
      if more.isEmpty then
        return (line, after, reader.text.take (reader.text.length - after.text.length))
      else again more

/-- Read the commands of the next line. -/
def Feed.next (feed : Feed) : Eval (Line × Feed) := do
  let (line, reader, text) ← feed.readFrom 0xFFFFFF feed.reader
  noteReading reader
  if ← hasOption 'v' then complain text
  return (line, { feed with reader })

/-- What is said at the end of input to somebody who does not leave that way. -/
def staySaying : Chars := "\nUse \"exit\" to leave shell.\n".toList

/-- Run the commands of a file, at most so many lines of it; `isTop` if it is the script itself. -/
def runFeed (run : Runner) (isTop : Bool) : Nat → Feed → Nat → Eval Nat
  | 0, _, status => return status
  | bound + 1, feed, status => do
    let (line, feed) ← feed.next
    match line with
    | .ended =>
      if isTop && (← hasOption 'I') then
        (List.replicate 50 staySaying).forM complain
      return status
    | .commands command =>
      let status := (← runLine run {} command).getD status
      match (← process).skip with
      | .none => runFeed run isTop bound feed status
      | .return _ =>
        modifyProcess fun p => { p with skip := .none }
        return status
      | _ => return status

/-- How many lines a script may have. -/
def lineLimit : Nat := 0xFFFFFFFFFFFF

/-! ### The beginning -/

/-- The variables that a program finds in its environment. -/
def environmentOf (vs : Variables) : Variables :=
  vs.filterMap fun (name, v) => v.value.bind fun _ =>
    if v.exported then some (name, { v with fixed := false }) else none

/-- The variables that every script has. -/
def standardVariables (p : Process) : List (String × Chars) :=
  [("IFS", defaultSeparators), ("OPTIND", ['1']), ("PPID", decimal p.parent)]

/-- The variables that a script has unless its environment says otherwise. -/
def usualVariables : List (String × Chars) :=
  [("PATH", "/usr/local/sbin:/usr/local/bin:/usr/sbin:/usr/bin:/sbin:/bin".toList),
    ("PS1", "$ ".toList), ("PS2", "> ".toList), ("PS4", "+ ".toList)]

/-- A process that is to run the script interpreter under a name, in place of another one. -/
def freshProcess (old : Process) (name : Chars) : Process :=
  let given := environmentOf old.bindings
  let usual := usualVariables.filter fun (name, _) => ! given.any (·.1 == name)
  let bindings := given ++ usual.map fun (name, value) => (name, { value := some value })
  let bindings := (standardVariables old).foldl (fun vs (name, value) =>
    vs.set name { vs.get name with value := some value }) bindings
  { pid := old.pid, root := old.pid, parent := old.parent, name, bindings
    fds := old.fds.filter (! ·.2.passing), cwd := old.cwd, umask := old.umask
    deaf := old.deaf ++ ((old.traps.filter (·.2.isEmpty)).map (·.1)).filter (· ≠ 0) }

/-- Find out where the script works. The environment is trusted if it leads there. -/
def findDirectory : Eval Unit := do
  let m ← get
  let trusted := (m.process.bindings.value? "PWD").filter fun path =>
    path.head? == some '/' &&
      (m.files.find m.process.cwd (shown path)).toOption == some m.process.cwd
  setDirectory trusted false

/-- Run the script that arguments ask for: the text after them, the file that comes first, or what
comes from standard input. -/
def interpret (run : Runner) (name : Chars) (args : List Chars) : Eval Unit := do
  findDirectory
  modifyProcess fun p => { p with name }
  let (rest, extra, _) ← readOptions true (args.length + 1) args {}
  discard flush
  if rest.isEmpty then
    if extra.command then fault "-c requires an argument".toList
    turn 's' true
  let fromInput := (← process).options.contains 's'
  let setup (called : Option Chars) (args : List Chars) : Eval Unit := do
    modifyProcess fun p => { p with name := called.getD p.name, args }
    if ← hasOption 'i' then turn 'm' true
    settleMonitor
  let loop (feed : Feed) : Eval Unit := discard <| runFeed run true lineLimit feed 0
  match extra.command, rest with
  | true, text :: rest =>
    setup rest.head? rest.tail
    discard <| evalText run { last := ! fromInput } text
    if fromInput then loop { source := none }
  | false, file :: rest =>
    if fromInput then
      setup none (file :: rest)
      loop { source := none }
    else
      let id ← openPath file .input
      setup (some file) rest
      loop { source := some id }
  | _, [] =>
    setup none []
    loop { source := none }

/-- How the script interpreter is called before it knows its name. -/
def namelessName : Chars := ['s', 'h']

/-- How long it takes until a program has begun. -/
def loadTime : Nat := 600

/-- The work of a tool, up to its end; tells why it stops. -/
def runTool (run : Runner) (image : Image) : Eval Stop :=
  stopOf <| match image.tool with
    | .interpret => interpret run image.name image.args
    | .concatenate => do throw (.ended (.exited (← concatenate image.name image.args)))
    | .succeed => throw (.ended (.exited 0))
    | .fail => throw (.ended (.exited 1))

/-- Let the running process run a program instead, and tell how it ended. -/
def launch (run : Runner) (image : Image) : Eval Ending := do
  modifyProcess fun p => freshProcess p namelessName
  setDescriptors (← process).fds
  Eval.pause loadTime
  match ← runTool run image with
  | .ended ending => return ending
  | stop => finishProcess run stop

end LineShell.Script
