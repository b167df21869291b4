import LineShell.History
import LineShell.Invocation
import LineShell.Log
import LineShell.Script.Schedule

/-!
# The world

Everything that running a command can change: files and processes, the working directory, the streams
that commands read and write, the history, the request to leave the shell, and the log.

## The model

The shell is a process among others on a machine. A stream is a number; the world knows what stands
behind it. Two contexts share a stream when they hold the same number, whatever happens to it. A `Sink`
takes output: it collects bytes in memory, or stands for an open file that the shell itself was given,
or writes to one that it has opened until it is closed. A `Source` gives input, from memory or from an
open file that the shell was given. What programs write for a sink in memory goes through a pipe that
is emptied all the time. Operations are state transformers over `World`.
-/

namespace LineShell

open Script (Machine Process Thread Schedule)

/-- The pipe through which programs write for a sink. -/
structure Relay where
  /-- The pipe. -/
  node : NodeId
  /-- The open file that programs write to. -/
  file : Nat
  deriving DecidableEq, Repr

/-- Where output goes. -/
inductive Sink where
  /-- Memory of the shell: the bytes written so far, and the way for programs to it, once there is
  one. -/
  | memory (written : Bytes) (relay : Option Relay)
  /-- An open file that the shell was given and hands on to programs. What is in the `buffer`, if there
  is one, has not been written yet. -/
  | inherited (file : Nat) (buffer : Option Bytes)
  /-- A file that the shell has opened, open or not any more. -/
  | opened (file : Nat) (isOpen : Bool)
  deriving DecidableEq, Repr

/-- The open file behind a sink, which programs can write to by themselves. -/
def Sink.file? : Sink → Option Nat
  | .inherited file _ | .opened file true => some file
  | .memory .. | .opened _ false => none

/-- Where input comes from. -/
inductive Source where
  /-- Memory of the shell: the bytes not read yet. -/
  | memory (rest : Bytes)
  /-- An open file that the shell was given and hands on to programs, and the bytes that the shell has
  fetched from it and not used yet, which programs do not see. -/
  | inherited (fetched : Bytes) (file : Nat)
  deriving DecidableEq, Repr

/-- How many bytes the shell fetches at once from a file that it was given. -/
def fetchSize : Nat := 8192

/-- The three streams of a command. -/
structure Streams where
  /-- Where it reads. -/
  stdin : Nat
  /-- Where its results go. -/
  stdout : Nat
  /-- Where its messages go. -/
  stderr : Nat
  deriving DecidableEq, Repr

/-- Where log records go. -/
structure LogTarget where
  /-- How much is logged. -/
  level : Level
  /-- The sink that takes the records. -/
  sink : Nat
  /-- The time of day in each record. -/
  time : String
  deriving DecidableEq, Repr

/-- The number of the shell's process. -/
def shellPid : Nat := 1000

/-- The process of the shell, which ignores that nobody reads what it writes. -/
def shellProcess : Process :=
  { pid := shellPid, root := shellPid, parent := 1, name := [], deaf := [Script.pipeSignal] }

/-- Everything that running a command can change. -/
structure World where
  /-- Files and processes. -/
  machine : Machine := { process := shellProcess, nextPid := shellPid + 1 }
  /-- What is to be done by other processes. -/
  tasks : List Thread := []
  /-- How far the world is in time. -/
  clock : Nat := 0
  /-- The working directory. -/
  cwd : NodeId := FileSystem.root
  /-- The variables that programs find in their environment. -/
  environment : List (String × String) := []
  /-- The input streams. -/
  sources : Array Source := #[]
  /-- The output streams. -/
  sinks : Array Sink := #[]
  /-- The lines that were entered. -/
  history : History := {}
  /-- The status with which the shell was asked to leave. -/
  exitRequest : Option Int := none
  /-- Where log records go, if anywhere. -/
  log : Option LogTarget := none
  /-- How many threads were started. -/
  threads : Nat := mainThread
  /-- The thread that is running. -/
  thread : Nat := mainThread
  /-- The shell has waited for something that never came. -/
  stalled : Bool := false

/-- An operation on the world. -/
abbrev Run := StateM World

namespace World

/-! ### Files and processes -/

/-- The files. -/
def files (world : World) : FileSystem := world.machine.files

/-- The world with other files. -/
def withFiles (world : World) (files : FileSystem) : World :=
  { world with machine := { world.machine with files } }

/-- The shell is alive no more. -/
def isGone (world : World) : Bool := ! world.machine.isAlive shellPid

/-- Change the process of the shell. -/
def modifyShell (f : Process → Process) : Run Unit :=
  modify fun world => { world with machine := world.machine.update shellPid f }

/-- The shell has one more open file. -/
def hold (file : Nat) : Run Unit :=
  modifyShell fun p => { p with fds := (p.spareDescriptor, { file }) :: p.fds }

/-- The shell has an open file no longer. -/
def letGo (file : Nat) : Run Unit := do
  modifyShell fun p => { p with fds := p.fds.filter (·.2.file ≠ file) }
  modify fun world => { world with machine := world.machine.stir }

/-- Open a file for the shell; gives its number. -/
def openHandle (handle : Handle) : Run Nat := do
  let world ← get
  let (file, machine) := world.machine.opening handle
  set { world with machine }
  hold file
  return file

/-- Let processes go on until something holds, or until a time, if one is set; tells whether it came to hold. -/
def elapse (holds : Machine → Bool) (limit : Option Nat := none) : Run Bool :=
  modifyGet fun world =>
    let start : Schedule := { machine := world.machine, threads := world.tasks, now := world.clock }
    let final := start.run holds limit
    let later := { world with
      machine := final.machine
      tasks := final.threads
      clock := max world.clock final.now }
    (holds final.machine, later)

/-- Wait until something holds, or the shell is gone. If nobody can go on before, the shell waits for ever. -/
def await (holds : Machine → Bool) : Run Unit := do
  let came ← elapse fun m => holds m || ! m.isAlive shellPid
  modify fun world => { world with stalled := world.stalled || ! came }

/-- How long the shell takes for other things between two commands. -/
def idleTime : Nat := 2000

/-- Let some time pass. -/
def idle : Run Unit := do
  discard <| elapse (fun _ => false) (some ((← get).clock + idleTime))
  modify fun world => { world with clock := world.clock + idleTime }

/-! ### The environment -/

/-- The home directory, if one is set. -/
def home (world : World) : Option String := world.environment.lookup "HOME"

/-- The list of directories with programs, if one is set. -/
def searchPath (world : World) : Option String := world.environment.lookup "PATH"

/-- The world with another value for a variable of the environment, or without the variable. -/
def withVariable (world : World) (name : String) (value : Option String) : World :=
  let others := world.environment.filter (·.1 ≠ name)
  { world with environment := (value.toList.map (name, ·)) ++ others }

/-! ### Output -/

/-- Start a new output stream. -/
def newSink (sink : Sink) : Run Nat := do
  let world ← get
  set { world with sinks := world.sinks.push sink }
  return world.sinks.size

/-- Put something else behind an output stream. -/
def setSink (world : World) (id : Nat) (sink : Sink) : World :=
  { world with sinks := world.sinks.setIfInBounds id sink }

/-- Write to an open file. -/
def writeFile (file : Nat) (bs : Bytes) : Run (Except Cause Unit) := do
  let world ← get
  match world.machine.handles[file]? with
  | none => return .error .badDescriptor
  | some handle =>
    match world.files.write handle bs with
    | .error cause => return .error cause
    | .ok (handle, files) =>
      set { world with machine := { world.machine with files }.setHandle file handle }
      return .ok ()

/-- The bytes in a pipe, which is emptied. -/
def drainPipe (node : NodeId) : Run Bytes := do
  let world ← get
  match world.files.node? node with
  | some (.pipe pipe) =>
    set (world.withFiles (world.files.set node (.pipe { pipe with front := [], back := [], pages := [] })))
    return pipe.bytes
  | _ => return []

/-- What programs have written for a sink and has not been taken over. -/
def relayed (world : World) : Option Relay → Bytes
  | none => []
  | some relay =>
    match world.files.node? relay.node with
    | some (.pipe pipe) => pipe.bytes
    | _ => []

/-- Take over what programs have written for a sink; gives it. -/
def takeRelayed : Option Relay → Run Bytes
  | none => return []
  | some relay => drainPipe relay.node

/-- How many bytes a buffer takes. -/
def bufferSize : Nat := 1024

/-- What is written, and what stays in the buffer, when bytes without an end of line come to it. Bytes
that end with one are written first, and so are all if the new ones have no room; what fills a whole
buffer is not kept. -/
def buffered (buffer bs : Bytes) : Bytes × Bytes :=
  let (out, buffer) := if buffer.getLast? = some 0x0A then (buffer, []) else ([], buffer)
  let (out, buffer) :=
    if bufferSize < buffer.length + bs.length then (out ++ buffer, []) else (out, buffer)
  if bufferSize ≤ bs.length then (out ++ bs, buffer) else (out, buffer ++ bs)

/-- What is written, and what stays in the buffer, when bytes come to it. They are written up to their
last end of line. -/
def lineBuffered (buffer bs : Bytes) : Bytes × Bytes :=
  let tail := (bs.reverse.takeWhile (· ≠ 0x0A)).reverse
  if tail.length = bs.length then buffered buffer bs
  else
    let lines := bs.take (bs.length - tail.length)
    if bufferSize ≤ tail.length then (buffer ++ lines ++ tail, []) else (buffer ++ lines, tail)

/-- Write to an output stream. A file that was closed refuses everything but nothing. -/
def write (id : Nat) (bs : Bytes) : Run (Except Cause Unit) := do
  let world ← get
  if world.isGone then return .ok ()
  else match world.sinks[id]? with
    | some (.memory written relay) =>
      let before ← takeRelayed relay
      modify (·.setSink id (.memory (written ++ before ++ bs) relay))
      return .ok ()
    | some (.inherited file none) => writeFile file bs
    | some (.inherited file (some buffer)) =>
      let (out, buffer) := lineBuffered buffer bs
      modify (·.setSink id (.inherited file (some buffer)))
      writeFile file out
    | some (.opened file true) => writeFile file bs
    | some (.opened _ false) | none => return if bs = [] then .ok () else .error .targetClosed

/-- Write what is in the buffer of an output stream. -/
def flush (id : Nat) : Run Unit := do
  let world ← get
  match world.sinks[id]? with
  | some (.inherited file (some buffer)) =>
    if world.isGone then pure ()
    else
      modify (·.setSink id (.inherited file (some [])))
      discard <| writeFile file buffer
  | _ => pure ()

/-- Offer bytes to an output stream once; tells how many it took. -/
def writeOnce (id : Nat) (bs : Bytes) : Run (Except Cause Nat) := do
  match (← get).sinks[id]? with
  | some (.opened _ false) | none => return .error .targetClosed
  | _ => return (← write id bs).map fun _ => bs.length

/-- Write a text to an output stream. -/
def print (id : Nat) (text : String) : Run (Except Cause Unit) := write id (Text.encode text)

/-- Write a text to an output stream, and let it go if that fails. -/
def say (id : Nat) (text : String) : Run Unit := discard <| print id text

/-- Close the file behind an output stream; other streams stay open. -/
def close (id : Nat) : Run Unit := do
  match (← get).sinks[id]? with
  | some (.opened file true) =>
    modify (·.setSink id (.opened file false))
    letGo file
  | _ => pure ()

/-- The open file behind an output stream. -/
def file? (world : World) (id : Nat) : Option Nat := (world.sinks[id]?).bind Sink.file?

/-- Whether programs can write to an output stream by themselves. -/
def hasHandle (world : World) (id : Nat) : Bool := (world.file? id).isSome

/-- What has been collected behind an output stream: in memory, or in a file that the shell was given. -/
def collected (world : World) (id : Nat) : Bytes :=
  match world.sinks[id]? with
  | some (.memory written relay) => written ++ world.relayed relay
  | some (.inherited file _) =>
    match world.machine.handles[file]? with
    | some handle => (world.files.remaining { handle with offset := 0 }).toOption.getD []
    | none => []
  | _ => []

/-- Take what has been collected in memory behind an output stream. -/
def takeCollected (id : Nat) : Run Bytes := do
  match (← get).sinks[id]? with
  | some (.memory written relay) =>
    let more ← takeRelayed relay
    modify (·.setSink id (.memory [] relay))
    return written ++ more
  | _ => return []

/-! ### Input -/

/-- Start a new input stream. -/
def newSource (source : Source) : Run Nat := do
  let world ← get
  set { world with sources := world.sources.push source }
  return world.sources.size

/-- What is left of an open file. -/
def remaining (world : World) (file : Nat) : Bytes :=
  match world.machine.handles[file]? with
  | some handle => (world.files.remaining handle).toOption.getD []
  | none => []

/-- All bytes that the shell can still read from an input stream. -/
def unread (world : World) (id : Nat) : Bytes :=
  match world.sources[id]? with
  | none => []
  | some (.memory rest) => rest
  | some (.inherited fetched file) => fetched ++ world.remaining file

/-- Put something else behind an input stream. -/
def setSource (world : World) (id : Nat) (source : Source) : World :=
  { world with sources := world.sources.setIfInBounds id source }

/-- Use up bytes of an open file. -/
def advance (file n : Nat) : Run Unit :=
  modify fun world =>
    match world.machine.handles[file]? with
    | none => world
    | some handle =>
      let (handle, files) := world.files.advance handle n
      { world with machine := { world.machine with files }.setHandle file handle }

/-- Use up bytes of an input stream. The shell fetches whole portions of a file, and only when it has
run out. -/
def consume (id : Nat) (n : Nat) : Run Unit := do
  let world ← get
  match world.sources[id]? with
  | none => pure ()
  | some (.memory rest) => set (world.setSource id (.memory (rest.drop n)))
  | some (.inherited fetched file) =>
    let more := n - fetched.length
    if more = 0 then set (world.setSource id (.inherited (fetched.drop n) file))
    else
      let portions := (more + fetchSize - 1) / fetchSize * fetchSize
      let got := (world.remaining file).take portions
      set (world.setSource id (.inherited (got.drop more) file))
      advance file got.length

/-- Read at most so many bytes. -/
def readSome (id : Nat) (n : Nat) : Run Bytes := do
  let bs := (← get).unread id
  consume id n
  return bs.take n

/-- Read everything that is left. -/
def readRest (id : Nat) : Run Bytes := do
  let bs := (← get).unread id
  consume id bs.length
  return bs

/-! ### The log -/

/-- Make a note. -/
def note (level : Level) (origin : Origin) (text : String) : Run Unit := do
  let world ← get
  match world.log with
  | none => pure ()
  | some target =>
    if level.rank ≤ target.level.rank then
      say target.sink ({ level, origin, thread := world.thread, text : LogRecord }.line target.time)

/-! ### Threads -/

/-- Start a thread; tells its number. -/
def newThread : Run Nat := do
  modify fun world => { world with threads := world.threads + 1 }
  return (← get).threads

/-- Run an operation on a thread. -/
def asThread (id : Nat) (op : Run α) : Run α := do
  let caller := (← get).thread
  modify fun world => { world with thread := id }
  let result ← op
  modify fun world => { world with thread := caller }
  return result

end World

end LineShell
