import LineShell.Builtin
import LineShell.Script.Evaluation

/-!
# Programs

Starting the program in a file, and running it on streams of the shell.

## The model

A `Program` is the work of a process, which tells how it ended. A `Starter` finds the program in a
file, or the cause for which there is none; the one that there is runs scripts. A program that is
started is a process beside the shell. Where a stream of the shell is no open file, the program has a
pipe instead: what it is to read is copied there while it runs (`feed`), and what it writes is taken
from there. Such copying is the work of a `Worker`, and goes on until all is copied or nobody is left at
the other end.
-/

namespace LineShell

open Script (Machine Process Thread)

/-- What a program does. -/
abbrev Program := Script.Eval Script.Ending

/-- Finds the program that a command starts, given the command's name, the path of its file and its
arguments, or the cause for which there is none. -/
abbrev Starter := World → String → String → List String → Except Cause Program

namespace Program

/-! ### Finding programs -/

/-- The program that a file stands for. -/
def ofImage (image : Script.Image) : Program :=
  Script.launch (fun mode command => Script.runner Script.runDepth mode command) image

/-- The directories in which a program without a slash in its path is searched, if the environment
names none. -/
def defaultDirectories : String := "/bin:/usr/bin"

/-- The first candidate that can be run. A candidate that is missing, or that may not be run, gives way
to the next one; `cause` is the reason that is told if none is left. -/
def firstOf (load : String → Except Cause Script.Image) :
    Cause → List String → Except Cause Script.Image
  | cause, [] => .error cause
  | cause, path :: paths =>
    match load path with
    | .error .accessDenied => firstOf load .accessDenied paths
    | .error .noEntry | .error .notDirectory => firstOf load cause paths
    | result => result

/-- Finds scripts and tools. A path without a slash is searched in the directories of the
environment. -/
def find : Starter := fun world name path args =>
  let load (path : String) : Except Cause Script.Image :=
    Script.Image.ofFile world.files world.cwd world.machine.busyNodes (Script.ofString name)
      (Script.ofString path) (args.map Script.ofString)
  if args.any Path.hasNul then .error .nulInArgument
  else if path.toList.contains '/' then (load path).map ofImage
  else
    let dirs := textPieces ':' (world.searchPath.getD defaultDirectories)
    (firstOf load .noEntry (dirs.map (Path.join · path))).map ofImage

/-! ### Processes of programs -/

/-- The whole life of a process that runs a program. -/
def life (program : Program) : Script.Eval Unit := do
  let ending ← tryCatch program fun
    | .ended ending => pure ending
    | _ => pure (.exited 0)
  modify (·.finish ending)

/-- The variables that a program finds in an environment. -/
def bindingsOf (environment : List (String × String)) : Script.Variables :=
  environment.filterMap fun (name, value) =>
    if Script.isName name.toList then
      some (name, { value := some (Script.ofString value), exported := true })
    else none

/-- How long it takes the shell to start a program. -/
def spawnTime : Nat := 300

/-- Start a program on three open files; gives the number of its process. -/
def start (program : Program) (stdin stdout stderr : Nat) : Run Nat := do
  let world ← get
  let pid := world.machine.nextPid
  let process : Process := {
    pid, root := pid, parent := shellPid, name := []
    bindings := bindingsOf world.environment
    fds := [(0, { file := stdin }), (1, { file := stdout }), (2, { file := stderr })]
    cwd := world.cwd }
  let clock := world.clock + spawnTime
  let machine := { world.machine.adding process with nextPid := pid + 1 }
  let thread : Thread := { pid, clock, task := program.life.task }
  set { world with machine, clock, tasks := world.tasks ++ [thread] }
  return pid

/-- Forget a process; gives its status, if it has ended. -/
def reap (pid : Nat) : Run (Option Int) := do
  let machine := (← get).machine
  let ended := machine.ended.filter (·.pid ≠ pid)
  modify fun world => { world with machine := { world.machine with ended } }
  return (machine.ending? pid).map fun ending => (ending.status : Int)

/-- Learn the status of a process that has ended. -/
def statusOf (pid : Nat) : Run Int := do
  return (← reap pid).getD Status.failure

/-- Wait for a process; gives its status. -/
def wait (pid : Nat) : Run Int := do
  World.await fun m => ! m.isAlive pid
  statusOf pid

/-- Send a process the signal that ends it. -/
def signalKill (pid : Nat) : Run Unit :=
  modify fun world => { world with machine := (world.machine.send pid Script.killSignal).2 }

end Program

/-! ### Workers -/

/-- Copying that goes on beside the shell. -/
inductive Worker where
  /-- Bytes are copied to an open file. What nobody has taken goes back to an input stream, if there is
  one to go back to. -/
  | feed (file : Nat) (source : Option Nat)
  /-- What is written to a pipe is collected. -/
  | collect (node : NodeId)
  deriving DecidableEq, Repr

namespace Worker

/-- How many bytes are copied at once. -/
def portion : Nat := 8192

/-- Copy what was laid up for an open file to it, in at most so many portions, and close it. -/
def copySupply (file : Nat) : Nat → Script.Eval Unit
  | 0 => close
  | bound + 1 => do
    let m ← get
    match m.supplies.lookup file with
    | none | some [] => close
    | some bs =>
      let supplies := m.supplies.map fun s => if s.1 = file then (file, bs.drop portion) else s
      set { m with supplies }
      match ← Script.writeHandle file (Script.ofBytes (bs.take portion)) with
      | .ok () => copySupply file bound
      | .error _ => close
where
  close : Script.Eval Unit := do
    Script.setDescriptors ((← Script.process).fds.filter (·.2.file ≠ file))

/-- Let bytes be copied to a new pipe. Gives the open file that they can be read from, and the
worker. -/
def startFeed (bs : Bytes) (source : Option Nat) : Run (Nat × Worker) := do
  let world ← get
  let ((reading, writing), machine) := world.machine.newPipe {}
  let machine := { machine with supplies := (writing, bs) :: machine.supplies }
  let task := (copySupply writing (bs.length + 1)).task
  let thread : Thread := { pid := shellPid, clock := world.clock, task }
  set { world with machine, tasks := world.tasks ++ [thread] }
  World.hold writing
  return (reading, .feed writing source)

/-- A worker has done its work. -/
def isDone (m : Machine) : Worker → Bool
  | .collect node => ! m.hasWriter node
  | .feed file _ => ! (m.find? shellPid).any fun p => p.fds.any (·.2.file = file)

/-- What is left of a worker that has done its work. -/
def finish : Worker → Run Unit
  | .collect _ => pure ()
  | .feed file source => do
    let world ← get
    let rest := (world.machine.supplies.lookup file).getD []
    let supplies := world.machine.supplies.filter (·.1 ≠ file)
    let world := { world with machine := { world.machine with supplies } }
    set (match source with
      | some id => world.setSource id (.memory rest)
      | none => world)

/-- Wait until a worker has done its work. -/
def join (worker : Worker) : Run Unit := do
  World.await worker.isDone
  worker.finish

end Worker

namespace World

/-- The open file that programs write to for an output stream, and the worker that takes what they
write from there, if there is need for one. -/
def outputFor (id : Nat) : Run (Nat × List Worker) := do
  let world ← get
  match world.sinks[id]? with
  | some (.inherited file _) | some (.opened file true) => return (file, [])
  | some (.memory _ (some relay)) => return (relay.file, [.collect relay.node])
  | sink =>
    let node := NodeId.pipe world.files.pipes.size
    let ((reading, file), machine) := world.machine.newPipe (.unbounded [])
    set { world with machine }
    hold reading
    match sink with
    | some (.memory written none) =>
      modify (·.setSink id (.memory written (some { node, file })))
    | _ => pure ()
    return (file, [.collect node])

/-- An open file with nothing to read. -/
def emptyInput : Run Nat := do
  let world ← get
  let (file, machine) := world.machine.opening { node := .null, reads := true, writes := false }
  set { world with machine }
  return file

/-- The open file that a program reads for an input stream, and the worker that copies memory there. -/
def inputFor (id : Nat) : Run (Nat × List Worker) := do
  let world ← get
  match world.sources[id]? with
  | some (.inherited _ file) => return (file, [])
  | some (.memory rest) =>
    set (world.setSource id (.memory []))
    let (file, worker) ← Worker.startFeed rest (some id)
    return (file, [worker])
  | none => return (← emptyInput, [])

end World

end LineShell
