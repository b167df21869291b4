import LineShell.Shell

/-!
# Pipelines

Running several commands, each of which reads what the one before it writes.

## The model

Stages are started from left to right. A built-in command runs on a thread of its own, and a program is a
process; both run on beside the stages after them. What travels from one stage to the next is a `Supply`;
what the started stages have in common is a `Flow`. What a built-in command has written is taken when its
thread has ended, so a stage that reads it waits for that first (`Flow.fetch`), and a built-in stage that
reads what a program writes waits until nothing more comes (`Flow.drain`). All stages are waited for in the
end (`Flow.finish`). A name that stands for nothing stops everything: programs that are still running are
killed, and threads are waited for (`Flow.abort`).

A thread has `Work` to do, step by step. Which thread goes on when is left open; `run` is the pipeline in
which every thread does its work as soon as it is started.
-/

namespace LineShell

/-! ### Threads -/

/-- What a thread has to do. -/
inductive Work where
  /-- Nothing more: the command has come to its conclusion. -/
  | ended (conclusion : Conclusion)
  /-- A step, and what follows it, which depends on the world in which the step was made. -/
  | step (act : World → World) (next : World → Work)

/-- Do all the work, while nobody else does anything. -/
def Work.run : Work → Run Conclusion
  | ended conclusion => pure conclusion
  | step act next => fun world => (next world).run (act world)

namespace Pipeline

/-! ### Stages that were started -/

/-- Where the next stage takes its input from. -/
inductive Supply where
  /-- The input of the shell. Only the first stage has it. -/
  | shellInput
  /-- Nothing to read: the stage before wrote to a file, failed, or had no command. -/
  | nothing
  /-- An open file, from which comes what the program before it writes. -/
  | piped (file : Nat)
  /-- What the built-in command of a stage writes to an output stream in memory, once it has ended. -/
  | captured (producer sink : Nat)
  /-- What the stage before has written, all of it. -/
  | taken (bs : Bytes)
  deriving DecidableEq, Repr

/-- How a stage that was started stands. -/
inductive Standing where
  /-- It has ended, with a status. -/
  | ended (status : Int)
  /-- It is a process. -/
  | running (pid : Nat)
  /-- It is a thread, which has a step to make, and something to do after it. -/
  | task (thread : Nat) (act : World → World) (next : World → Work)
  /-- It was a thread, which has done its work. -/
  | finished (conclusion : Conclusion)

/-- The status that a built-in stage leaves. -/
def statusOf : Conclusion → Run Int
  | .returned status => pure status
  | .faulted => do
    World.note .error .pipeline "built-in pipeline stage panicked"
    return Status.failure

namespace Standing

/-- A thread that has something to do, or nothing any more. -/
def ofWork (thread : Nat) : Work → Standing
  | .ended conclusion => .finished conclusion
  | .step act next => .task thread act next

/-- Wait for a stage; gives its status. Here threads do not go on, so waiting for one that has something to do has no
end. -/
def await : Standing → Run Int
  | .ended status => pure status
  | .running pid => Program.wait pid
  | .finished conclusion => statusOf conclusion
  | .task .. => do
    World.await fun _ => false
    return Status.failure

/-- A process is killed. Threads go on. -/
def stop : Standing → Run Unit
  | .running pid => Program.signalKill pid
  | .ended _ | .task .. | .finished _ => pure ()

/-- Put an end to a stage: a process is killed, and then each is waited for. -/
def quit (standing : Standing) : Run Unit := do
  standing.stop
  discard standing.await

end Standing

/-- The state of a pipeline between two stages. -/
structure Flow where
  /-- Where the next stage takes its input from. -/
  supply : Supply := .shellInput
  /-- How the stages stand that were started. -/
  stages : List Standing := []
  /-- The workers on the streams of programs. -/
  workers : List Worker := []
  /-- The redirections that are in force. -/
  redirections : List Redirection := []

namespace Flow

/-! ### From one stage to the next -/

/-- Nobody will read what the stage before writes. -/
def dropSupply (flow : Flow) : Run Unit :=
  match flow.supply with
  | .piped file => World.letGo file
  | _ => pure ()

/-- The flow after a stage that stands in some way, and what it leaves to read. -/
def next (flow : Flow) (standing : Standing) (supply : Supply) : Flow :=
  { flow with supply, stages := flow.stages ++ [standing] }

/-- The flow after a stage that has not read, and leaves nothing to read. -/
def skip (flow : Flow) (status : Int) : Run Flow := do
  flow.dropSupply
  return flow.next (.ended status) .nothing

/-- Wait for a stage, if it is a thread. -/
def settle (flow : Flow) (producer : Nat) : Run Flow :=
  match flow.stages[producer]? with
  | none | some (.ended _) | some (.running _) => return flow
  | some standing => do
    let status ← standing.await
    return { flow with stages := flow.stages.set producer (.ended status) }

/-- Take what a built-in command has written, once its thread has ended. -/
def fetch (flow : Flow) : Run Flow :=
  match flow.supply with
  | .captured producer sink => do
    let flow ← flow.settle producer
    return { flow with supply := .taken (← World.takeCollected sink) }
  | _ => return flow

/-- Read what comes through an open file as soon as it comes: a pipe is never full from now on. -/
def widen (file : Nat) : Run Unit := do
  let world ← get
  match world.machine.handles[file]? with
  | none => pure ()
  | some handle =>
    match world.machine.pipe? handle with
    | none => pure ()
    | some pipe =>
      set (world.withFiles (world.files.set handle.node (.pipe { pipe with bounded := false })))
      modify fun world => { world with machine := world.machine.stir }

/-- Nothing more comes through an open file. -/
def isDry (file : Nat) (m : Script.Machine) : Bool :=
  match m.handles[file]? with
  | none => true
  | some handle => ! m.hasWriter handle.node

/-- Take all that has come through an open file, which is closed then. -/
def empty (file : Nat) : Run Bytes := do
  match (← get).machine.handles[file]? with
  | none => return []
  | some handle =>
    let bs ← World.drainPipe handle.node
    World.letGo file
    return bs

/-- Take what a program writes, all of it. -/
def drain (flow : Flow) : Run Flow :=
  match flow.supply with
  | .piped file => do
    widen file
    World.await (isDry file)
    return { flow with supply := .taken (← empty file) }
  | _ => return flow

/-! ### The end -/

/-- Close the files of all redirections. -/
def release (flow : Flow) : Run Unit :=
  flow.redirections.forM fun r => discard r.release

/-- Close the files of all redirections, and tell the status. -/
def close (flow : Flow) (status : Int) : Run Int := do
  flow.release
  World.note .debug .pipeline s!"pipeline finished with {status}"
  return status

/-- Wait for everything and give the status of the last stage. -/
def finish (flow : Flow) : Run Int := do
  let statuses ← flow.stages.mapM Standing.await
  flow.workers.forM Worker.join
  flow.close (statuses.getLast?.getD 0)

/-- Give up: put an end to all stages. -/
def abort (flow : Flow) : Run Int := do
  flow.dropSupply
  flow.stages.forM Standing.quit
  flow.workers.forM Worker.join
  flow.release
  return Status.notFound

end Flow

/-! ### One stage -/

/-- One stage of a pipeline. -/
structure Stage where
  /-- Its place, from 0. -/
  index : Nat
  /-- Whether the next stage reads what it writes. -/
  feedsNext : Bool
  /-- Its command. -/
  name : String
  /-- The arguments of its command. -/
  args : List String
  /-- Its streams, redirections included. -/
  streams : Streams
  deriving DecidableEq, Repr

/-- What a name stands for. -/
inductive Callee where
  /-- A built-in command. -/
  | builtin (command : Builtin)
  /-- The program in a file. -/
  | program (path : String)

namespace Stage

/-- What the name of a stage stands for, if it stands for anything. -/
def find? (stage : Stage) (shell : Shell) (world : World) : Option Callee :=
  match shell.commands.get? stage.name with
  | some command => some (.builtin command)
  | none => (shell.searchPath.resolve world stage.name).map .program

/-- Tell that the name of a stage stands for nothing. -/
def miss (stage : Stage) : Run Unit := do
  World.note .debug .pipeline s!"stage {stage.index}: {stage.name} not found, aborting"
  World.say stage.streams.stderr s!"{stage.name}: command not found\n"

/-- Take what a stage is to read. A program reads by itself what another one writes. -/
def gather (callee : Callee) (flow : Flow) : Run Flow := do
  let flow ← flow.fetch
  match callee with
  | .builtin _ => flow.drain
  | .program _ => return flow

/-! ### Built-in stages -/

/-- The input of a built-in stage. What was not taken is not there. -/
def builtinInput (stage : Stage) : Supply → Run Nat
  | .shellInput => return stage.streams.stdin
  | .taken bs => World.newSource (.memory bs)
  | .nothing | .piped _ | .captured .. => World.newSource (.memory [])

/-- The output of a built-in stage: memory, if the next stage reads it. -/
def builtinOutput (stage : Stage) : Run Nat :=
  if stage.feedsNext then World.newSink (.memory [] none) else pure stage.streams.stdout

/-- The streams of a built-in stage. -/
def builtinStreams (stage : Stage) (supply : Supply) : Run Streams := do
  let stdin ← stage.builtinInput supply
  let stdout ← stage.builtinOutput
  World.note .debug .pipeline s!"stage {stage.index}: built-in {stage.name}"
  return { stage.streams with stdin, stdout }

/-- What a built-in stage leaves to read. -/
def captured (stage : Stage) (streams : Streams) : Supply :=
  if stage.feedsNext then .captured stage.index streams.stdout else .nothing

/-- Run a built-in stage. Its thread does its work at once. -/
def runBuiltin (stage : Stage) (shell : Shell) (command : Builtin) (flow : Flow) : Run Flow := do
  let streams ← stage.builtinStreams flow.supply
  let thread ← World.newThread
  let conclusion ← World.asThread thread (command stage.args (shell.context streams))
  return flow.next (.finished conclusion) (stage.captured streams)

/-! ### Program stages -/

/-- The open file that a program stage reads, and the worker that copies what it is to read there. -/
def programInput (stage : Stage) : Supply → Run (Nat × List Worker)
  | .shellInput => World.inputFor stage.streams.stdin
  | .nothing | .captured .. => return (← World.emptyInput, [])
  | .piped file => return (file, [])
  | .taken bs => do
    let (file, worker) ← Worker.startFeed bs none
    return (file, [worker])

/-- The open file that a program stage writes to, the worker that takes what it writes from there, and
what it leaves to the next stage. -/
def programOutput (stage : Stage) : Run (Nat × List Worker × Supply) := do
  if stage.feedsNext then
    let world ← get
    let ((reading, writing), machine) := world.machine.newPipe {}
    set { world with machine }
    World.hold reading
    return (writing, [], .piped reading)
  else
    let (file, workers) ← World.outputFor stage.streams.stdout
    return (file, workers, .nothing)

/-- Start a program stage. -/
def runProgram (stage : Stage) (shell : Shell) (path : String) (flow : Flow) : Run Flow := do
  Shell.flush stage.streams
  match shell.starter (← get) stage.name path stage.args with
  | .error cause =>
    World.note .warn .pipeline s!"stage {stage.index}: cannot spawn {path}: {cause.message}"
    World.say stage.streams.stderr s!"{stage.name}: {cause.message}\n"
    flow.skip Status.failure
  | .ok program =>
    let (stdin, feeding) ← stage.programInput flow.supply
    let (stdout, collecting, supply) ← stage.programOutput
    let (stderr, noticing) ← World.outputFor stage.streams.stderr
    let workers := feeding ++ collecting ++ noticing
    Shell.countWorkers workers
    let pid ← program.start stdin stdout stderr
    flow.dropSupply
    return { flow.next (.running pid) supply with workers := flow.workers ++ workers }

/-! ### Starting -/

/-- Start a stage on what was taken for it. -/
def launch (stage : Stage) (shell : Shell) (callee : Callee) (flow : Flow) : Run Flow :=
  match callee with
  | .builtin command => stage.runBuiltin shell command flow
  | .program path => stage.runProgram shell path flow

end Stage

/-- How a pipeline goes on after a stage. -/
inductive Sequel where
  /-- With the next stage. -/
  | on (flow : Flow)
  /-- Not at all: the name of the stage stands for nothing. -/
  | unknown (flow : Flow)
  /-- Not at all: the shell is gone. -/
  | gone

/-- Start a stage. A shell that is gone does nothing more. -/
def Stage.start (stage : Stage) (shell : Shell) (flow : Flow) : Run Sequel := do
  match stage.find? shell (← get) with
  | none =>
    stage.miss
    return .unknown flow
  | some callee =>
    if (← get).isGone then return .gone
    else
      let flow ← gather callee flow
      if (← get).isGone then return .gone
      else return .on (← stage.launch shell callee flow)

/-- Tell that the redirections of a stage cannot be opened. -/
def refuse (shell : Shell) (index : Nat) (failure : Failure) : Run Unit := do
  World.note .warn .pipeline s!"stage {index}: {failure.message}"
  World.say shell.streams.stderr (failure.message ++ "\n")

/-- Open the redirections of a stage; gives the stage unless it cannot be started or has no command, which is
its end then. -/
def openStage (shell : Shell) (isLast : Bool) (words : List String) (flow : Flow) : Run (Flow × Option Stage) := do
  let i := Invocation.ofWords words
  let index := flow.stages.length
  match ← Redirection.apply i shell.streams with
  | .error failure =>
    refuse shell index failure
    return (← flow.skip Status.failure, none)
  | .ok (streams, redirection) =>
    let flow := { flow with redirections := flow.redirections ++ [redirection] }
    match i.words with
    | [] => return (← flow.skip 0, none)
    | name :: args =>
      return (flow, some { index, feedsNext := ! isLast && i.stdout.isNone, name, args, streams })

/-- Open the redirections of a stage and start it. -/
def step (shell : Shell) (isLast : Bool) (words : List String) (flow : Flow) : Run Sequel := do
  match ← openStage shell isLast words flow with
  | (flow, none) => return .on flow
  | (flow, some stage) => stage.start shell flow

/-- Run the stages that are left. -/
def runFrom (shell : Shell) : List (List String) → Flow → Run Int
  | [], flow => flow.finish
  | words :: rest, flow => do
    match ← step shell rest.isEmpty words flow with
    | .on flow => runFrom shell rest flow
    | .unknown flow => flow.abort
    | .gone => return Status.failure

/-- Run the stages of a pipeline and give the status of the last one. -/
def run (shell : Shell) (stages : List (List String)) : Run Int := do
  World.note .debug .pipeline s!"pipeline of {stages.length} stages"
  runFrom shell stages {}

end Pipeline

end LineShell
