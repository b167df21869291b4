import LineShell.Script.Builtin.Bindings
import LineShell.Script.Builtin.Signals
import LineShell.Script.Redirection

/-!
# Lives of processes

How a process starts another one, what it does at its end, and how it runs a text.

## The model

Everything here is given a `Runner`, which runs one command. `evalText` runs the commands of a text,
line after line. `live` lives the life of a process: whatever makes it stop, what it has said to do at
its end is done. `fork` lets a copy of the process live beside it.
-/

namespace LineShell.Script

/-- How a command is run. -/
structure Mode where
  /-- The process has nothing to do after it. -/
  last : Bool := false
  /-- Its failure is looked at, and is no reason to stop. -/
  tested : Bool := false
  deriving DecidableEq, Repr

/-- A way to run commands; gives their status. -/
abbrev Runner := Mode → Command → Eval Nat

/-! ### Texts -/

/-- Run what a line holds; gives its status, if it has commands. -/
def runLine (run : Runner) (mode : Mode) : Option Command → Eval (Option Nat)
  | none => if mode.last then throw .leave else return none
  | some command => some <$> run mode command

/-- Take over what reading a line has changed. -/
def noteReading (reader : Reader) : Eval Unit :=
  modifyProcess fun p => { p with docs := reader.docs, readingLine := reader.line }

/-- A reader that knows what the process knows. -/
def prepareReader (reader : Reader) : Eval Reader := do
  let p ← process
  return { reader with aliases := p.aliases, docs := p.docs, starved := false }

/-- Run the commands of a text, at most so many lines of it. -/
def evalLines (run : Runner) (mode : Mode) : Nat → Reader → Nat → Eval Nat
  | 0, _, status => return status
  | bound + 1, reader, status => do
    match (← prepareReader reader).readLine with
    | .error e => syntaxFault e
    | .ok (.ended, reader) =>
      noteReading reader
      return status
    | .ok (.commands command, reader) =>
      noteReading reader
      let atEnd := reader.held && reader.last == .eof
      let status := (← runLine run { mode with last := mode.last && atEnd } command).getD status
      if (← process).skip == .none then evalLines run mode bound reader status else return status

/-- Run the commands of a text. -/
def evalText (run : Runner) (mode : Mode) (text : Chars) : Eval Nat :=
  evalLines run mode (text.length + 1) { text } 0

/-! ### Traps -/

/-- Some signal makes the process do something. -/
def hasTraps (p : Process) : Bool := p.traps.any fun (_, action) => ! action.isEmpty

/-- Do what is done at the signals that have come, lowest first; `status` is what commands had. -/
def runTrapsFrom (run : Runner) (status : Nat) : Nat → Eval Unit
  | 0 => pure ()
  | bound + 1 => do
    let p ← process
    match p.arrived.min? with
    | none => pure ()
    | some signal =>
      if p.skip ≠ .none then pure ()
      else
        modifyProcess fun p => { p with arrived := p.arrived.filter (· ≠ signal) }
        match p.trap? signal with
        | none => pure ()
        | some action =>
          discard <| evalText run {} action
          if (← process).skip ≠ .return true then setStatus status
        runTrapsFrom run status bound

/-- Do what is done at the signals that have come. -/
def runTraps (run : Runner) : Eval Unit := do
  let p ← process
  let status := p.savedStatus.getD p.status
  modifyProcess fun p => { p with savedStatus := some status }
  runTrapsFrom run status signalCount
  modifyProcess fun q => { q with savedStatus := p.savedStatus }

/-! ### The end of a process -/

/-- Settle what a process was in the middle of when it stopped. -/
def settle (stop : Stop) : Eval Unit :=
  modifyProcess fun p =>
    let status := match p.savedStatus with
      | some saved => if stop == .exit || p.skip == .return false then saved else p.status
      | none => p.status
    { p with status, savedStatus := none, skip := .none, loops := 0, tracing := false }

/-- Why a process stopped, if it did not come to its end. -/
def stopOf (body : Eval Unit) : Eval Stop :=
  tryCatch (do
    body
    return .leave) pure

/-- Do what is done at the end of a process. -/
def finishProcess (run : Runner) (stop : Stop) : Eval Ending := do
  settle stop
  let p ← process
  modifyProcess fun p => { p with savedStatus := some p.status }
  let stop ← match p.trap? 0 with
    | none => pure Stop.exit
    | some action => do
      setTrap 0 none
      tryCatch (do
        discard <| evalText run {} action
        return Stop.exit) pure
  match stop with
  | .ended ending => return ending
  | stop =>
    settle stop
    return .exited ((← process).status % 256)

/-- How long it takes a process to end. -/
def endTime : Nat := 40

/-- The life of a process whose body is given. -/
def live (run : Runner) (body : Eval Unit) : Eval Unit := do
  let ending ← match ← stopOf body with
    | .ended ending => pure ending
    | stop => finishProcess run stop
  Eval.pause endTime
  modify (·.finish ending)

/-! ### Copies of a process -/

/-- How long it takes to start a process. -/
def forkTime : Nat := 60

/-- A copy of a process, which has no traps and no jobs of its own. -/
def Process.forked (p : Process) (pid : Nat) : Process :=
  { p with
    pid, parent := p.pid, traps := p.traps.filter (·.2.isEmpty), arrived := [], jobs := []
    skip := .none, unsaid := [], kept := [] }

/-- A number for a new process. -/
def newPid : Eval Nat := modifyGet fun m => (m.nextPid, { m with nextPid := m.nextPid + 1 })

/-- The first place from a number on that no job has, or one whose end was asked for, which is
forgotten; so many are tried. -/
def freePlace (jobs : List Job) : Nat → Nat → Nat × List Job
  | 0, number => (number, jobs)
  | bound + 1, number =>
    match jobs.find? (·.number = number) with
    | none => (number, jobs)
    | some job =>
      if job.waited && job.ending.isSome then (number, jobs.filter (·.number ≠ number))
      else freePlace jobs bound (number + 1)

/-- Make place for a job; gives its number. -/
def makePlace : Eval Nat := do
  let jobs := (← process).jobs
  let (number, jobs) := freePlace jobs (jobs.length + 1) 1
  modifyProcess fun p => { p with jobs }
  return number

/-- Let a copy of the process do something, after it was changed in some way; gives its number. -/
def fork (run : Runner) (change : Process → Process) (body : Eval Unit) : Eval Nat := do
  let pid ← newPid
  let child := change ((← process).forked pid)
  Eval.start child (live run body)
  Eval.pause forkTime
  return pid

/-- The process with another open file behind a descriptor. -/
def Process.bound (p : Process) (fd : Nat) (file : Nat) : Process :=
  { p with fds := (fd, { file }) :: p.fds.filter (·.1 ≠ fd) }

/-- The process without a descriptor. -/
def Process.without (p : Process) (fd : Nat) : Process :=
  { p with fds := p.fds.filter (·.1 ≠ fd) }

/-! ### Waiting -/

/-- Tell by which signal a process was killed, unless everybody knows. -/
def announce (ending : Ending) : Eval Unit := do
  match ending with
  | .exited _ => pure ()
  | .killed signal =>
    if signal = 2 || signal = pipeSignal then pure ()
    else complain ((signalTitle signal).toList ++ ['\n'])

/-- The first of the processes that the running one has started and that have ended, which is
forgotten. -/
def reap : Eval (Option Ended) := do
  let m ← get
  match m.ended.find? (·.parent = m.process.pid) with
  | none => return none
  | some e =>
    set { m with ended := m.ended.filter (·.pid ≠ e.pid) }
    endJob e.pid e.ending
    return some e

/-- A process has started one that has ended. -/
def hasEnded (pid : Nat) (m : Machine) : Bool := m.ended.any (·.parent = pid)

/-- Take notice of all processes that have ended, at most so many. Of some it is told if they were
killed, and it is given how they ended, after those that were given before. -/
def reapAll (told : List Nat) : Nat → List (Nat × Ending) → Eval (List (Nat × Ending))
  | 0, done => return done
  | bound + 1, done => do
    match ← reap with
    | none => return done
    | some e =>
      if told.contains e.pid then
        announce e.ending
        reapAll told bound ((e.pid, e.ending) :: done)
      else reapAll told bound done

/-- Wait until all of some processes have ended, waiting at most so many times, and tell which were
killed. Gives how they ended. -/
def awaitAll (pids : List Nat) : Nat → List (Nat × Ending) → Eval (List (Nat × Ending))
  | 0, done => return done
  | bound + 1, done => do
    let pid := (← process).pid
    Eval.awaiting (hasEnded pid)
    let done ← reapAll pids patience done
    if pids.all fun pid => done.any (·.1 = pid) then return done else awaitAll pids bound done

/-- Wait for a process; gives its status. -/
def awaitOne (pid : Nat) : Eval Nat := do
  let done ← awaitAll [pid] patience []
  return ((done.lookup pid).map Ending.status).getD 0

/-- Let a copy of the process do something and wait for it; gives its status. -/
def waitFor (run : Runner) (body : Eval Unit) : Eval Nat := do
  discard makePlace
  awaitOne (← fork run id body)

/-! ### Output of commands -/

/-- A new pipe: the numbers of the open files at its two ends. -/
def newPipe : Eval (Nat × Nat) := modifyGet fun m => m.newPipe {}

/-- What a command writes, in a copy of the process. -/
def outputOf (run : Runner) : Option Command → Eval Chars
  | none => return []
  | some command => do
    let (reading, writing) ← newPipe
    let held ← hold reading
    discard makePlace
    let pid ← fork run (fun p => (p.without held).bound 1 writing) do
      discard <| run { last := true } command
    let bs ← readAll reading
    bind held none
    let status ← awaitOne pid
    modifyProcess fun p => { p with outputStatus := status }
    return ofBytes bs

end LineShell.Script
