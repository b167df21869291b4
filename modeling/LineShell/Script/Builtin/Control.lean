import LineShell.Script.Builtin.Find
import LineShell.Script.Builtin.Text
import LineShell.Script.Start

/-!
# Control

The built-in commands of a script that run other commands, wait for them, or change which command runs
next; and the table of all built-in commands.
-/

namespace LineShell.Script

/-! ### Leaving loops, functions and the script -/

/-- Leave loops, or start their next round. -/
def leaveLoops (skip : Skip) : Action := fun args => do
  let n ← match args with
    | [] => pure 1
    | arg :: _ => do
      let n ← countOf arg
      if n = 0 then badNumber arg else pure n
  let n := min n (← process).loops
  if 0 < n then modifyProcess fun p => { p with skip, skipCount := n }
  return 0

/-- Leave a function or a file. -/
def returnCommand : Action := fun args => do
  match args with
  | [] =>
    modifyProcess fun p => { p with skip := .return false }
    return (← process).status
  | arg :: _ =>
    let status ← countOf arg
    modifyProcess fun p => { p with skip := .return true }
    return status

/-- Leave the script. -/
def exitCommand : Action := fun args => do
  match args with
  | [] => throw .exit
  | arg :: _ =>
    let status ← countOf arg
    modifyProcess fun p => { p with savedStatus := some status }
    throw .exit

/-! ### Running other things -/

/-- Run arguments as commands. -/
def evalCommand (run : Runner) (mode : Mode) : Action := fun args =>
  if args.isEmpty then return 0
  else evalText run { tested := mode.tested } ([' '].intercalate args)

/-- The path of a file of commands. -/
def commandFile (name : Chars) : Eval Chars := do
  if name.contains '/' then return name
  else
    let m ← get
    let isFile (path : Chars) : Bool := match m.files.stat m.process.cwd (shown path) with
      | .ok (.regular ..) => true
      | _ => false
    match (candidates (← searchList) name).find? isFile with
    | some path => return path
    | none => fault (name ++ ": not found".toList)

/-- Run the commands of a file. -/
def dotCommand (run : Runner) : Action := fun args => do
  match ← withoutOptions args with
  | [] => return 0
  | name :: _ =>
    let path ← commandFile name
    let id ← openPath path .input
    modifyProcess fun p => { p with command := some path }
    runFeed run false lineLimit { source := some id } 0

/-- The file that holds the script interpreter, for files that name no interpreter. -/
def plainInterpreter : Chars := FileSystem.interpreterPath.toList

/-- The image of a file. A file that names no interpreter is a script. -/
def imageOf (m : Machine) (called path : Chars) (args : List Chars) : Except Cause Image :=
  match Image.ofFile m.files m.process.cwd m.busyNodes called path args with
  | .error .execFormat =>
    .ok { tool := .interpret, name := plainInterpreter, args := path :: args }
  | result => result

/-- The image for a command: of the path it names, or of the first path that can be run. -/
def imageFor (m : Machine) (list name : Chars) (args : List Chars) : Except Cause Image :=
  if name.contains '/' then imageOf m name name args
  else (candidates list name).foldr (fun path next cause =>
    match imageOf m name path args with
    | .ok image => .ok image
    | .error .noEntry | .error .notDirectory => next cause
    | .error cause => next cause) (fun cause => .error cause) .noEntry

/-- The status of a command that could not be run. -/
def failureStatus : Cause → Nat
  | .linkLoop | .nameTooLong | .noEntry | .notDirectory => 127
  | _ => 126

/-- Let the running process run a program instead, and tell how it ended. -/
def execute (run : Runner) (list : Chars) : List Chars → Eval Ending
  | [] => return .exited 0
  | name :: args => do
    match imageFor (← get) list name args with
    | .ok image => launch run image
    | .error cause =>
      warn (notRun name cause)
      discard flush
      setStatus (failureStatus cause)
      throw .leave

/-- Run a program in place of the script. -/
def execCommand (run : Runner) : Action := fun args => do
  if args.isEmpty then return 0
  else throw (.ended (← execute run (← searchList) args))

/-! ### Jobs -/

/-- What became of waiting for a job. -/
inductive Waited where
  /-- It has ended. -/
  | ended (ending : Ending)
  /-- There is no such job. -/
  | unknown
  /-- A signal came first. -/
  | interrupted (signal : Signal)
  deriving DecidableEq, Repr

/-- Wait until a process has ended, or until a signal comes that the script does something at. Gives the
signal if no process has ended, and otherwise takes notice of all that have; it is told which of some
were killed. -/
def awaitAlert (told : List Nat) : Eval (Option Signal) := do
  let pid := (← process).pid
  Eval.awaiting fun m => hasEnded pid m || (m.find? pid).any (! ·.arrived.isEmpty)
  let ended := hasEnded pid (← get)
  let arrived := (← process).arrived
  discard <| reapAll told patience []
  return if ended then none else arrived.min?

/-- Wait for a job, at most so many times, and tell by which signal its processes were killed if it is
`named`. -/
def waitForJob (named : Bool) (pid : Nat) : Nat → Eval Waited
  | 0 => return .unknown
  | bound + 1 => do
    match (← process).jobs.find? (·.pid = pid) with
    | none => return .unknown
    | some job =>
      match job.ending with
      | some ending =>
        modifyProcess fun p => { p with jobs := p.jobs.map fun job =>
          if job.pid = pid then { job with waited := true } else job }
        return .ended ending
      | none =>
        match ← awaitAlert (if named then job.members.map (·.1) else []) with
        | some signal => return .interrupted signal
        | none => waitForJob named pid bound

/-- The status that waiting for a job gives. -/
def Waited.status : Waited → Nat
  | .ended ending => ending.status
  | .unknown => 127
  | .interrupted signal => 128 + signal

/-- Wait for all jobs; gives what came of the last wait. -/
def waitForAll : List Nat → Eval Nat
  | [] => return 0
  | pid :: pids => do
    match ← waitForJob false pid patience with
    | .interrupted signal => return 128 + signal
    | _ => waitForAll pids

/-- Wait for jobs that are named; gives the status of the last one. -/
def waitForNamed : List Chars → Nat → Eval Nat
  | [], status => return status
  | name :: names, _ => do
    let pid ← match name with
      | '%' :: _ => pure (← jobOf name).pid
      | _ => countOf name
    match ← waitForJob true pid patience with
    | .interrupted signal => return 128 + signal
    | waited => waitForNamed names waited.status

/-- Wait for jobs. -/
def waitCommand : Action := fun args => do
  match ← withoutOptions args with
  | [] => waitForAll ((← process).jobs.map (·.pid))
  | names => waitForNamed names 0

/-- A text with blanks up to a width, and one at least. -/
def padded (width : Nat) (cs : Chars) : Chars := cs ++ List.replicate (max 1 (width - cs.length)) ' '

/-- How a job stands. -/
def Job.state (job : Job) : Chars :=
  match job.ending with
  | none => "Running".toList
  | some (.exited 0) => "Done".toList
  | some (.exited n) => "Done(".toList ++ decimal n ++ [')']
  | some (.killed signal) => (signalTitle signal).toList

/-- How a job is shown. -/
inductive JobView where
  /-- In a line. -/
  | brief
  /-- With the numbers of all its processes. -/
  | long
  /-- By the number of its first process. -/
  | number
  deriving DecidableEq, Repr

/-- The lines that show a job; `mark` tells whether it is the current one or the one before. -/
def Job.shown (job : Job) (view : JobView) (mark : Char) : Chars :=
  let pids := job.members.map (·.1)
  let front := '[' :: decimal job.number ++ "] ".toList ++ [mark, ' ']
  match view with
  | .number => decimal (pids.headD 0) ++ ['\n']
  | .brief => padded 33 (front ++ job.state) ++ (pids.tail.flatMap fun _ => " | ".toList) ++ ['\n']
  | .long =>
    padded 33 (front ++ decimal (pids.headD 0) ++ ' ' :: job.state) ++
      (pids.tail.flatMap fun (pid : Nat) =>
        let line := List.replicate front.length ' ' ++ decimal pid ++ [' ']
        " |\n".toList ++ padded 33 line) ++ ['\n']

/-- Show a job. One that has ended is forgotten then, unless only its number was asked for. -/
def showJob (view : JobView) (job : Job) : Eval Unit := do
  let jobs := (← process).jobs
  let mark := if (jobs.head?.map (·.number)) == some job.number then '+'
    else if (jobs.tail.head?.map (·.number)) == some job.number then '-' else ' '
  say (job.shown view mark)
  if view ≠ .number && job.ending.isSome then
    modifyProcess fun p => { p with jobs := p.jobs.filter (·.number ≠ job.number) }

/-- Show jobs. -/
def jobsCommand : Action := fun args => do
  let (options, names) ← takeOptions ['l', 'p'] [] args
  let view : JobView := match options.getLast? with
    | none => .brief
    | some ('l', _) => .long
    | some _ => .number
  if names.isEmpty then
    discard <| reapAll [] patience []
    (← process).jobs.forM (showJob view)
  else names.forM fun name => do showJob view (← jobOf name)
  return 0

/-- Bring a job to the front, which needs job control. -/
def foreground : Action := fun args => do
  let name := (← withoutOptions args).headD []
  discard <| jobOf name
  fault ("job ".toList ++ name ++ " not created under job control".toList)

/-! ### The table -/

/-- A built-in command. -/
structure Builtin where
  /-- It is special: its faults end the script, and assignments before it stay. -/
  special : Bool := false
  /-- Its arguments can be assignments. -/
  assigns : Bool := false
  /-- What it does. -/
  action : Runner → Mode → Action

namespace Builtin

/-- A command that needs nobody to run commands. -/
def plain (action : Action) : Builtin := { action := fun _ _ => action }

/-- A special command. -/
def ofSpecial (action : Action) : Builtin := { special := true, action := fun _ _ => action }

/-- Show how much time was used. -/
def times : Action := fun _ => do
  sayLine "0m0.000000s 0m0.000000s".toList
  sayLine "0m0.000000s 0m0.000000s".toList
  return 0

/-- Show a limit; there are none. -/
def ulimit : Action := fun _ => do
  sayLine "unlimited".toList
  return 0

/-- The built-in command of a name. -/
def find? (name : Chars) : Option Builtin :=
  match String.ofList name with
  | "." => some { special := true, action := fun run _ => dotCommand run }
  | ":" => some (ofSpecial fun _ => return 0)
  | "[" => some (plain (testCommand true))
  | "alias" => some { assigns := true, action := fun _ _ => aliasCommand }
  | "bg" => some (plain foreground)
  | "break" => some (ofSpecial (leaveLoops .break))
  | "cd" => some (plain cdCommand)
  | "chdir" => some (plain cdCommand)
  | "command" => some (plain commandCommand)
  | "continue" => some (ofSpecial (leaveLoops .continue))
  | "echo" => some (plain echoCommand)
  | "eval" => some { special := true, action := evalCommand }
  | "exec" => some { special := true, action := fun run _ => execCommand run }
  | "exit" => some (ofSpecial exitCommand)
  | "export" => some { special := true, assigns := true, action := fun _ _ => exportVariables }
  | "false" => some (plain fun _ => return 1)
  | "fg" => some (plain foreground)
  | "getopts" => some (plain getopts)
  | "hash" => some (plain hashCommand)
  | "jobs" => some (plain jobsCommand)
  | "kill" => some (plain killCommand)
  | "local" => some { special := true, assigns := true, action := fun _ _ => localVariables }
  | "printf" => some (plain printfCommand)
  | "pwd" => some (plain pwdCommand)
  | "read" => some (plain readInput)
  | "readonly" => some { special := true, assigns := true, action := fun _ _ => fixVariables }
  | "return" => some (ofSpecial returnCommand)
  | "set" => some (ofSpecial setCommand)
  | "shift" => some (ofSpecial shift)
  | "test" => some (plain (testCommand false))
  | "times" => some (ofSpecial times)
  | "trap" => some (ofSpecial trapCommand)
  | "true" => some (plain fun _ => return 0)
  | "type" => some (plain typeCommand)
  | "ulimit" => some (plain ulimit)
  | "umask" => some (plain umaskCommand)
  | "unalias" => some (plain unalias)
  | "unset" => some (ofSpecial unset)
  | "wait" => some (plain waitCommand)
  | _ => none

end Builtin

end LineShell.Script
