import LineShell.Files.Skeleton
import LineShell.Script.Parser
import LineShell.Script.Signal

/-!
# Processes

The state of a running script.

## The model

A `Process` holds what a script changes for itself: its variables, arguments, functions, options,
descriptors and working directory. A copy of it is how a new process starts.
-/

namespace LineShell.Script

/-! ### Variables -/

/-- A variable. -/
structure Variable where
  /-- Its value, if it has one. -/
  value : Option Chars := none
  /-- Programs find it in their environment. -/
  exported : Bool := false
  /-- It cannot be changed. -/
  fixed : Bool := false
  deriving DecidableEq, Repr

/-- Variables by name. -/
abbrev Variables := List (String × Variable)

namespace Variables

/-- The variable of that name. -/
def get (vs : Variables) (name : String) : Variable := (vs.lookup name).getD {}

/-- The value of a variable. -/
def value? (vs : Variables) (name : String) : Option Chars := (vs.get name).value

/-- The variables with another one of that name. -/
def set (vs : Variables) (name : String) (v : Variable) : Variables :=
  match vs with
  | [] => [(name, v)]
  | (other, old) :: rest =>
    if name = other then (name, v) :: rest else (other, old) :: set rest name v

/-- The variables without one. -/
def erase (vs : Variables) (name : String) : Variables := vs.filter (·.1 ≠ name)

/-- The variables in the order of their names. -/
def sorted (vs : Variables) : Variables := vs.mergeSort fun a b => a.1 ≤ b.1

end Variables

/-! ### Processes -/

/-- How a process ended. -/
inductive Ending where
  /-- With a status. -/
  | exited (status : Nat)
  /-- By a signal. -/
  | killed (signal : Signal)
  deriving DecidableEq, Repr

/-- The status that tells how a process ended. -/
def Ending.status : Ending → Nat
  | .exited status => status
  | .killed signal => 128 + signal

/-- Which commands are passed over. -/
inductive Skip where
  /-- None. -/
  | none
  /-- Up to the end of a loop. -/
  | break
  /-- Up to the next round of a loop. -/
  | continue
  /-- Up to the end of a function or a file, with a status or without one of its own. -/
  | return (own : Bool)
  deriving DecidableEq, Repr

/-- A function. -/
structure Function where
  /-- The line where it is defined. -/
  line : Nat
  /-- What it does. -/
  body : Command

/-- What a local variable stands in for. -/
inductive Hidden where
  /-- The variable of that name, or none. -/
  | binding (name : String) (was : Option Variable)
  /-- The options. -/
  | options (were : List Char)
  deriving DecidableEq, Repr

/-- A command that runs beside the script. -/
structure Job where
  /-- Its place among the jobs. -/
  number : Nat
  /-- Its processes, one for each stage, and how they ended, if they have. -/
  members : List (Nat × Option Ending)
  /-- Its end has been asked for. -/
  waited : Bool := false
  deriving DecidableEq, Repr

namespace Job

/-- The process of the last stage, by which the job is known. -/
def pid (job : Job) : Nat := ((job.members.getLast?).map (·.1)).getD 0

/-- How the job ended: as its last stage did, once all have ended. -/
def ending (job : Job) : Option Ending :=
  if job.members.all (·.2.isSome) then (job.members.getLast?).bind (·.2) else none

/-- The job after one of its processes has ended. -/
def note (job : Job) (pid : Nat) (ending : Ending) : Job :=
  { job with members := job.members.map fun m => if m.1 = pid then (pid, some ending) else m }

end Job

/-- What a descriptor stands for. -/
structure Descriptor where
  /-- The open file. -/
  file : Nat
  /-- It is closed when another program takes the place of the script. -/
  passing : Bool := false
  deriving DecidableEq, Repr

/-- What became of a descriptor that was bound to something else for a while. -/
inductive Kept where
  /-- It stood for nothing. -/
  | nothing
  /-- What it stood for is kept under another descriptor. -/
  | under (fd : Nat)
  deriving DecidableEq, Repr

/-- A program that was found before. -/
structure Tracked where
  /-- The name that it was searched under. -/
  name : String
  /-- Its path. -/
  path : Chars
  /-- The working directory has changed since. -/
  stale : Bool := false
  deriving DecidableEq, Repr

/-- A process that runs a script. -/
structure Process where
  /-- Its number. -/
  pid : Nat
  /-- The number of the script's first process. -/
  root : Nat
  /-- The number of the process that started it. -/
  parent : Nat
  /-- The name of the script. -/
  name : Chars
  /-- The arguments. -/
  args : List Chars := []
  /-- The variables. -/
  bindings : Variables := []
  /-- What local variables stand in for, innermost function first. -/
  hidden : List (List Hidden) := []
  /-- The functions. -/
  functions : List (String × Function) := []
  /-- The aliases. -/
  aliases : List (String × Chars) := []
  /-- The letters of the options that are on. -/
  options : List Char := []
  /-- What is done at signals; number 0 is the end of the script, and nothing means to ignore. -/
  traps : List (Signal × Chars) := []
  /-- The signals that were ignored from the start, and always are. -/
  deaf : List Signal := []
  /-- The signals that have come and not been dealt with. -/
  arrived : List Signal := []
  /-- The status of the last command. -/
  status : Nat := 0
  /-- The status that an ending script had. -/
  savedStatus : Option Nat := none
  /-- The status of the last command whose output was used. -/
  outputStatus : Nat := 0
  /-- The descriptors. -/
  fds : List (Nat × Descriptor) := []
  /-- The descriptors that are bound to something else for a while, innermost command first. -/
  kept : List (List (Nat × Kept)) := []
  /-- The working directory. -/
  cwd : NodeId := FileSystem.root
  /-- The path of the working directory, if it is known. -/
  directory : Option Chars := none
  /-- Permissions that new files do not get. -/
  umask : Nat := 0o022
  /-- The line of the command that is running. -/
  line : Nat := 0
  /-- The line where reading stands. -/
  readingLine : Nat := 0
  /-- The built-in command that is running. -/
  command : Option Chars := none
  /-- How many functions are running. -/
  calls : Nat := 0
  /-- How many loops are running in this function. -/
  loops : Nat := 0
  /-- The commands that are passed over. -/
  skip : Skip := .none
  /-- How many loops end. -/
  skipCount : Nat := 0
  /-- The process that was started last beside the script. -/
  lastJob : Option Nat := none
  /-- The commands that run beside the script, last one first. -/
  jobs : List Job := []
  /-- The letter of an option argument that is to be read next, if it is not the first. -/
  optionLetter : Option Nat := none
  /-- The argument that options are read from next. -/
  optionIndex : Nat := 1
  /-- The here-documents. -/
  docs : Array Word := #[]
  /-- The programs that were found before, by name. -/
  tracked : List Tracked := []
  /-- What a built-in command has to say, last part first, until it is written. -/
  unsaid : List Chars := []
  /-- The command that is being told, so that it is not told again. -/
  tracing : Bool := false

namespace Process

/-- Nobody: what stands in the place of a process that has ended. -/
def nobody : Process := { pid := 0, root := 0, parent := 0, name := [] }

/-- What the process does at a signal: something, nothing, or what all processes do. -/
def trap? (p : Process) (signal : Signal) : Option Chars := p.traps.lookup signal

/-- The signal does nothing to the process. -/
def ignores (p : Process) (signal : Signal) : Bool :=
  p.deaf.contains signal || p.trap? signal == some []

/-- What comes of a signal. -/
inductive Reception where
  /-- Nothing. -/
  | ignored
  /-- The process will do what it has said. -/
  | noted
  /-- The process ends. -/
  | fatal
  deriving DecidableEq, Repr

/-- What comes of a signal to the process. -/
def reception (p : Process) (signal : Signal) : Reception :=
  if signal = killSignal then .fatal
  else if signal = 0 || p.ignores signal then .ignored
  else if (p.trap? signal).isSome then .noted
  else if harmless.contains signal || stopping.contains signal then .ignored
  else .fatal

/-- The process after a signal has come that it has something to do at. -/
def noting (p : Process) (signal : Signal) : Process :=
  if p.arrived.contains signal then p else { p with arrived := p.arrived ++ [signal] }

/-- The lowest descriptor from a number on that stands for nothing; so many are tried. -/
def freeFrom (p : Process) : Nat → Nat → Nat
  | 0, fd => fd
  | bound + 1, fd => if p.fds.any (·.1 = fd) then p.freeFrom bound (fd + 1) else fd

/-- The first of the descriptors that a script cannot name. -/
def firstHidden : Nat := 10

/-- A descriptor that a script cannot name and that stands for nothing. -/
def spareDescriptor (p : Process) : Nat := p.freeFrom p.fds.length firstHidden

/-- The open file behind a descriptor. -/
def file? (p : Process) (fd : Nat) : Option Nat := (p.fds.lookup fd).map (·.file)

end Process

end LineShell.Script
