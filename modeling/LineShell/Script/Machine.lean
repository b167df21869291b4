import LineShell.Script.Process
import Std.Data.TreeMap

/-!
# The machine

What all processes share.

## The model

The `Machine` holds the files, the open files, and the processes that are alive: one that is running,
and the others. A process that ends gives up its descriptors; how it ended is kept until the process
that started it asks. What a pipe is good for is found from the descriptors of the processes that are
alive: nothing more will come from a pipe that nobody can write to, and a write to a pipe that nobody
can read is met with a signal. `changes` counts what a process may have been waiting for.
-/

namespace LineShell.Script

/-- A process that has ended and that nobody has asked about. -/
structure Ended where
  /-- Its number. -/
  pid : Nat
  /-- The number of the process that started it. -/
  parent : Nat
  /-- How it ended. -/
  ending : Ending
  deriving DecidableEq, Repr

/-- Everything that processes share. -/
structure Machine where
  /-- The files. -/
  files : FileSystem := {}
  /-- The open files, by their numbers. -/
  handles : Std.TreeMap Nat Handle := {}
  /-- The process that is running. -/
  process : Process := .nobody
  /-- The other processes that are alive. -/
  others : List Process := []
  /-- The processes that have ended and that nobody has asked about, first one first. -/
  ended : List Ended := []
  /-- The number of the next process. -/
  nextPid : Nat := 2
  /-- How often something has changed that a process may wait for. -/
  changes : Nat := 0
  /-- What is to be copied to open files, by their numbers. -/
  supplies : List (Nat × Bytes) := []

namespace Machine

/-! ### Processes -/

/-- The processes that are alive. -/
def living (m : Machine) : List Process := m.process :: m.others

/-- The process of a number is alive. -/
def isAlive (m : Machine) (pid : Nat) : Bool := m.living.any (·.pid = pid)

/-- The process of a number that is alive. -/
def find? (m : Machine) (pid : Nat) : Option Process := m.living.find? (·.pid = pid)

/-- How a process has ended that nobody has asked about. -/
def ending? (m : Machine) (pid : Nat) : Option Ending :=
  (m.ended.find? (·.pid = pid)).map (·.ending)

/-- Change the process of a number. -/
def update (m : Machine) (pid : Nat) (f : Process → Process) : Machine :=
  if m.process.pid = pid then { m with process := f m.process }
  else { m with others := m.others.map fun p => if p.pid = pid then f p else p }

/-- Something has changed that a process may wait for. -/
def stir (m : Machine) : Machine := { m with changes := m.changes + 1 }

/-- The files that descriptors stand for. -/
def ownNodes (m : Machine) (fds : List (Nat × Descriptor)) : List (Nat × NodeId) :=
  fds.filterMap fun (fd, d) => (m.handles[d.file]?).map fun h => (fd, h.node)

/-- Let the paths that lead to descriptors lead to those of the running process. -/
def refreshed (m : Machine) : Machine :=
  { m with files := { m.files with own := ownNodes m m.process.fds } }

/-- Make the process of a number the running one. -/
def enter (m : Machine) (pid : Nat) : Machine :=
  if m.process.pid = pid then m
  else
    let others := if m.process.pid = 0 then m.others else m.process :: m.others
    match others.find? (·.pid = pid) with
    | none => m
    | some process => { m with process, others := others.filter (·.pid ≠ pid) }.refreshed

/-- The machine with one more process. -/
def adding (m : Machine) (p : Process) : Machine := { m with others := m.others ++ [p] }

/-! ### Open files -/

/-- The machine with one more open file, and its number. -/
def opening (m : Machine) (h : Handle) : Nat × Machine :=
  (m.handles.size, { m with handles := m.handles.insert m.handles.size h })

/-- The machine with an open file changed. -/
def setHandle (m : Machine) (id : Nat) (h : Handle) : Machine :=
  { m with handles := m.handles.insert id h }

/-- Some process has the file open in a certain way. -/
def hasHolder (m : Machine) (node : NodeId) (how : Handle → Bool) : Bool :=
  m.living.any fun p => p.fds.any fun (_, d) =>
    match m.handles[d.file]? with
    | some h => h.node = node && how h
    | none => false

/-- Somebody can read from the file. -/
def hasReader (m : Machine) (node : NodeId) : Bool := m.hasHolder node (·.reads)

/-- Somebody can write to the file. -/
def hasWriter (m : Machine) (node : NodeId) : Bool := m.hasHolder node (·.writes)

/-- The files that processes can write to. -/
def busyNodes (m : Machine) : List NodeId :=
  m.living.flatMap fun p => p.fds.filterMap fun (_, d) =>
    (m.handles[d.file]?).bind fun h => if h.writes then some h.node else none

/-- The pipe behind an open file, if there is one. -/
def pipe? (m : Machine) (h : Handle) : Option Pipe :=
  match m.files.node? h.node with
  | some (.pipe pipe) => some pipe
  | _ => none

/-- A new pipe: the numbers of the open files at its two ends, the one to read first. -/
def newPipe (m : Machine) (pipe : Pipe) : (Nat × Nat) × Machine :=
  let (node, files) := m.files.newPipe pipe
  let (reading, m) := { m with files }.opening { node, reads := true, writes := false }
  let (writing, m) := m.opening { node, reads := false, writes := true }
  ((reading, writing), m)

/-- A read would not have to wait: there is something, or nothing more will come. -/
def canRead (m : Machine) (id : Nat) : Bool :=
  match m.handles[id]? with
  | none => true
  | some h =>
    match m.pipe? h with
    | none => true
    | some pipe => ! pipe.isEmpty || ! m.hasWriter h.node

/-- A write would not have to wait: there is room, or nobody reads. -/
def canWrite (m : Machine) (id : Nat) : Bool :=
  match m.handles[id]? with
  | none => true
  | some h =>
    match m.pipe? h with
    | none => true
    | some pipe => ! pipe.isFull || ! m.hasReader h.node

/-! ### Ends and signals -/

/-- What is known of a process that has ended. Nobody asks about one whose starter is gone. -/
def buried (m : Machine) (p : Process) (ending : Ending) : Machine :=
  let m := { m with ended := m.ended.filter (·.parent ≠ p.pid) }
  match m.find? p.parent with
  | none => m.stir
  | some parent =>
    let news : Ended := { pid := p.pid, parent := p.parent, ending }
    let m := { m with ended := m.ended ++ [news] }
    (match parent.reception childSignal with
      | .noted => m.update p.parent (·.noting childSignal)
      | _ => m).stir

/-- The running process ends. -/
def finish (m : Machine) (ending : Ending) : Machine :=
  { m with process := .nobody }.buried m.process ending

/-- A process that is not running ends. -/
def fell (m : Machine) (p : Process) (ending : Ending) : Machine :=
  let others := m.others.filter (·.pid ≠ p.pid)
  { m with others }.buried p ending

/-- Send a signal to a process that is not running; tells whether there is one of that number. -/
def send (m : Machine) (pid : Nat) (signal : Signal) : Bool × Machine :=
  match m.others.find? (·.pid = pid) with
  | none => (m.ended.any (·.pid = pid), m)
  | some p =>
    match p.reception signal with
    | .ignored => (true, m)
    | .noted => (true, (m.update pid (·.noting signal)).stir)
    | .fatal => (true, m.fell p (.killed signal))

end Machine

end LineShell.Script
