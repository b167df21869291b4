import LineShell.Script.Task

/-!
# Descriptors and messages

How a process reads and writes, and how it tells what went wrong.

## The model

A write to a full pipe and a read from an empty one wait: for room or bytes, or until nobody is left at
the other end. What descriptors stood for can be kept under descriptors that a script cannot name, and
brought back later.
-/

namespace LineShell.Script

/-! ### Descriptors -/

/-- The open file behind a descriptor. -/
@[inline] def handle? (fd : Nat) : Eval (Option (Nat × Handle)) := do
  let m ← get
  return do
    let id ← m.process.file? fd
    return (id, ← m.handles[id]?)

/-- Change an open file. -/
@[inline] def setHandle (id : Nat) (h : Handle) : Eval Unit :=
  modify (·.setHandle id h)

/-- One more open file. -/
@[inline] def newHandle (h : Handle) : Eval Nat := modifyGet fun m => m.opening h

/-- Change the descriptors of the running process. -/
@[inline] def setDescriptors (fds : List (Nat × Descriptor)) : Eval Unit :=
  modify fun m => { m with process := { m.process with fds } }.refreshed.stir

/-- Bind a descriptor to an open file, or to nothing. -/
@[inline] def bind (fd : Nat) (id : Option Nat) : Eval Unit := do
  let others := (← process).fds.filter (·.1 ≠ fd)
  setDescriptors (match id with
    | some file => (fd, { file }) :: others
    | none => others)

/-- Hold an open file under a descriptor that a script cannot name. -/
def hold (file : Nat) : Eval Nat := do
  let p ← process
  let fd := p.spareDescriptor
  setDescriptors ((fd, { file, passing := true }) :: p.fds)
  return fd

/-- Start to keep what descriptors stand for. -/
@[inline] def openKeeping : Eval Unit := modifyProcess fun p => { p with kept := [] :: p.kept }

/-- Keep what a descriptor stands for, unless it is kept already. The descriptor stands for nothing
then. -/
def keep (fd : Nat) : Eval Unit := do
  let p ← process
  match p.kept with
  | [] => pure ()
  | inner :: outer =>
    if inner.any (·.1 = fd) then pure ()
    else
      let kept ← match p.file? fd with
        | none => pure Kept.nothing
        | some file => do
          let spare ← hold file
          bind fd none
          pure (.under spare)
      modifyProcess fun p => { p with kept := ((fd, kept) :: inner) :: outer }

/-- Bring back what a descriptor stood for. -/
def bringBack : Nat × Kept → Eval Unit
  | (fd, .nothing) => bind fd none
  | (fd, .under spare) => do
    bind fd ((← process).file? spare)
    bind spare none

/-- Give up what a descriptor stood for. -/
def giveUp : Nat × Kept → Eval Unit
  | (_, .nothing) => pure ()
  | (_, .under spare) => bind spare none

/-- Stop keeping what descriptors stood for, down to a depth: bring all back, or give it up. -/
def closeKeeping (depth : Nat) (settle : Nat × Kept → Eval Unit) : Eval Unit := do
  let kept := (← process).kept
  (kept.take (kept.length - depth)).forM fun inner => inner.forM settle
  modifyProcess fun p => { p with kept := kept.drop (kept.length - depth) }

/-! ### Writing -/

/-- Nobody reads the pipe that was written to. -/
def meetBrokenPipe : Eval Cause := do
  match (← process).reception pipeSignal with
  | .fatal => throw (.ended (.killed pipeSignal))
  | .noted => modifyProcess (·.noting pipeSignal)
  | .ignored => pure ()
  return .brokenPipe

/-- How often a process may wait for one thing. -/
def patience : Nat := 0xFFFFFFFFFFFF

/-- Write to an open file, waiting at most so many times; `starting` if nothing has been written. -/
def writePortions (id : Nat) : Nat → Bool → Bytes → Eval (Except Cause Unit)
  | 0, _, _ => return .ok ()
  | bound + 1, starting, bs => do
    let m ← get
    match m.handles[id]? with
    | none => return .error .badDescriptor
    | some h =>
      match m.pipe? h with
      | none =>
        match m.files.write h bs with
        | .error cause => return .error cause
        | .ok (h, files) =>
          set { m with files }
          setHandle id h
          return .ok ()
      | some pipe =>
        if ! m.hasReader h.node then return .error (← meetBrokenPipe)
        else
          let (n, pipe) := pipe.push starting bs
          set { m with files := m.files.set h.node (.pipe pipe) }.stir
          if bs.length ≤ n then return .ok ()
          else
            Eval.awaiting (·.canWrite id)
            writePortions id bound false (bs.drop n)

/-- Write to an open file. -/
def writeHandle (id : Nat) (cs : Chars) : Eval (Except Cause Unit) := do
  match (← get).handles[id]? with
  | none => return .error .badDescriptor
  | some h =>
    if h.writes then
      let bs := toBytes cs
      writePortions id (patience + bs.length) true bs
    else return .error .badDescriptor

/-- Write to a descriptor. -/
def writeTo (fd : Nat) (cs : Chars) : Eval (Except Cause Unit) := do
  if cs.isEmpty then return .ok ()
  else match (← process).file? fd with
    | none => return .error .badDescriptor
    | some id => writeHandle id cs

/-! ### Reading -/

/-- Wait until there is something to read from an open file, or nothing more will come. A process that
is `alert` waits no longer when a signal comes. -/
def awaitInput (id : Nat) (alert : Bool) : Eval Unit := do
  let pid := (← process).pid
  Eval.awaiting fun m =>
    m.canRead id || (alert && (m.find? pid).any (! ·.arrived.isEmpty))

/-- What there is to read from an open file now; nothing if it may not be read. -/
def readable (id : Nat) : Eval Bytes := do
  let m ← get
  match m.handles[id]? with
  | none => return []
  | some h => return if h.reads then (m.files.available h).toOption.getD [] else []

/-- Use up bytes of an open file. -/
def advance (id : Nat) (n : Nat) : Eval Unit := do
  let m ← get
  match m.handles[id]? with
  | none => pure ()
  | some h =>
    let (h, files) := m.files.advance h n
    set ({ m with files }.setHandle id h).stir

/-- Everything that comes from an open file, waiting at most so many times. -/
def readRest (id : Nat) : Nat → List Bytes → Eval Bytes
  | 0, done => return done.reverse.flatten
  | bound + 1, done => do
    awaitInput id false
    let bs ← readable id
    if bs.isEmpty then return done.reverse.flatten
    else
      advance id bs.length
      readRest id bound (bs :: done)

/-- Everything that comes from an open file. -/
def readAll (id : Nat) : Eval Bytes := readRest id patience []

/-! ### Messages -/

/-- Write a message, and let it go if that fails. -/
def complain (cs : Chars) : Eval Unit := discard <| writeTo 2 cs

/-- A message as the script tells it: its name, the line, the command, and the message. -/
def messageLine (p : Process) (line : Nat) (text : Chars) : Chars :=
  p.name ++ ": ".toList ++ decimal line ++ ": ".toList ++
    (match p.command with
      | some command => command ++ ": ".toList
      | none => []) ++ text ++ ['\n']

/-- Tell a message. -/
def warn (text : Chars) : Eval Unit := do
  let p ← process
  complain (messageLine p p.line text)

/-- Have something to say on standard output, before long. -/
@[inline] def say (cs : Chars) : Eval Unit := modifyProcess fun p => { p with unsaid := cs :: p.unsaid }

/-- Write what there is to say, and tell whether that worked. -/
def flush : Eval Bool := do
  let p ← process
  modifyProcess fun p => { p with unsaid := [] }
  return (← writeTo 1 p.unsaid.reverse.flatten).isOk

/-- Tell a message and stop with status 2. -/
def fault (text : Chars) : Eval α := do
  warn text
  discard flush
  setStatus 2
  throw .fault

/-- Tell what is wrong with the text of a script and stop. -/
def syntaxFault (e : SyntaxError) : Eval α := do
  modifyProcess fun p => { p with line := e.line }
  fault ("Syntax error: ".toList ++ e.fault.message.toList)

/-- The words for a cause, without its number. -/
def causeText (cause : Cause) : String :=
  ((cause.message.splitOn " (os error").head?).getD ""

/-- What was tried when a cause was found. -/
inductive Attempt where
  /-- Opening a file. -/
  | opening
  /-- Making a file. -/
  | creating
  /-- Running a file. -/
  | running
  deriving DecidableEq, Repr

/-- A cause as a script tells it. -/
def attemptText (cause : Cause) (attempt : Attempt) : String :=
  match cause, attempt with
  | .noEntry, .opening | .notDirectory, .opening => "No such file"
  | .noEntry, .creating | .notDirectory, .creating => "Directory nonexistent"
  | .noEntry, .running | .notDirectory, .running => "not found"
  | cause, _ => causeText cause

end LineShell.Script
