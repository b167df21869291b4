import LineShell.Script.Machine

/-!
# Tasks

The work of a process, cut into steps so that many processes can take turns.

## The model

A `Task` is what is left to do: given the machine, it goes on for a while, and the `Progress` that it
makes is the machine as it leaves it and the task that is left. It stops to let time pass, to wait for
something, or to start another process. An `Eval` is a piece of work with a result. It is given what is
to be done with its result, and what is to be done if the process stops, and is a task then.
-/

namespace LineShell.Script

/-- How far a task has come. -/
inductive Progress where
  /-- Nothing is left to do. -/
  | finished (m : Machine)
  /-- Some time has passed. -/
  | paused (m : Machine) (time : Nat) (rest : Machine → Progress)
  /-- The task can go on when something holds. -/
  | waiting (m : Machine) (ready : Machine → Bool) (rest : Machine → Progress)
  /-- A process was started, which has a task of its own. -/
  | forked (m : Machine) (pid : Nat) (child rest : Machine → Progress)

/-- What is left to do. -/
abbrev Task := Machine → Progress

/-- Why a process stops. -/
inductive Stop where
  /-- It met a fault. -/
  | fault
  /-- It has nothing more to do. -/
  | leave
  /-- It was told to exit. -/
  | exit
  /-- It ended without doing anything more. -/
  | ended (ending : Ending)
  deriving DecidableEq, Repr

/-- Work of a process. -/
def Eval (α : Type) : Type := (α → Task) → (Stop → Task) → Task

namespace Eval

@[always_inline]
instance : Monad Eval where
  pure a := fun next _ => next a
  bind work f := fun next stop => work (fun a => f a next stop) stop

@[always_inline]
instance : MonadStateOf Machine Eval where
  get := fun next _ m => next m m
  set m := fun next _ _ => next () m
  modifyGet f := fun next _ m => match f m with
    | (a, m) => next a m

@[always_inline]
instance : MonadExceptOf Stop Eval where
  throw s := fun _ stop => stop s
  tryCatch work handle := fun next stop => work next fun s => handle s next stop

/-- The task that work is, if nothing is to be done after it. -/
def task (work : Eval Unit) : Task := work (fun _ m => .finished m) (fun _ m => .finished m)

/-- Let time pass. -/
@[inline] def pause (time : Nat) : Eval Unit := fun next _ m => .paused m time (next ())

/-- Wait until something holds. -/
@[inline] def awaiting (ready : Machine → Bool) : Eval Unit := fun next _ m =>
  if ready m then next () m else .waiting m ready (next ())

/-- Start a process that has work to do. -/
@[inline] def start (child : Process) (work : Eval Unit) : Eval Unit := fun next _ m =>
  .forked (m.adding child) child.pid work.task (next ())

end Eval

/-- The running process. -/
@[inline] def process : Eval Process := return (← get).process

/-- Change the running process. -/
@[inline] def modifyProcess (f : Process → Process) : Eval Unit := modify fun
  | { files, handles, process, others, ended, nextPid, changes, supplies } =>
    { files, handles, process := f process, others, ended, nextPid, changes, supplies }

/-- Set the status of the last command. -/
@[inline] def setStatus (status : Nat) : Eval Unit := modifyProcess fun p => { p with status }

/-- Whether the option of that letter is on. -/
@[inline] def hasOption (letter : Char) : Eval Bool := return (← process).options.contains letter

end LineShell.Script
