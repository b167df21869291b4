import LineShell.World

/-!
# Redirections

Binding the output streams of a command to files for as long as it runs.

## The model

`Redirection.apply` opens the targets of an invocation, results first, and gives the streams that the
command is to use: a new one for each target, and the very same one where there is no target. The
`Redirection` it gives back owns the files it opened, and `release` closes them; a second release
does nothing. Where the second target cannot be opened the first one is closed again.
-/

namespace LineShell

namespace Target

/-- Make the directory that a target is to stand in. -/
def prepare (target : Target) (fs : FileSystem) (cwd : NodeId) : Except Failure Unit × FileSystem :=
  match Path.parent? target.path with
  | none | some "" => (.ok (), fs)
  | some dir =>
    match fs.makeDirectories cwd dir with
    | (.ok (), fs) => (.ok (), fs)
    | (.error cause, fs) => (.error (cause.during (.creatingDirectory dir)), fs)

/-- Open a target in the directory that was made for it. -/
def openIn (target : Target) (fs : FileSystem) (cwd : NodeId) : Except Failure Handle × FileSystem :=
  match target.prepare fs cwd with
  | (.error failure, fs) => (.error failure, fs)
  | (.ok (), fs) =>
    match fs.openFile cwd target.path target.append with
    | .error cause => (.error (cause.during (.openingTarget target.path)), fs)
    | .ok (handle, fs) => (.ok handle, fs)

end Target

/-- The files opened for one command. -/
structure Redirection where
  /-- The output streams of those files. -/
  opened : List Nat := []
  deriving DecidableEq, Repr

namespace Redirection

/-- Close the files that were opened. -/
def release (r : Redirection) : Run Redirection := do
  r.opened.forM World.close
  return {}

/-- Open a target and start an output stream for it. -/
def openTarget (target : Target) : Run (Except Failure Nat) := do
  let world ← get
  let (result, files) := target.openIn world.files world.cwd
  set (world.withFiles files)
  match result with
  | .error failure => return .error failure
  | .ok handle =>
    World.note .debug .redirect s!"redirect to {target.path} (append: {target.append})"
    return .ok (← World.newSink (.opened (← World.openHandle handle) true))

/-- The stream for a target, and what was opened for it; without a target, the stream given. -/
def bind (target : Option Target) (stream : Nat) : Run (Except Failure (Nat × List Nat)) := do
  match target with
  | none => return .ok (stream, [])
  | some target =>
    match ← openTarget target with
    | .error failure => return .error failure
    | .ok id => return .ok (id, [id])

/-- The streams with which an invocation is to run. -/
def apply (i : Invocation) (streams : Streams) : Run (Except Failure (Streams × Redirection)) := do
  match ← bind i.stdout streams.stdout with
  | .error failure => return .error failure
  | .ok (stdout, first) =>
    match ← bind i.stderr streams.stderr with
    | .error failure =>
      first.forM World.close
      return .error failure
    | .ok (stderr, second) =>
      return .ok ({ streams with stdout, stderr }, { opened := first ++ second })

end Redirection

end LineShell
