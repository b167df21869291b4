import LineShell.Script.Image
import LineShell.Script.Redirection

/-!
# Tools

What the programs do that the machine runs by itself, apart from the one that runs scripts.
-/

namespace LineShell.Script

/-- Tell on standard error that a tool could not use a file. -/
def toolComplaint (name path : Chars) (cause : Cause) : Eval Unit :=
  complain (name ++ ": ".toList ++ path ++ ": ".toList ++ (causeText cause).toList ++ ['\n'])

/-- Copy what comes from an open file to standard output, waiting at most so many times. -/
def copyAll (id : Nat) : Nat → Eval Unit
  | 0 => pure ()
  | bound + 1 => do
    awaitInput id false
    let bs ← readable id
    if bs.isEmpty then pure ()
    else
      advance id bs.length
      match ← writeTo 1 (ofBytes bs) with
      | .ok () => copyAll id bound
      | .error _ => pure ()

/-- Copy a file to standard output; tells the status. -/
def concatenateOne (name path : Chars) : Eval Nat := do
  let m ← get
  if path == ['-'] then
    match m.process.file? 0 with
    | some id =>
      copyAll id patience
      return 0
    | none =>
      toolComplaint name path .badDescriptor
      return 1
  else match m.files.openWith m.process.cwd (shown path) .input with
    | .error cause =>
      toolComplaint name path cause
      return 1
    | .ok (handle, files) =>
      set { m with files }
      match files.available handle with
      | .error cause =>
        toolComplaint name path cause
        return 1
      | .ok _ =>
        let fd ← hold (← newHandle handle)
        match (← process).file? fd with
        | some id => copyAll id patience
        | none => pure ()
        bind fd none
        return 0

/-- Copy files to standard output, or standard input if none is named; tells the status. -/
def concatenate (name : Chars) (args : List Chars) : Eval Nat := do
  let paths := if args.isEmpty then [['-']] else args
  let statuses ← paths.mapM (concatenateOne name)
  return statuses.foldl max 0

end LineShell.Script
