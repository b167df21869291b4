import LineShell.Script.Builtin.Options
import LineShell.Script.Image

/-!
# Finding commands

What runs for a name: a built-in command, a function, or a program in one of the directories that the
script searches; and the built-in commands that tell so.
-/

namespace LineShell.Script

/-- The names of the built-in commands that are not special. -/
def regularNames : List String :=
  ["[", "alias", "bg", "cd", "chdir", "command", "echo", "false", "fg", "getopts", "hash", "jobs",
    "kill", "printf", "pwd", "read", "test", "true", "type", "ulimit", "umask", "unalias", "wait"]

/-- The directories that are searched where a script asks for the usual ones. -/
def usualPath : Chars := "/usr/local/sbin:/usr/local/bin:/usr/sbin:/usr/bin:/sbin:/bin".toList

/-- The directories that the script searches. -/
def searchList : Eval Chars := return ((← process).bindings.value? "PATH").getD []

/-- The paths under which a program can stand. -/
def candidates (list name : Chars) : List Chars :=
  (pieces (· == ':') list).map fun dir => if dir.isEmpty then name else dir ++ '/' :: name

/-- The program that runs for a name without a slash, or why there is none. -/
def findProgram (list name : Chars) : Eval (Except Cause Chars) := do
  let m ← get
  return (candidates list name).foldr (fun path next cause =>
    match m.files.stat m.process.cwd (shown path) with
    | .ok (.regular data mode) =>
      if (Node.regular data mode).permits Node.searchBit then .ok path else next .accessDenied
    | .ok _ => next .accessDenied
    | .error .noEntry | .error .notDirectory => next cause
    | .error cause => next cause) (fun cause => .error cause) .noEntry

/-- Remember where a program was found. -/
def track (name path : Chars) : Eval Unit :=
  modifyProcess fun p =>
    let name := String.ofList name
    let entry : Tracked := { name, path }
    { p with tracked :=
        if p.tracked.any (·.name == name) then
          p.tracked.map fun t => if t.name == name then entry else t
        else p.tracked ++ [entry] }

/-- Where a remembered program stands when all are shown. -/
def trackedSlot (name : String) : Nat :=
  let cs := ofString name
  ((((cs.head?.map Char.toNat).getD 0) * 16 + cs.foldr (·.toNat + ·) 0) % 0x8000) % 31

/-- The program that runs for a name, which is remembered. -/
def findTracked (name : Chars) : Eval (Except Cause Chars) := do
  match ← findProgram (← searchList) name with
  | .ok path =>
    track name path
    return .ok path
  | .error cause => return .error cause

/-- A cause for which no program runs, as a script tells it. -/
def notRun (name : Chars) (cause : Cause) : Chars :=
  name ++ ": ".toList ++ (attemptText cause .running).toList

/-- Show or forget the programs that are remembered, or find more. -/
def hashCommand : Action := fun args => do
  let (options, names) ← takeOptions ['r'] [] args
  if ! options.isEmpty then
    modifyProcess fun p => { p with tracked := [] }
    return 0
  else if names.isEmpty then
    let tracked := (← process).tracked
    (List.range 31).forM fun slot =>
      (tracked.filter (trackedSlot ·.name == slot)).forM fun t =>
        sayLine (t.path ++ if t.stale then ['*'] else [])
    return 0
  else
    let results ← names.mapM fun name => do
      let key := String.ofList name
      let known := regularNames.contains key || specialNames.contains key ||
        ((← process).functions.lookup key).isSome || name.contains '/'
      if known then return 0
      else match ← findTracked name with
        | .ok _ => return 0
        | .error cause =>
          warn (notRun name cause)
          return 1
    return results.foldl max 0

/-! ### Describing commands -/

/-- Tell what runs for a name, in a sentence or in a word. `list` are the directories to search, if not
those of the script. -/
def describe (name : Chars) (list : Option Chars) (verbose : Bool) : Eval Nat := do
  let p ← process
  let key := String.ofList name
  let tell (sentence : String) : Eval Nat := do
    sayLine (name ++ if verbose then sentence.toList else [])
    return 0
  let missing : Eval Nat := do
    if verbose then sayLine (name ++ ": not found".toList)
    return 127
  if (Keyword.ofChars? name).isSome then tell " is a shell keyword"
  else match p.aliases.lookup key with
    | some text =>
      if verbose then sayLine (name ++ " is an alias for ".toList ++ text)
      else sayLine ("alias ".toList ++ name ++ '=' :: singleQuoted text)
      return 0
    | none =>
      if name.contains '/' then
        let m ← get
        if (m.files.stat m.process.cwd (shown name)).isOk then
          sayLine (name ++ if verbose then " is ".toList ++ name else [])
          return 0
        else missing
      else if (p.functions.lookup key).isSome then tell " is a shell function"
      else if specialNames.contains key then tell " is a special shell builtin"
      else if regularNames.contains key then tell " is a shell builtin"
      else
        let told (path : Chars) (sentence : String) : Eval Nat := do
          sayLine (if verbose then name ++ sentence.toList ++ path else path)
          return 0
        match list, p.tracked.find? (·.name == key) with
        | none, some t => told t.path " is a tracked alias for "
        | none, none =>
          match ← findTracked name with
          | .ok path => told path " is "
          | .error _ => missing
        | some list, _ =>
          match ← findProgram list name with
          | .ok path => told path " is "
          | .error _ => missing

/-- Tell what runs for names. -/
def typeCommand : Action := fun args => do
  let results ← args.mapM fun arg => describe arg none true
  return results.foldl max 0

/-- Tell what runs for a name, if that is asked. -/
def commandCommand : Action := fun args => do
  let (options, args) ← takeOptions ['p', 'v', 'V'] [] args
  let asks (c : Char) : Bool := options.any (·.1 == c)
  let list := if asks 'p' then some usualPath else none
  match args.head? with
  | some name => if asks 'v' || asks 'V' then describe name list (asks 'V') else return 0
  | none => return 0

end LineShell.Script
