import LineShell.Arguments
import LineShell.Lookup

/-!
# Built-in commands

The commands that the shell runs by itself: `cd`, `echo`, `exit`, `history`, `pwd` and `type`.

## The model

A built-in is a function of its arguments and of the `Context` it runs in, and an operation on the
world. It reads and writes only the streams of its context. It returns a status, or breaks off with a
fault that its caller has to deal with. All but `echo` read their arguments by a `Grammar`.
-/

namespace LineShell

/-! ### Statuses -/

namespace Status

/-- Something went wrong. -/
def failure : Int := 1

/-- The arguments were wrong. -/
def usage : Int := 2

/-- There is no such command. -/
def notFound : Int := 127

/-- The greatest status. -/
def max : Nat := 0x7FFFFFFF

end Status

/-! ### Commands -/

/-- What a command runs in. -/
structure Context where
  /-- The streams it reads and writes. -/
  streams : Streams
  /-- Where programs are searched. -/
  searchPath : SearchPath := .environment
  /-- The names of the built-in commands. -/
  builtins : List String := []
  deriving DecidableEq, Repr

/-- How a built-in command ended. -/
inductive Conclusion where
  /-- With a status. -/
  | returned (status : Int)
  /-- With a fault, in the middle of its work. -/
  | faulted
  deriving DecidableEq, Repr

/-- A built-in command. -/
abbrev Builtin := List String → Context → Run Conclusion

namespace Builtin

/-- Work that fails, or ends with a status. -/
abbrev Work := ExceptT Failure Run Int

/-- Write a text, and fail if that fails. -/
def put (id : Nat) (text : String) : ExceptT Failure Run Unit := do
  match ← World.print id text with
  | .ok () => return
  | .error cause => throw { cause }

/-- The command that reads its arguments by a grammar and then works. A request for help is answered
on standard output; what is wrong with the arguments, and why the work failed, is told on standard
error. -/
def ofGrammar (grammar : Grammar) (work : Arguments → Context → Work) : Builtin :=
  fun args context => do
    match grammar.read args with
    | .error (.help text) =>
      World.say context.streams.stdout (Text.trimEnd text ++ "\n")
      return .returned 0
    | .error (.wrong e) =>
      World.say context.streams.stderr (Text.trimEnd e.message ++ "\n")
      return .returned Status.usage
    | .ok args =>
      match ← (work args context).run with
      | .ok status => return .returned status
      | .error failure =>
        World.note .debug .builtin s!"{grammar.command} failed: {failure.report}"
        World.say context.streams.stderr s!"{grammar.command}: {failure.message}\n"
        return .returned Status.failure

/-! ### `echo` -/

/-- Write the arguments, separated by spaces. A first argument `-n` leaves out the end of the line. -/
def echo : Builtin := fun args context => do
  let (words, ending) := match args with
    | "-n" :: words => (words, "")
    | words => (words, "\n")
  match ← World.print context.streams.stdout (" ".intercalate words ++ ending) with
  | .ok () => return .returned 0
  | .error cause =>
    World.say context.streams.stderr s!"echo: {cause.message}\n"
    return .returned Status.failure

/-! ### `pwd` -/

/-- The arguments of `pwd`. -/
def pwdGrammar : Grammar where
  command := "pwd"
  about := "Print the current working directory to standard output."

/-- Write the path of the working directory. -/
def pwd : Builtin := ofGrammar pwdGrammar fun _ context => do
  let world ← getThe World
  match world.files.pathOf world.cwd with
  | .error cause => throw (cause.during .readingDirectory)
  | .ok path =>
    put context.streams.stdout (path ++ "\n")
    return 0

/-! ### `cd` -/

/-- The arguments of `cd`. -/
def cdGrammar : Grammar where
  command := "cd"
  about := "Change the shell's working directory. Without a target, go to $HOME."
  operands := .optional {
    name := "target"
    about := "directory to switch to; absolute, relative or starting with \x60~\x60. " ++
      "Defaults to $HOME when omitted." }

/-- The path that a target stands for. A tilde at its start, alone or before a slash, stands for the
home directory, and so does an empty target. -/
def expandHome (home : Option String) (target : String) : Except Cause String :=
  match target.toList with
  | [] | ['~'] => home.elim (.error .homeUnset) .ok
  | '~' :: '/' :: rest =>
    home.elim (.error .homeUnset) fun h => .ok (Path.join h (String.ofList rest))
  | _ => .ok target

/-- The directory that a target leads to. -/
def directoryFor (world : World) (target : String) : Except Failure NodeId :=
  match expandHome world.home target with
  | .error cause => .error { cause }
  | .ok path =>
    if ! world.files.isDirectory world.cwd path then .error { cause := .missing target }
    else match world.files.canonical world.cwd path with
      | .error cause => .error (cause.during (.canonicalizing target path))
      | .ok (dir, found) =>
        match world.files.admits dir with
        | .error cause => .error (cause.during (.changingTo target found))
        | .ok () => .ok dir

/-- Change the working directory. -/
def cd : Builtin := ofGrammar cdGrammar fun args _ => do
  let world ← getThe World
  match directoryFor world (args.operands.headD "") with
  | .error failure => throw failure
  | .ok cwd =>
    set { world with cwd }
    return 0

/-! ### `type` -/

/-- The arguments of `type`. -/
def typeGrammar : Grammar where
  command := "type"
  about := "Tell whether each name is a shell builtin or an executable on PATH."
  operands := .many "names"

/-- What a name stands for, and the status that this gives. -/
def describe (world : World) (context : Context) (name : String) : String × Int :=
  if context.builtins.contains name then (s!"{name} is a shell builtin", 0)
  else match context.searchPath.resolve world name with
    | some path => (s!"{name} is {path}", 0)
    | none => (s!"{name}: not found", Status.notFound)

/-- Tell what names stand for. -/
def type : Builtin := ofGrammar typeGrammar fun args context => do
  if args.operands = [] then
    put context.streams.stderr "type: missing operand\n"
    return Status.usage
  else
    args.operands.foldlM (fun status name => do
      let (text, one) := describe (← getThe World) context name
      put context.streams.stdout (text ++ "\n")
      return if one = 0 then status else one) 0

/-! ### `exit` -/

/-- The arguments of `exit`. -/
def exitGrammar : Grammar where
  command := "exit"
  about := "Exit the shell with the given status (0 by default)."
  operands := .optional { name := "code", about := "exit status; must be an integer." }

/-- Ask the shell to leave. -/
def exit : Builtin := ofGrammar exitGrammar fun args context => do
  let status ← match args.operands.head? with
    | none => pure 0
    | some text =>
      match Text.integer Status.max text with
      | .ok status => pure status
      | .error _ => do
        put context.streams.stderr s!"exit: {text}: numeric argument required\n"
        pure Status.usage
  modify fun (world : World) => { world with exitRequest := some status }
  return status

/-! ### `history` -/

/-- The greatest number of entries that can be asked for. -/
def maxLimit : Nat := 0xFFFFFFFFFFFFFFFF

/-- Why a text is no number of entries. -/
def refusesLimit (text : String) : Option String :=
  match Text.natural maxLimit text with
  | .ok _ => none
  | .error e => some e.message

/-- The arguments of `history`. -/
def historyGrammar : Grammar where
  command := "history"
  about := "Show the command history, or read/write it from/to a file."
  options := [
    { name := "read", short := some "r"
      about := "append the lines of this file to the history." },
    { name := "write", short := some "w", about := "write the whole history to this file." },
    { name := "append", short := some "a"
      about := "append entries added since the last append to this file." }]
  operands := .optional {
    name := "limit", about := "only show the last N entries.", refuses := refusesLimit }

/-- Append the lines of a file to the history. -/
def readHistory (path : String) : Work := do
  let world ← getThe World
  if ! world.files.exists? world.cwd path then throw { cause := .missing path }
  match world.history.load world.files world.cwd path with
  | .error failure => throw failure
  | .ok (history, _) =>
    set { world with history }
    return 0

/-- Write the whole history to a file. -/
def writeHistory (path : String) : Work := do
  let world ← getThe World
  let (result, files) := world.history.save world.files world.cwd path
  set (world.withFiles files)
  match result with
  | .error failure => throw failure
  | .ok () => return 0

/-- Append the fresh entries to a file. -/
def appendHistory (path : String) : Work := do
  let world ← getThe World
  let (result, files) := world.history.append world.files world.cwd path
  set (world.withFiles files)
  match result with
  | .error failure => throw failure
  | .ok history =>
    modify fun (world : World) => { world with history }
    return 0

/-- Show the last entries, or all. -/
def showHistory (limit : Option Nat) (context : Context) : Work := do
  ((← getThe World).history.listing limit).forM (put context.streams.stdout)
  return 0

/-- Show the history, or read or write it. -/
def history : Builtin := ofGrammar historyGrammar fun args context =>
  match args.value? "read", args.value? "write", args.value? "append" with
  | some path, _, _ => readHistory path
  | none, some path, _ => writeHistory path
  | none, none, some path => appendHistory path
  | none, none, none =>
    showHistory (args.operands.head?.bind fun text => (Text.natural maxLimit text).toOption) context

/-- The commands that every shell starts with. -/
def defaults : List (String × Builtin) :=
  [("echo", echo), ("cd", cd), ("pwd", pwd), ("type", type), ("exit", exit), ("history", history)]

end Builtin

/-! ### Registries -/

/-- Built-in commands by name, in increasing order of their names. -/
structure Registry where
  /-- The names and the commands. -/
  entries : List (String × Builtin) := []

namespace Registry

/-- The entries with one more. It takes the place of one of the same name. -/
def insertInto (name : String) (command : Builtin) :
    List (String × Builtin) → List (String × Builtin)
  | [] => [(name, command)]
  | (other, old) :: rest =>
    if name = other then (name, command) :: rest
    else if name < other then (name, command) :: (other, old) :: rest
    else (other, old) :: insertInto name command rest

/-- The registry with one more command. -/
def insert (r : Registry) (name : String) (command : Builtin) : Registry :=
  { entries := insertInto name command r.entries }

/-- The registry of commands; of two with the same name the later one counts. -/
def ofList (commands : List (String × Builtin)) : Registry :=
  commands.foldl (fun r (name, command) => r.insert name command) {}

/-- The command of that name. -/
def get? (r : Registry) (name : String) : Option Builtin := r.entries.lookup name

/-- The names, in increasing order. -/
def names (r : Registry) : List String := r.entries.map (·.1)

end Registry

end LineShell
