import LineShell.Arguments
import LineShell.Failure
import LineShell.Log
import LineShell.Text.Blank
import LineShell.Text.Quoted

/-!
# Settings

What the shell starts with: its prompt, its line editor, its history file and its log. Each is taken
from the arguments of the program; the history file and the log level fall back on the environment.
-/

namespace LineShell

/-- How lines are read. -/
inductive EditorKind where
  /-- Key by key, with the shell's own editor. -/
  | raw
  /-- By the line. -/
  | lines
  deriving DecidableEq, Repr

namespace EditorKind

/-- The name by which the editor is chosen. -/
def name : EditorKind → String
  | .raw => "raw"
  | .lines => "rustyline"

/-- The name by which the log calls it. -/
def title : EditorKind → String
  | .raw => "Raw"
  | .lines => "Rustyline"

/-- The editor of that name. -/
def ofName? (s : String) : Option EditorKind := [raw, lines].find? (·.name == s)

/-- Why a text names no editor. -/
def refuses (s : String) : Option String :=
  if (ofName? s).isSome then none
  else some s!"unknown editor {Text.quote s}, expected raw or rustyline"

end EditorKind

/-- What the shell starts with. -/
structure Settings where
  /-- The text before each line. -/
  prompt : String := "$ "
  /-- How lines are read. -/
  editor : EditorKind := .raw
  /-- Where the history is kept between sessions. -/
  histfile : Option String := none
  /-- How much is logged. -/
  logLevel : Level := .off
  /-- Where the log goes, if not among the messages. -/
  logFile : Option String := none
  deriving DecidableEq, Repr

namespace Settings

/-- The arguments of the program. -/
def grammar : Grammar where
  command := "minishell"
  about := "A small interactive shell with pipelines, redirections and tab completion."
  options := [
    { name := "prompt", about := "text shown before each input line." },
    { name := "editor", about := "line editor to use: raw or rustyline."
      refuses := EditorKind.refuses },
    { name := "histfile"
      about := "history file loaded at startup and written at exit; defaults to $HISTFILE." },
    { name := "log-level"
      about := "log verbosity (off, error, warn, info, debug, trace); defaults to " ++
        "$MINISHELL_LOG, then off." },
    { name := "log-file", about := "append log records to this file instead of stderr." }]

/-- The log level that a text asks for. -/
def readLevel (s : String) : Except Cause Level :=
  if Text.isBlankText s then .error .emptyLevel
  else match Level.ofName? (Text.trim s) with
    | some level => .ok level
    | none => .error (.unknownLevel (Text.quote s))

/-- A variable of the environment; an empty one counts as unset. -/
def setVariable? (env : List (String × String)) (name : String) : Option String :=
  (env.lookup name).filter (· ≠ "")

/-- The settings that arguments and environment ask for. -/
def resolve (args : Arguments) (env : List (String × String)) : Except Cause Settings := do
  let level := (args.value? "log-level").or (setVariable? env "MINISHELL_LOG")
  let logLevel ← level.elim (.ok .off) readLevel
  return {
    prompt := (args.value? "prompt").getD "$ "
    editor := ((args.value? "editor").bind EditorKind.ofName?).getD .raw
    histfile := (args.value? "histfile").or (setVariable? env "HISTFILE")
    logLevel
    logFile := args.value? "log-file" }

end Settings

end LineShell
