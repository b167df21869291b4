/-!
# Log records

What the shell notes about its own work, how important each note is, and the line that a note
becomes.
-/

namespace LineShell

/-- How much is logged. -/
inductive Level where
  /-- Nothing. -/
  | off
  /-- Faults of the shell. -/
  | error
  /-- Things that went wrong and were dealt with. -/
  | warn
  /-- Milestones. -/
  | info
  /-- Each step. -/
  | debug
  /-- Every detail. -/
  | trace
  deriving DecidableEq, Repr

namespace Level

/-- The level's rank: a record is kept if its rank is at most that of the chosen level. -/
def rank : Level → Nat
  | .off => 0
  | .error => 1
  | .warn => 2
  | .info => 3
  | .debug => 4
  | .trace => 5

/-- The level's name. -/
def name : Level → String
  | .off => "OFF"
  | .error => "ERROR"
  | .warn => "WARN"
  | .info => "INFO"
  | .debug => "DEBUG"
  | .trace => "TRACE"

/-- All levels. -/
def all : List Level := [.off, .error, .warn, .info, .debug, .trace]

/-- The level that a text names, in letters of either case. -/
def ofName? (s : String) : Option Level :=
  all.find? fun l => l.name.toList == s.toList.map Char.toUpper

end Level

/-- The part of the shell that a record comes from. -/
inductive Origin where
  /-- The program as a whole. -/
  | program
  /-- The log itself. -/
  | logging
  /-- The running of lines. -/
  | interpreter
  /-- The running of pipelines. -/
  | pipeline
  /-- The built-in commands. -/
  | builtin
  /-- The opening of redirections. -/
  | redirect
  /-- The index of command names. -/
  | completion
  /-- The reading of lines without keystrokes. -/
  | lineReader
  deriving DecidableEq, Repr

/-- The origin's name in a record. -/
def Origin.name : Origin → String
  | .program => "minishell"
  | .logging => "minishell::logging"
  | .interpreter => "minishell::interpreter"
  | .pipeline => "minishell::pipeline"
  | .builtin => "minishell::builtin"
  | .redirect => "minishell::redirect"
  | .completion => "minishell::completion"
  | .lineReader => "rustyline"

/-- The number of the thread that the shell starts on. -/
def mainThread : Nat := 1

/-- A note. -/
structure LogRecord where
  /-- How important it is. -/
  level : Level
  /-- Where it comes from. -/
  origin : Origin
  /-- The thread it was made on. -/
  thread : Nat := mainThread
  /-- What it says. -/
  text : String
  deriving DecidableEq, Repr

/-- The line that a record becomes, `time` being the time of day. The thread is told at the debug
level and below. -/
def LogRecord.line (time : String) (r : LogRecord) : String :=
  let thread := if Level.debug.rank ≤ r.level.rank then s!"({r.thread}) " else ""
  s!"{time} [{r.level.name}] {thread}{r.origin.name}: {r.text}\n"

end LineShell
