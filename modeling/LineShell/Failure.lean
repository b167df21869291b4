import LineShell.Text.Decimal

/-!
# Failures

Why an operation of the shell failed. A failure is a `Cause`, found at the bottom, under the steps
that were being taken when it was found. The wording of each is given once, here.
-/

namespace LineShell

/-- What went wrong, found where it was found. -/
inductive Cause where
  /-- The named file or a directory on the way to it is missing. -/
  | noEntry
  /-- There is no device behind the file. -/
  | noDevice
  /-- The file is no program that can be started. -/
  | execFormat
  /-- No open file has this number. -/
  | badDescriptor
  /-- The file may not be used that way. -/
  | accessDenied
  /-- The name is taken. -/
  | fileExists
  /-- A name was looked up in something that is no directory. -/
  | notDirectory
  /-- A directory stands where a file is needed. -/
  | isDirectory
  /-- The stream is no terminal. -/
  | notTerminal
  /-- The file is open for writing and cannot be run, or is running and cannot be written. -/
  | textBusy
  /-- The device takes no more bytes. -/
  | noSpace
  /-- Nobody reads the pipe. -/
  | brokenPipe
  /-- A name or a path exceeds its limit. -/
  | nameTooLong
  /-- Symbolic links lead in circles, or too far. -/
  | linkLoop
  /-- A path holds the byte that ends paths. -/
  | nulInPath
  /-- An argument holds the byte that ends arguments. -/
  | nulInArgument
  /-- Bytes that should be text are none. -/
  | notText
  /-- The stream's file was closed. -/
  | targetClosed
  /-- The screen takes no more output. -/
  | screenFull
  /-- There is no home directory. -/
  | homeUnset
  /-- What was named is no directory, or no file. -/
  | missing (shown : String)
  /-- A log level was given without a name. -/
  | emptyLevel
  /-- No log level has this name; the text is quoted. -/
  | unknownLevel (quoted : String)
  /-- A cause that comes with its own words. -/
  | other (text : String)
  deriving DecidableEq, Repr

/-- A cause in words. -/
def Cause.message : Cause → String
  | .noEntry => "No such file or directory (os error 2)"
  | .noDevice => "No such device or address (os error 6)"
  | .execFormat => "Exec format error (os error 8)"
  | .badDescriptor => "Bad file descriptor (os error 9)"
  | .accessDenied => "Permission denied (os error 13)"
  | .fileExists => "File exists (os error 17)"
  | .notDirectory => "Not a directory (os error 20)"
  | .isDirectory => "Is a directory (os error 21)"
  | .notTerminal => "Inappropriate ioctl for device (os error 25)"
  | .textBusy => "Text file busy (os error 26)"
  | .noSpace => "No space left on device (os error 28)"
  | .brokenPipe => "Broken pipe (os error 32)"
  | .nameTooLong => "File name too long (os error 36)"
  | .linkLoop => "Too many levels of symbolic links (os error 40)"
  | .nulInPath => "file name contained an unexpected NUL byte"
  | .nulInArgument => "nul byte found in provided data"
  | .notText => "stream did not contain valid UTF-8"
  | .targetClosed => "redirection target already closed"
  | .screenFull => "screen full"
  | .homeUnset => "HOME not set"
  | .missing shown => s!"{shown}: No such file or directory"
  | .emptyLevel => "empty log level"
  | .unknownLevel quoted => s!"invalid log level {quoted}"
  | .other text => text

/-- What was being done when a cause was found. -/
inductive Step where
  /-- Switching the terminal to single keystrokes. -/
  | enteringRawMode
  /-- Waiting for a keystroke. -/
  | readingKey
  /-- Waiting for a line. -/
  | readingLine
  /-- Taking a line of bytes for text. -/
  | decodingLine
  /-- Asking for the working directory. -/
  | readingDirectory
  /-- Finding the one true path of a directory. -/
  | canonicalizing (shown target : String)
  /-- Making a directory the working directory. -/
  | changingTo (shown target : String)
  /-- Making a directory and those above it. -/
  | creatingDirectory (path : String)
  /-- Opening a redirection's file. -/
  | openingTarget (path : String)
  /-- Reading a history file. -/
  | readingHistory (path : String)
  /-- Replacing a history file. -/
  | writingHistory (path : String)
  /-- Opening a history file to append to it. -/
  | openingHistory (path : String)
  /-- Opening the log file. -/
  | openingLog (path : String)
  /-- Starting a program. -/
  | executing (name path : String)
  deriving DecidableEq, Repr

/-- A step in words. -/
def Step.message : Step → String
  | .enteringRawMode => "cannot enter raw mode"
  | .readingKey => "reading key"
  | .readingLine => "reading line"
  | .decodingLine => Cause.notText.message
  | .readingDirectory => "cannot read current directory"
  | .canonicalizing shown target => s!"{shown}: can't canonicalize {target}"
  | .changingTo shown target => s!"{shown}: can't chdir to {target}"
  | .creatingDirectory path => s!"{path}: cannot create directory"
  | .openingTarget path => s!"{path}: cannot open for writing"
  | .readingHistory path => s!"{path}: cannot read history"
  | .writingHistory path => s!"{path}: cannot write history"
  | .openingHistory path => s!"{path}: cannot open history"
  | .openingLog path => s!"{path}: cannot open log file"
  | .executing name path => s!"{name}: cannot execute {path}"

/-- A cause under the steps that led to it, the outermost step first. -/
structure Failure where
  /-- The steps that were being taken, outermost first. -/
  steps : List Step := []
  /-- What went wrong. -/
  cause : Cause
  deriving DecidableEq, Repr

namespace Failure

/-- The words of each step and of the cause, outermost first. -/
def chain (f : Failure) : List String := f.steps.map Step.message ++ [f.cause.message]

/-- The failure on one line. -/
def message (f : Failure) : String := ": ".intercalate f.chain

/-- A text with every line after the first set in. -/
def hang (margin text : String) : String := ("\n" ++ margin).intercalate (text.splitOn "\n")

/-- One of several causes, numbered. -/
def numbered (text : String) (n : Nat) : String :=
  "\n" ++ Text.aligned 5 n ++ ": " ++ hang "       " text

/-- The failure in full, its causes below each other. -/
def report (f : Failure) : String :=
  match f.chain with
  | [] => ""
  | [only] => only
  | [top, cause] => top ++ "\n\nCaused by:\n    " ++ hang "    " cause
  | top :: causes =>
    top ++ "\n\nCaused by:" ++ String.join ((causes.zipIdx).map fun (text, n) => numbered text n)

end Failure

/-- A cause found while taking a step. -/
def Cause.during (step : Step) (cause : Cause) : Failure := { steps := [step], cause }

end LineShell
