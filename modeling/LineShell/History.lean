import LineShell.Files.Change
import LineShell.Text.Blank

/-!
# History

The lines that were entered, oldest first, and the files that keep them from one session to the next.

## The model

A history file holds one entry a line. `render` writes entries in that form and `parse` reads them,
without the blank lines. A history also counts the entries that were already appended to a file, so
that the next time only fresh ones are written.
-/

namespace LineShell

/-- The lines that were entered. -/
structure History where
  /-- The lines, oldest first. -/
  entries : List String := []
  /-- How many of them were appended to a file already. -/
  appended : Nat := 0
  deriving DecidableEq, Repr

namespace History

/-- The number of entries. -/
def size (h : History) : Nat := h.entries.length

/-- There are no entries. -/
def isEmpty (h : History) : Bool := h.entries.isEmpty

/-- One more line was entered. -/
def push (h : History) (line : String) : History := { h with entries := h.entries ++ [line] }

/-- The entries that no append has written yet. -/
def fresh (h : History) : List String := h.entries.drop h.appended

/-- The history after all its entries were written by appends. -/
def settled (h : History) : History := { h with appended := h.entries.length }

/-! ### The form of a history file -/

/-- The text of a file that holds the entries. -/
def render (entries : List String) : String := String.join (entries.map (· ++ "\n"))

/-- The entries of a file's text: its lines, without the blank ones. -/
def parse (text : String) : List String := (Text.lines text).filter (! Text.isBlankText ·)

/-! ### Files -/

/-- Append the entries of a file. Tells how many there were. -/
def load (h : History) (fs : FileSystem) (cwd : NodeId) (path : String) :
    Except Failure (History × Nat) :=
  let text := do
    let data ← fs.read cwd path
    match Text.decode? data with
    | some text => pure text
    | none => throw Cause.notText
  match text with
  | .error cause => .error (cause.during (.readingHistory path))
  | .ok text =>
    let loaded := parse text
    .ok ({ h with entries := h.entries ++ loaded }, loaded.length)

/-- Make the directory that a file is to stand in, if it is missing. -/
def prepare (fs : FileSystem) (cwd : NodeId) (path : String) : Except Failure Unit × FileSystem :=
  match Path.parent? path with
  | none => (.ok (), fs)
  | some dir =>
    if dir = "" || fs.exists? cwd dir then (.ok (), fs)
    else match fs.makeDirectories cwd dir with
      | (.ok (), fs) => (.ok (), fs)
      | (.error cause, fs) => (.error (cause.during (.creatingDirectory dir)), fs)

/-- Make a file hold the whole history and nothing else. -/
def save (h : History) (fs : FileSystem) (cwd : NodeId) (path : String) :
    Except Failure Unit × FileSystem :=
  match prepare fs cwd path with
  | (.error failure, fs) => (.error failure, fs)
  | (.ok (), fs) =>
    match fs.openFile cwd path false with
    | .error cause => (.error (cause.during (.writingHistory path)), fs)
    | .ok (handle, fs) =>
      match fs.write handle (Text.encode (render h.entries)) with
      | .error cause => (.error (cause.during (.writingHistory path)), fs)
      | .ok (_, fs) => (.ok (), fs)

/-- Append the fresh entries to a file. Where there are none, the file is left alone. -/
def append (h : History) (fs : FileSystem) (cwd : NodeId) (path : String) :
    Except Failure History × FileSystem :=
  if h.fresh = [] then (.ok h.settled, fs)
  else match prepare fs cwd path with
    | (.error failure, fs) => (.error failure, fs)
    | (.ok (), fs) =>
      match fs.openFile cwd path true with
      | .error cause => (.error (cause.during (.openingHistory path)), fs)
      | .ok (handle, fs) =>
        match fs.write handle (Text.encode (render h.fresh)) with
        | .error cause => (.error { cause }, fs)
        | .ok (_, fs) => (.ok h.settled, fs)

/-! ### Showing -/

/-- A number set to the right of five columns, and its entry. -/
def numbered (entry : String) (number : Nat) : String :=
  Text.aligned 5 number ++ "  " ++ entry ++ "\n"

/-- The entries with their numbers, only the last ones if a limit above zero is given. -/
def listing (h : History) (limit : Option Nat) : List String :=
  let skipped := match limit with
    | some n => if n = 0 then 0 else h.entries.length - n
    | none => 0
  ((h.entries.zipIdx 1).drop skipped).map fun (entry, number) => numbered entry number

end History

end LineShell
