import LineShell.Pieces
import LineShell.Words

/-!
# Invocations

What the words of one pipeline stage mean: a command with its arguments, and the files that its
output streams are sent to.

## The model

Six words are redirection operators. Each takes the word after it as its target, whatever that word
is; an operator that ends the list has no target and no effect. Where a stream is redirected more
than once the last operator decides, on the file as well as on appending.
-/

namespace LineShell

/-- An output stream of a command. -/
inductive Stream where
  /-- Where results go. -/
  | stdout
  /-- Where messages go. -/
  | stderr
  deriving DecidableEq, Repr

/-- A redirection operator: the stream it sends elsewhere, and how the file is opened. -/
structure Operator where
  /-- The stream that is redirected. -/
  stream : Stream
  /-- Whether the file keeps its contents and grows at its end. -/
  append : Bool
  deriving DecidableEq, Repr

/-- The operator that a word spells, if it spells one. -/
def Operator.ofWord? : String → Option Operator
  | ">" => some ⟨.stdout, false⟩
  | "1>" => some ⟨.stdout, false⟩
  | ">>" => some ⟨.stdout, true⟩
  | "1>>" => some ⟨.stdout, true⟩
  | "2>" => some ⟨.stderr, false⟩
  | "2>>" => some ⟨.stderr, true⟩
  | _ => none

/-- A file that a stream is sent to. -/
structure Target where
  /-- The file, as it was written. -/
  path : String
  /-- Whether the file keeps its contents and grows at its end. -/
  append : Bool := false
  deriving DecidableEq, Repr

/-- A command with its output redirections. -/
structure Invocation where
  /-- The command's name and arguments. -/
  words : List String := []
  /-- Where its results go, if not to the stream of its surroundings. -/
  stdout : Option Target := none
  /-- Where its messages go, if not to the stream of its surroundings. -/
  stderr : Option Target := none
  deriving DecidableEq, Repr

namespace Invocation

/-- Neither stream is redirected. -/
def isPlain (i : Invocation) : Bool := i.stdout.isNone && i.stderr.isNone

/-- The invocation with one more word in front. -/
def withWord (w : String) (i : Invocation) : Invocation := { i with words := w :: i.words }

/-- The invocation with a redirection in front: it counts only where no later one took its stream. -/
def withTarget (op : Operator) (path : String) (i : Invocation) : Invocation :=
  match op.stream with
  | .stdout => { i with stdout := i.stdout.or (some ⟨path, op.append⟩) }
  | .stderr => { i with stderr := i.stderr.or (some ⟨path, op.append⟩) }

/-- What the words of one stage mean. -/
def ofWords : List String → Invocation
  | [] => {}
  | [w] => if (Operator.ofWord? w).isSome then {} else { words := [w] }
  | w :: target :: rest =>
    match Operator.ofWord? w with
    | some op => (ofWords rest).withTarget op target
    | none => (ofWords (target :: rest)).withWord w

end Invocation

namespace Pipeline

/-- The stages of a pipeline: the lists of words between pipe symbols. Stray pipe symbols make no
stage. -/
def stages (ws : List String) : List (List String) :=
  (pieces (· == Words.pipe) ws).filter (! ·.isEmpty)

end Pipeline

end LineShell
