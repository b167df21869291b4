import LineShell.Builtin

/-!
# Sample commands

Small commands to try out streams and pipelines with: one for each way in which a command can treat
its input, its output, its arguments and its status. A sample that cannot write ends with status 9.
-/

namespace LineShell.Samples

/-- The status of a sample that cannot write. -/
def writeFailed : Int := 9

/-- The status of a sample, by the writes it made. -/
def verdict (result : Except Cause Unit) : Conclusion :=
  match result with
  | .ok () => .returned 0
  | .error _ => .returned writeFailed

/-- The byte with a small letter made a capital one. -/
def upperByte (b : UInt8) : UInt8 := if 0x61 ≤ b && b ≤ 0x7A then b - 0x20 else b

/-- Writes all its input in capital letters. -/
def upper : Builtin := fun _ context => do
  let bs ← World.readRest context.streams.stdin
  return verdict (← World.write context.streams.stdout (bs.map upperByte))

/-- How many bytes a first line has, the line feed included. -/
def firstLength (bs : Bytes) : Nat :=
  min ((bs.takeWhile (· ≠ 0x0A)).length + 1) bs.length

/-- Writes the first line of its input and leaves the rest. -/
def first : Builtin := fun _ context => do
  let stdin := context.streams.stdin
  let bs ← World.readSome stdin (firstLength ((← get).unread stdin))
  return verdict (← World.write context.streams.stdout bs)

/-- Breaks off. -/
def boom : Builtin := fun _ _ => return .faulted

/-- Writes to both output streams. -/
def both : Builtin := fun _ context => do
  match ← World.print context.streams.stdout "out\n" with
  | .error _ => return .returned writeFailed
  | .ok () => return verdict (← World.print context.streams.stderr "err\n")

/-- Writes its arguments, each in angle brackets. -/
def args : Builtin := fun args context => do
  let text := String.join (args.map fun a => "<" ++ a ++ ">") ++ "\n"
  return verdict (← World.print context.streams.stdout text)

/-- Ends with the status that its first argument spells. -/
def status : Builtin := fun args _ =>
  return .returned ((args.head?.bind fun a => (Text.integer Status.max a).toOption).getD 0)

/-- All samples by name. -/
def all : List (String × Builtin) :=
  [("upper", upper), ("first", first), ("boom", boom), ("both", both), ("args", args),
    ("status", status)]

end LineShell.Samples
