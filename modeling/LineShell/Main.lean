import LineShell.Launch

/-!
# Command line

Runs the program on its standard streams, in a file system of its own that holds nothing but the usual
directories and the home directory. Everything is decided in `Launch.run`; this module reads, calls
and writes.
-/

namespace LineShell

/-- Read everything that a stream still holds, after what has been read. -/
partial def readAll (stream : IO.FS.Stream) (before : ByteArray) : IO ByteArray := do
  let more ← stream.read 65536
  if more.isEmpty then return before else readAll stream (before ++ more)

/-- The variables of the environment that the program looks at. -/
def environmentNames : List String :=
  ["HOME", "PATH", "HISTFILE", "MINISHELL_LOG", "TERM", "TERM_PROGRAM"]

/-- The part of the environment that the program looks at. -/
def readEnvironment : IO (List (String × String)) :=
  environmentNames.filterMapM fun name => return (← IO.getEnv name).map (name, ·)

end LineShell

open LineShell in
/-- Run the program and leave with its status. -/
def main (args : List String) : IO UInt32 := do
  let stdin ← IO.getStdin
  let stdout ← IO.getStdout
  let stderr ← IO.getStderr
  let launch := { args, env := ← readEnvironment : Launch }
  let files := ((launch.env.lookup "HOME").toList).foldl
    (fun fs home => fs.install FileSystem.root home .directory) FileSystem.skeleton
  let input ← readAll stdin .empty
  let (status, final) := launch.run.run (launch.world files FileSystem.root input.toList)
  stdout.write (final.collected Launch.streams.stdout).toByteArray
  stdout.flush
  stderr.write (final.collected Launch.streams.stderr).toByteArray
  stderr.flush
  return (status.getD 1).toNat.toUInt32
