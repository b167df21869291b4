import LineShell.Trie
import LineShell.World

/-!
# Looking up programs

Which file runs for a command name, and which names can be run at all.

## The model

A search list names directories, separated by colons. A name that is one component and not absolute
is looked up in each of them in turn; every other name stands for itself. What is found is always an
executable regular file. The empty directory of a list stands for the working directory when a name
is looked up, and for nothing when names are collected.
-/

namespace LineShell

/-- Where the list of directories with programs comes from. -/
inductive SearchPath where
  /-- From the environment, which is asked anew each time. -/
  | environment
  /-- The list is given once and for all. -/
  | fixed (list : String)
  deriving DecidableEq, Repr

namespace SearchPath

/-- The directories that a list names, in order. -/
def directories (list : String) : List String := textPieces ':' list

/-- The list, in a world. An environment without one has the empty list. -/
def list (world : World) : SearchPath → String
  | .environment => world.searchPath.getD ""
  | .fixed list => list

end SearchPath

namespace Lookup

/-- The path itself, if a program stands there. -/
def program? (fs : FileSystem) (cwd : NodeId) (path : String) : Option String :=
  if fs.isExecutable cwd path then some path else none

/-- The program that runs for a name, given the list of directories to search. -/
def find (fs : FileSystem) (cwd : NodeId) (list name : String) : Option String :=
  if Path.isAbsolute name then program? fs cwd name
  else match Path.components name with
    | [] => none
    | [c] => (SearchPath.directories list).findSome? fun dir => program? fs cwd (Path.join dir c)
    | _ => program? fs cwd name

/-- The names of the programs in a directory. A directory that cannot be read has none. -/
def programsIn (fs : FileSystem) (cwd : NodeId) (dir : String) : List String :=
  ((fs.list cwd dir).toOption.getD []).filter fun name => fs.isExecutable cwd (Path.join dir name)

/-- The names of all programs in the directories of a list, sorted. -/
def programs (fs : FileSystem) (cwd : NodeId) (list : String) : List String :=
  (Trie.ofList ((SearchPath.directories list).flatMap (programsIn fs cwd))).completions ""

end Lookup

namespace SearchPath

/-- The program that runs for a name. -/
def resolve (path : SearchPath) (world : World) (name : String) : Option String :=
  Lookup.find world.files world.cwd (path.list world) name

/-- The names of all programs that the search path leads to, sorted. -/
def programs (path : SearchPath) (world : World) : List String :=
  Lookup.programs world.files world.cwd (path.list world)

end SearchPath

end LineShell
