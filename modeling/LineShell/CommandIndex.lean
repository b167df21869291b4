import LineShell.Completion
import LineShell.Lookup

/-!
# The index of command names

The names that a command line can begin with: the built-in commands and all programs that the search
path leads to. The programs are looked up when the index is first asked, and never again.
-/

namespace LineShell

/-- An index of command names. -/
structure CommandIndex where
  /-- The names of the built-in commands. -/
  builtins : List String
  /-- Where programs are searched. -/
  searchPath : SearchPath := .environment
  /-- The names of the programs, once they have been looked up. -/
  programs : Option (List String) := none
  deriving DecidableEq, Repr

namespace CommandIndex

/-- The names of the programs: those found earlier, or those to be found now. -/
def programsIn (index : CommandIndex) (world : World) : List String :=
  index.programs.getD (index.searchPath.programs world)

/-- The completer that the index stands for. -/
def completer (index : CommandIndex) (world : World) : Completer :=
  Completion.ofWords (index.builtins ++ index.programsIn world)

/-- The index with its programs looked up. -/
def ready (index : CommandIndex) : Run CommandIndex := do
  match index.programs with
  | some _ => return index
  | none =>
    let programs := index.programsIn (← get)
    World.note .debug .completion
      s!"completion index: {index.builtins.length} built-ins, {programs.length} executables"
    return { index with programs := some programs }

end CommandIndex

end LineShell
