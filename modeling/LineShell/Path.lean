import LineShell.Pieces

/-!
# Paths

A path is a text in which slashes separate names. This module says what its parts are, what stands
above it, and how one path continues another. Nothing here looks at a file.
-/

namespace LineShell.Path

/-- The texts between the slashes of a path. -/
def parts (path : String) : List String := textPieces '/' path

/-- The path starts at the root. -/
def isAbsolute (path : String) : Bool := path.toList.head? == some '/'

/-- The path ends with a slash, so that only a directory can be meant. -/
def endsWithSlash (path : String) : Bool := path.toList.getLast? == some '/'

/-- The path holds the character that ends paths. -/
def hasNul (path : String) : Bool := path.toList.contains '\x00'

/-- The names on the way along a path, with an empty one at the end if a directory has to stand
there. -/
def names (path : String) : List String :=
  let ns := (parts path).filter (· ≠ "")
  if endsWithSlash path && ! ns.isEmpty then ns ++ [""] else ns

/-! ### Components -/

/-- A part that counts as a component: a name, or a dot at the very start. -/
def counts (part : String) (place : Nat) : Bool := part ≠ "" && (part ≠ "." || place == 0)

/-- The components of a path that does not start at the root: its names, without dots except at the
very start. -/
def components (path : String) : List String :=
  ((parts path).zipIdx.filter fun (part, place) => counts part place).map (·.1)

/-- The path and everything above it, nearest first, up to the root or to the empty path. -/
def ancestors (path : String) : List String :=
  let ps := parts path
  let places := (ps.zipIdx.filter fun (part, place) => counts part place).map (·.2)
  match places.reverse with
  | [] => [path]
  | _ :: above =>
    path :: above.map (fun place => "/".intercalate (ps.take (place + 1))) ++
      [if isAbsolute path then "/" else ""]

/-- What stands directly above a path; nothing stands above the root and the empty path. -/
def parent? (path : String) : Option String := (ancestors path).tail.head?

/-- The path that goes on from `base` with `path`, which starts anew if it is absolute. -/
def join (base path : String) : String :=
  if isAbsolute path then path
  else if base = "" || endsWithSlash base then base ++ path
  else base ++ "/" ++ path

/-- The path from the root along names. -/
def fromRoot (ns : List String) : String := "/" ++ "/".intercalate ns

end LineShell.Path
