import LineShell.Failure
import LineShell.Files.Pipe
import LineShell.Path
import LineShell.Text.Stray

/-!
# Files

The files, directories and symbolic links that the shell works on, and how a path finds its way to
one of them.

## The model

A file system is a table of `Node`s, and one of pipes, to which no names lead. A directory knows its entries and the directory above it, so a
directory that has been removed can still be stood in: it is empty, `alive` no more, and nothing can
be made in it. `descend` follows names up to the first link, and `walk` goes on from link to link;
all links on the way count towards one budget of `maxLinks`. Permission bits are those of the one
user there is. What the numbered descriptors of the running process stand for is part of the file
system too, since paths such as `/dev/stdout` lead there.
-/

namespace LineShell

/-- Where a name or an open file leads. -/
inductive NodeId where
  /-- A place in the table of nodes. -/
  | entry (place : Nat)
  /-- A place in the table of pipes. -/
  | pipe (place : Nat)
  /-- A device that holds nothing, and has no name. -/
  | null
  deriving DecidableEq, Repr

/-- What a device does. -/
inductive Device where
  /-- Takes everything and holds nothing. -/
  | null
  /-- Takes nothing and holds zeros without end. -/
  | full
  /-- Takes everything and holds zeros without end. -/
  | zero
  /-- A terminal that is not there. -/
  | terminal
  deriving DecidableEq, Repr

/-- What stands at a place in the file system. -/
inductive Node where
  /-- A directory: the one above it, its entries, whether it still exists, and its permission
  bits. -/
  | directory (parent : NodeId) (entries : List (String × NodeId)) (alive : Bool) (mode : Nat)
  /-- A regular file: its contents and its permission bits. -/
  | regular (data : ByteArray) (mode : Nat)
  /-- A symbolic link. -/
  | link (target : String)
  /-- A device. -/
  | device (kind : Device)
  /-- A pipe. -/
  | pipe (pipe : Pipe)
  /-- A link to whatever the descriptor of that number stands for. -/
  | descriptor (number : Nat)

namespace Node

/-- Permission to read. -/
def readBit : Nat := 0o400

/-- Permission to write; in a directory, to make and remove entries. -/
def writeBit : Nat := 0o200

/-- Permission to run; in a directory, to look up names. -/
def searchBit : Nat := 0o100

/-- The permission bits. -/
def mode : Node → Nat
  | .directory _ _ _ mode => mode
  | .regular _ mode => mode
  | .link _ | .descriptor _ => 0o777
  | .device _ => 0o666
  | .pipe _ => 0o600

/-- The permission bits include one. -/
def permits (node : Node) (bit : Nat) : Bool := node.mode &&& bit ≠ 0

end Node

/-- A file system. Place 0 is its root directory. -/
structure FileSystem where
  /-- The table of nodes. -/
  nodes : Array Node := #[.directory (.entry 0) [] true 0o755]
  /-- The table of pipes. -/
  pipes : Array Pipe := #[]
  /-- What the descriptors of the running process stand for. -/
  own : List (Nat × NodeId) := []

namespace FileSystem

/-- The root directory. -/
def root : NodeId := .entry 0

/-- The greatest number of bytes of a name. -/
def maxName : Nat := 255

/-- The number of bytes at which a path is too long. -/
def maxPath : Nat := 4096

/-- How many links are followed on the way to a file. -/
def maxLinks : Nat := 40

/-- The permission bits of a new file. -/
def newMode : Nat := 0o644

/-- The permission bits of a new directory. -/
def newDirectoryMode : Nat := 0o755

/-- The node at a place. -/
def node? (fs : FileSystem) : NodeId → Option Node
  | .entry place => fs.nodes[place]?
  | .pipe place => (fs.pipes[place]?).map .pipe
  | .null => some (.device .null)

/-- The place that a name leads to from a place. The empty name asks for a directory and leads
nowhere else. -/
def entry (fs : FileSystem) (place : NodeId) (name : String) : Except Cause NodeId :=
  match fs.node? place with
  | some (.directory parent entries alive mode) =>
    if name = "" then .ok place
    else if ! (Node.directory parent entries alive mode).permits Node.searchBit then
      .error .accessDenied
    else if name = "." then .ok place
    else if name = ".." then .ok parent
    else if name.utf8ByteSize > maxName && Text.rawLength name > maxName then .error .nameTooLong
    else match entries.lookup name with
      | some id => .ok id
      | none => .error .noEntry
  | _ => .error .notDirectory

/-- Where names lead before a link has to be followed. -/
inductive Descent where
  /-- All names were followed, to this place. -/
  | reached (place : NodeId)
  /-- A symbolic link stands in directory `within`; `rest` are the names after it. -/
  | link (within : NodeId) (target : String) (rest : List String)
  /-- A link to a descriptor; `rest` are the names after it. -/
  | descriptor (number : Nat) (rest : List String)
  /-- A name leads nowhere. -/
  | failed (cause : Cause)

/-- Follow names from a place up to the first link. With `follow` a link at the very end counts
too. -/
def descend (fs : FileSystem) (follow : Bool) : NodeId → List String → Descent
  | place, [] => .reached place
  | place, name :: rest =>
    match fs.entry place name with
    | .error cause => .failed cause
    | .ok id =>
      match fs.node? id with
      | some (.link target) =>
        if rest.isEmpty && ! follow then .reached id else .link place target rest
      | some (.descriptor number) =>
        if rest.isEmpty && ! follow then .reached id else .descriptor number rest
      | _ => descend fs follow id rest

/-- Where a path starts. -/
def start (place : NodeId) (path : String) : NodeId := if Path.isAbsolute path then root else place

/-- Follow names from a place, through at most so many links. Tells how many links may follow. -/
def walk (fs : FileSystem) (follow : Bool) :
    Nat → NodeId → List String → Except Cause (NodeId × Nat)
  | links, place, ns =>
    match fs.descend follow place ns with
    | .reached id => .ok (id, links)
    | .failed cause => .error cause
    | .link within target rest =>
      match links with
      | 0 => .error .linkLoop
      | links + 1 => walk fs follow links (start within target) (Path.names target ++ rest)
    | .descriptor number rest =>
      match links, fs.own.lookup number with
      | 0, _ => .error .linkLoop
      | _, none => .error .noEntry
      | links + 1, some id => walk fs follow links id rest

/-- What is wrong with the text of a path. -/
def pathFault (path : String) : Option Cause :=
  if Path.hasNul path then some .nulInPath
  else if path = "" then some .noEntry
  else if maxPath ≤ path.utf8ByteSize && maxPath ≤ Text.rawLength path then some .nameTooLong
  else none

/-- The place that a path leads to from a directory. -/
def find (fs : FileSystem) (cwd : NodeId) (path : String) (follow : Bool := true) :
    Except Cause NodeId :=
  match pathFault path with
  | some cause => .error cause
  | none => (fs.walk follow maxLinks (start cwd path) (Path.names path)).map (·.1)

/-- The node that a path leads to. -/
def stat (fs : FileSystem) (cwd : NodeId) (path : String) (follow : Bool := true) :
    Except Cause Node := do
  let id ← fs.find cwd path follow
  match fs.node? id with
  | some node => return node
  | none => throw .noEntry

/-- Something stands at the end of the path. -/
def exists? (fs : FileSystem) (cwd : NodeId) (path : String) : Bool := (fs.stat cwd path).isOk

/-- A directory stands at the end of the path. -/
def isDirectory (fs : FileSystem) (cwd : NodeId) (path : String) : Bool :=
  match fs.stat cwd path with
  | .ok (.directory ..) => true
  | _ => false

/-- A regular file that somebody may run stands at the end of the path. -/
def isExecutable (fs : FileSystem) (cwd : NodeId) (path : String) : Bool :=
  match fs.stat cwd path with
  | .ok (.regular _ mode) => mode &&& 0o111 ≠ 0
  | _ => false

/-- The contents of the file at the end of the path. -/
def read (fs : FileSystem) (cwd : NodeId) (path : String) : Except Cause Bytes := do
  let node ← fs.stat cwd path
  if ! node.permits Node.readBit then throw .accessDenied
  match node with
  | .regular data _ => return bytesOf data
  | .directory .. => throw .isDirectory
  | .device .terminal => throw .noDevice
  | _ => return []

/-- The names in the directory at the end of the path. -/
def list (fs : FileSystem) (cwd : NodeId) (path : String) : Except Cause (List String) := do
  match ← fs.stat cwd path with
  | .directory parent entries alive mode =>
    if (Node.directory parent entries alive mode).permits Node.readBit then
      return entries.map (·.1)
    else throw .accessDenied
  | _ => throw .notDirectory

/-! ### The path of a directory -/

/-- The name under which a directory lists a place. -/
def nameIn (fs : FileSystem) (dir place : NodeId) : Option String :=
  match fs.node? dir with
  | some (.directory _ entries _ _) => (entries.find? (·.2 == place)).map (·.1)
  | _ => none

/-- The names from the root to a directory, going up at most so many times. -/
def namesTo (fs : FileSystem) : Nat → NodeId → Option (List String)
  | 0, place => if place = root then some [] else none
  | steps + 1, place =>
    if place = root then some []
    else match fs.node? place with
      | some (.directory parent _ _ _) => do
        let above ← namesTo fs steps parent
        let name ← fs.nameIn parent place
        return above ++ [name]
      | _ => none

/-- The path of a directory; none if it has been removed. -/
def pathOf (fs : FileSystem) (place : NodeId) : Except Cause String :=
  match fs.namesTo fs.nodes.size place with
  | some ns => .ok (Path.fromRoot ns)
  | none => .error .noEntry

/-- The one path of the directory that a path leads to, free of links and dots. A path that starts
in a removed directory has none, nor has a directory whose path is too long. -/
def canonical (fs : FileSystem) (cwd : NodeId) (path : String) : Except Cause (NodeId × String) := do
  if ! Path.isAbsolute path then discard <| fs.pathOf cwd
  let id ← fs.find cwd path
  let result ← fs.pathOf id
  if maxPath ≤ result.utf8ByteSize then throw .nameTooLong
  return (id, result)

/-- Whether names may be looked up in the directory at a place, as standing in it requires. -/
def admits (fs : FileSystem) (place : NodeId) : Except Cause Unit :=
  match fs.node? place with
  | some (.directory parent entries alive mode) =>
    if (Node.directory parent entries alive mode).permits Node.searchBit then .ok ()
    else .error .accessDenied
  | _ => .error .notDirectory

end FileSystem

end LineShell
