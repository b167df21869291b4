import LineShell.Files.Basic

/-!
# Changing files

Making directories, opening files, reading and writing through what was opened, and removing. An
operation that fails leaves the file system as it was, except that `makeDirectories` keeps the
directories it has made.
-/

namespace LineShell

/-- An open file: where it is, what may be done with it, and where the next byte is. -/
structure Handle where
  /-- The file. -/
  node : NodeId
  /-- Whether every write goes to the end of the file. -/
  append : Bool := false
  /-- Where the next byte is read, and written otherwise. -/
  offset : Nat := 0
  /-- Whether it may be read. -/
  reads : Bool := false
  /-- Whether it may be written. -/
  writes : Bool := true
  deriving DecidableEq, Repr

/-- How a file is to be opened. -/
structure Access where
  /-- To read it. -/
  reads : Bool := false
  /-- To write to it. -/
  writes : Bool := false
  /-- With every write at its end. -/
  append : Bool := false
  /-- Making it if it is missing. -/
  create : Bool := false
  /-- Only if it was missing. -/
  exclusive : Bool := false
  /-- Emptying it. -/
  truncate : Bool := false
  deriving DecidableEq, Repr

namespace Access

/-- To read a file. -/
def input : Access := { reads := true }

/-- To write a file, making it if it is missing. Its contents are kept only to append. -/
def output (append : Bool) : Access := { writes := true, append, create := true, truncate := ! append }

end Access

namespace FileSystem

/-- The file system with another node at a place. -/
def set (fs : FileSystem) (id : NodeId) (node : Node) : FileSystem :=
  match id, node with
  | .entry place, node => { fs with nodes := fs.nodes.setIfInBounds place node }
  | .pipe place, .pipe pipe => { fs with pipes := fs.pipes.setIfInBounds place pipe }
  | _, _ => fs

/-- The file system with one more node, listed in a directory under a name. -/
def add (fs : FileSystem) (dir : NodeId) (name : String) (node : Node) : FileSystem :=
  match fs.node? dir with
  | some (.directory parent entries alive mode) =>
    let listed := fs.set dir (.directory parent (entries ++ [(name, .entry fs.nodes.size)]) alive mode)
    { listed with nodes := listed.nodes.push node }
  | _ => fs

/-- Where the last name of a path stands, or would stand. -/
inductive Site where
  /-- Something stands there. -/
  | taken (id : NodeId)
  /-- Nothing does: the directory has room for this name. -/
  | vacant (dir : NodeId) (name : String)

/-- The directory in which the last name of a path is looked up, that name, and how many links may
follow. There is no such name at the end of a path that ends with a dot or two, or with the root. -/
def lastName (fs : FileSystem) (links : Nat) (place : NodeId) (path : String) :
    Except Cause (NodeId × Option String × Nat) := do
  let ns := (Path.parts path).filter (· ≠ "")
  let (dir, links) ← fs.walk true links (start place path) (ns.dropLast ++ [""])
  match ns.getLast? with
  | none | some "." | some ".." => return (dir, none, links)
  | some name => return (dir, some name, links)

/-- Where the last name of a path stands in its directory. -/
def site (fs : FileSystem) (dir : NodeId) (name : String) : Except Cause Site :=
  match fs.entry dir name with
  | .ok id => .ok (.taken id)
  | .error .noEntry =>
    match fs.node? dir with
    | some (.directory parent entries true mode) =>
      if (Node.directory parent entries true mode).permits Node.writeBit then
        .ok (.vacant dir name)
      else .error .accessDenied
    | _ => .error .noEntry
  | .error cause => .error cause

/-- Make a directory. -/
def makeDirectory (fs : FileSystem) (cwd : NodeId) (path : String) : Except Cause FileSystem :=
  match pathFault path with
  | some cause => .error cause
  | none => do
    match ← fs.lastName maxLinks cwd path with
    | (_, none, _) => throw .fileExists
    | (dir, some name, _) =>
      match ← fs.site dir name with
      | .taken _ => throw .fileExists
      | .vacant dir name => return fs.add dir name (.directory dir [] true newDirectoryMode)

/-- Make the first of several nested directories, after those around it, which follow it in the
list. Directories that exist already are left alone. -/
def makeAll (cwd : NodeId) : List String → FileSystem → Except Cause Unit × FileSystem
  | [], fs => (.ok (), fs)
  | path :: above, fs =>
    let settle (fs : FileSystem) (cause : Cause) : Except Cause Unit × FileSystem :=
      if fs.isDirectory cwd path then (.ok (), fs) else (.error cause, fs)
    if path = "" then (.ok (), fs)
    else match fs.makeDirectory cwd path with
      | .ok fs => (.ok (), fs)
      | .error .noEntry =>
        match makeAll cwd above fs with
        | (.error cause, fs) => (.error cause, fs)
        | (.ok (), fs) =>
          match fs.makeDirectory cwd path with
          | .ok fs => (.ok (), fs)
          | .error cause => settle fs cause
      | .error cause => settle fs cause

/-- Make a directory and those above it. -/
def makeDirectories (fs : FileSystem) (cwd : NodeId) (path : String) :
    Except Cause Unit × FileSystem :=
  makeAll cwd (Path.ancestors path) fs

/-! ### Opening -/

/-- Where a file to be made stands, or would stand. Links at the end of its path are followed, at most
`bound` of them, and all links on the way count towards the budget. -/
def locate (fs : FileSystem) : Nat → Nat → NodeId → String → Except Cause Site
  | bound, links, place, path =>
    match fs.lastName links place path with
    | .error cause => .error cause
    | .ok (_, none, _) => .error .isDirectory
    | .ok (dir, some name, links) =>
      if Path.endsWithSlash path then .error .isDirectory
      else match fs.site dir name with
        | .ok (.taken id) =>
          match fs.node? id, links, bound with
          | some (.link _), 0, _ | some (.link _), _, 0 | some (.descriptor _), 0, _ =>
            .error .linkLoop
          | some (.link target), links + 1, bound + 1 => locate fs bound links dir target
          | some (.descriptor number), _, _ =>
            match fs.own.lookup number with
            | some id => .ok (.taken id)
            | none => .error .noEntry
          | _, _, _ => .ok (.taken id)
        | other => other

/-- Where a file to be opened stands, or would stand if it may be made. -/
def siteFor (fs : FileSystem) (cwd : NodeId) (path : String) (access : Access) :
    Except Cause Site :=
  if access.create then fs.locate maxLinks maxLinks cwd path
  else (fs.find cwd path).map .taken

/-- Why the file at a place cannot be opened. -/
def refusal (node : Node) (access : Access) : Option Cause :=
  match node with
  | .directory .. =>
    if access.writes then some .isDirectory
    else if node.permits Node.readBit then none else some .accessDenied
  | _ =>
    if access.reads && ! node.permits Node.readBit then some .accessDenied
    else if access.writes && ! node.permits Node.writeBit then some .accessDenied
    else match node with
      | .device .terminal => some .noDevice
      | _ => none

/-- Open the file at the end of a path. A file that is made gets the given permission bits. -/
def openWith (fs : FileSystem) (cwd : NodeId) (path : String) (access : Access)
    (mode : Nat := newMode) : Except Cause (Handle × FileSystem) :=
  let handle (node : NodeId) : Handle :=
    { node, append := access.append, reads := access.reads, writes := access.writes }
  match pathFault path with
  | some cause => .error cause
  | none => do
    match ← fs.siteFor cwd path access with
    | .vacant dir name => return (handle (.entry fs.nodes.size), fs.add dir name (.regular .empty mode))
    | .taken id =>
      if access.exclusive then throw .fileExists
      let node := (fs.node? id).getD (.device .null)
      match refusal node access with
      | some cause => throw cause
      | none =>
        match node, access.truncate with
        | .regular _ mode, true => return (handle id, fs.set id (.regular .empty mode))
        | _, _ => return (handle id, fs)

/-- Open a file to write to it, making it if it is missing. Its contents are kept only to append. -/
def openFile (fs : FileSystem) (cwd : NodeId) (path : String) (append : Bool) :
    Except Cause (Handle × FileSystem) :=
  fs.openWith cwd path (.output append)

/-! ### Reading and writing -/

/-- The contents of a file after bytes were written at a place in it. A gap before that place is
filled with zeros. -/
def overwrite (data : ByteArray) (offset : Nat) (bs : Bytes) : ByteArray :=
  let written := bs.toByteArray
  if data.size = offset then data ++ written
  else
    let gap := (List.replicate (offset - data.size) 0).toByteArray
    data.extract 0 offset ++ gap ++ written ++ data.extract (offset + written.size) data.size

/-- Write to an open file. -/
def write (fs : FileSystem) (h : Handle) (bs : Bytes) : Except Cause (Handle × FileSystem) :=
  if bs = [] then .ok (h, fs)
  else match fs.node? h.node with
    | some (.regular data mode) =>
      let offset := if h.append then data.size else h.offset
      .ok ({ h with offset := offset + bs.length },
        fs.set h.node (.regular (overwrite data offset bs) mode))
    | some (.pipe pipe) => .ok (h, fs.set h.node (.pipe (pipe.append bs)))
    | some (.device .full) => .error .noSpace
    | _ => .ok (h, fs)

/-- What there is to read from an open file. -/
def remaining (fs : FileSystem) (h : Handle) : Except Cause Bytes :=
  match fs.node? h.node with
  | some (.regular data _) => .ok (bytesOf (data.extract h.offset data.size))
  | some (.pipe pipe) => .ok pipe.bytes
  | some (.directory ..) => .error .isDirectory
  | _ => .ok []

/-- Use up bytes of an open file. -/
def advance (fs : FileSystem) (h : Handle) (n : Nat) : Handle × FileSystem :=
  match fs.node? h.node with
  | some (.pipe pipe) => (h, fs.set h.node (.pipe (pipe.advance n)))
  | _ => ({ h with offset := h.offset + n }, fs)

/-- How many bytes of a regular file are looked at together. -/
def blockSize : Nat := 8192

/-- Some of what there is to read from an open file; there is some unless nothing is left. -/
def available (fs : FileSystem) (h : Handle) : Except Cause Bytes :=
  match fs.node? h.node with
  | some (.pipe pipe) => .ok pipe.peek
  | some (.regular data _) => .ok (bytesOf (data.extract h.offset (h.offset + blockSize)))
  | _ => fs.remaining h

/-- Make a pipe. -/
def newPipe (fs : FileSystem) (pipe : Pipe) : NodeId × FileSystem :=
  (.pipe fs.pipes.size, { fs with pipes := fs.pipes.push pipe })

/-! ### Removing -/

/-- A directory stands at or below another one; it is found by going up at most so many times. -/
def isWithin (fs : FileSystem) (top : NodeId) : Nat → NodeId → Bool
  | 0, id => id == top
  | steps + 1, id =>
    id == top || match fs.node? id with
      | some (.directory parent _ _ _) => parent != id && isWithin fs top steps parent
      | _ => false

/-- The node at a place after the directory `top` was removed: what stood at or below it is gone. -/
def withered (fs : FileSystem) (top id : NodeId) : Node → Node
  | .directory parent entries alive mode =>
    if fs.isWithin top fs.nodes.size id then .directory parent [] false mode
    else .directory parent (entries.filter (·.2 ≠ top)) alive mode
  | node => node

/-- Remove what stands at the end of a path, with everything below it; a symbolic link is removed
itself. -/
def remove (fs : FileSystem) (cwd : NodeId) (path : String) : Except Cause FileSystem := do
  let id ← fs.find cwd path false
  return { fs with nodes := fs.nodes.mapIdx fun i node => fs.withered id (.entry i) node }

/-! ### Setting up -/

/-- Something to be put into a file system. -/
inductive Item where
  /-- A directory. -/
  | directory
  /-- A regular file. One that exists already keeps its permission bits. -/
  | regular (data : Bytes)
  /-- Anything else. -/
  | node (node : Node)

/-- Put something at the end of a path, with the directories above it. -/
def install (fs : FileSystem) (cwd : NodeId) (path : String) (item : Item) : FileSystem :=
  let fs := (fs.makeDirectories cwd ((Path.parent? path).getD "")).2
  let put (node : Node) : FileSystem :=
    match fs.locate maxLinks maxLinks cwd path with
    | .ok (.vacant dir name) => fs.add dir name node
    | .ok (.taken id) => fs.set id node
    | .error _ => fs
  let oldMode : Nat := match fs.stat cwd path with
    | .ok (.regular _ mode) => mode
    | _ => newMode
  match item with
  | .directory => (fs.makeDirectories cwd path).2
  | .regular data => put (.regular data.toByteArray oldMode)
  | .node node => put node

/-- Change the permission bits of what stands at the end of a path. -/
def setMode (fs : FileSystem) (cwd : NodeId) (path : String) (mode : Nat) : FileSystem :=
  match fs.find cwd path with
  | .error _ => fs
  | .ok id =>
    match fs.node? id with
    | some (.regular data _) => fs.set id (.regular data mode)
    | some (.directory parent entries alive _) => fs.set id (.directory parent entries alive mode)
    | _ => fs

/-! ### Taking stock -/

/-- The directories and regular files below a directory, with their paths from there, down to a
depth. A directory has no contents of its own. -/
def below (fs : FileSystem) : Nat → String → NodeId → List (String × Option Bytes)
  | 0, _, _ => []
  | depth + 1, above, dir =>
    match fs.node? dir with
    | some (.directory _ entries _ _) =>
      entries.flatMap fun (name, id) =>
        match fs.node? id with
        | some (.regular data _) => [(above ++ name, some (bytesOf data))]
        | some (.directory ..) =>
          (above ++ name ++ "/", none) :: below fs depth (above ++ name ++ "/") id
        | _ => []
    | _ => []

/-- The directories and regular files below a directory, with their paths from there. -/
def contents (fs : FileSystem) (dir : NodeId) : List (String × Option Bytes) :=
  fs.below fs.nodes.size "" dir

/-- What is in one file system below a directory and was not, or not so, in an earlier one. -/
def changes (before after : FileSystem) (dir : NodeId) : List (String × Option Bytes) :=
  let old := before.contents dir
  (after.contents dir).filter fun item => ! old.contains item

/-- Everything at or below a place can be looked at, down to a depth. -/
def isOpenBook (fs : FileSystem) : Nat → NodeId → Bool
  | 0, _ => true
  | depth + 1, id =>
    match fs.node? id with
    | some (.directory parent entries alive mode) =>
      let node := Node.directory parent entries alive mode
      node.permits Node.readBit &&
        (entries.isEmpty || node.permits Node.searchBit) &&
        entries.all fun (_, id) => isOpenBook fs depth id
    | some (.regular data mode) => (Node.regular data mode).permits Node.readBit
    | _ => true

/-- Everything below a directory can be looked at. -/
def isReadable (fs : FileSystem) (dir : NodeId) : Bool := fs.isOpenBook fs.nodes.size dir

end FileSystem

end LineShell
