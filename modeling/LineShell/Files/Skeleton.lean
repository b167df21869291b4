import LineShell.Files.Change

/-!
# A file system to start from

The directories and devices that every system has, and the programs that the machine runs by itself,
above all the interpreter that scripts name. None of it may be changed, except that everybody can make
files for a time in one directory.
-/

namespace LineShell

/-- A program that the machine runs by itself. -/
inductive Tool where
  /-- Runs scripts. -/
  | interpret
  /-- Copies files to its output, one after the other. -/
  | concatenate
  /-- Does nothing, and succeeds. -/
  | succeed
  /-- Does nothing, and fails. -/
  | fail
  deriving DecidableEq, Repr

namespace Tool

/-- All tools, with the names of their files. -/
def all : List (String × Tool) :=
  [("dash", .interpret), ("cat", .concatenate), ("true", .succeed), ("false", .fail)]

/-- The first bytes of the file of a tool. -/
def mark : Bytes := [0x7F, 0x45, 0x4C, 0x46]

/-- The contents of the file of a tool. -/
def data (name : String) : Bytes := mark ++ Text.encode name

/-- The tool that a file holds. -/
def ofData? (bs : Bytes) : Option Tool := (all.find? fun (name, _) => data name = bs).map (·.2)

end Tool

namespace FileSystem

/-- The file of the script interpreter. -/
def interpreterPath : String := "/bin/sh"

/-- Directories that can be read and searched, and nothing more. -/
def commonDirectories : List String :=
  ["/usr/bin", "/usr/lib", "/usr/local/bin", "/usr/sbin", "/usr/share", "/etc", "/home", "/var/tmp",
    "/opt", "/mnt", "/media", "/srv", "/run", "/sys", "/proc/self/fd", "/dev/shm", "/tmp"]

/-- Links, by their paths. -/
def commonLinks : List (String × String) :=
  [("/bin", "usr/bin"), ("/lib", "usr/lib"), ("/sbin", "usr/sbin"), ("/usr/bin/sh", "dash"),
    ("/dev/fd", "/proc/self/fd"), ("/dev/stdin", "/proc/self/fd/0"),
    ("/dev/stdout", "/proc/self/fd/1"), ("/dev/stderr", "/proc/self/fd/2")]

/-- Everything else, by its path. -/
def commonNodes : List (String × Node) :=
  [("/dev/null", .device .null), ("/dev/full", .device .full), ("/dev/zero", .device .zero),
    ("/dev/tty", .device .terminal)] ++
    Tool.all.map (fun (name, _) => ("/usr/bin/" ++ name, .regular (Tool.data name).toByteArray 0o755)) ++
    (List.range 10).map fun number => ("/proc/self/fd/" ++ toString number, .descriptor number)

/-- Directories in which everybody may make files. -/
def publicDirectories : List String := ["/tmp", "/var/tmp", "/dev/shm"]

/-- Directories that nobody may look into. -/
def privateDirectories : List String := ["/root"]

/-- The file system with every directory closed to changes. -/
def frozen (fs : FileSystem) : FileSystem :=
  { fs with nodes := fs.nodes.map fun
    | .directory parent entries alive _ => .directory parent entries alive 0o555
    | .regular data mode => .regular data (mode &&& 0o555)
    | node => node }

/-- The usual directories, devices and links, and the script interpreter. -/
def skeleton : FileSystem :=
  let items := (commonDirectories ++ privateDirectories).map (·, Item.directory) ++
    commonLinks.map (fun (path, target) => (path, .node (.link target))) ++
    commonNodes.map fun (path, node) => (path, .node node)
  let fs := (items.foldl (fun fs (path, item) => fs.install root path item)
    ({} : FileSystem)).frozen
  let fs := publicDirectories.foldl (fun fs path => fs.setMode root path 0o777) fs
  privateDirectories.foldl (fun fs path => fs.setMode root path 0) fs

end FileSystem

end LineShell
