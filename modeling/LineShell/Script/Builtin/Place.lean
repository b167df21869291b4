import LineShell.Script.Builtin.Bindings

/-!
# Where a script works

The built-in commands that change the directory in which a script works, and the permissions of the
files that it makes.
-/

namespace LineShell.Script

/-- The path of the working directory as the machine knows it, or a complaint. -/
def physicalDirectory : Eval Chars := do
  let m ← get
  match m.files.pathOf m.process.cwd with
  | .ok path => return ofString path
  | .error cause =>
    warn ("getcwd() failed: ".toList ++ (causeText cause).toList)
    return []

/-- Remember where the script works: at a path, or where the machine says. -/
def setDirectory (path : Option Chars) (keepOld : Bool) : Eval Unit := do
  let old := ((← process).directory).getD []
  if keepOld then assign "OLDPWD".toList (some old) { exported := true }
  let path ← match path with
    | some path => pure path
    | none => physicalDirectory
  modifyProcess fun p => { p with directory := some path }
  assign "PWD".toList (some path) { exported := true }

/-- The names of a path, with dots resolved, last one first. -/
def resolveDots : List Chars → List Chars → List Chars
  | done, [] => done
  | done, name :: rest =>
    if name.isEmpty || name == ['.'] then resolveDots done rest
    else if name == ['.', '.'] then resolveDots done.tail rest
    else resolveDots (name :: done) rest

/-- The texts between slashes. -/
def pathParts (cs : Chars) : List Chars := pieces (· == '/') cs

/-- A path from the root, with dots resolved. Two slashes at the start are kept. -/
def logicalPath (directory path : Chars) : Option Chars :=
  let isAbsolute := path.head? == some '/'
  if ! isAbsolute && directory.isEmpty then none
  else
    let slashes := ((if isAbsolute then path else directory).takeWhile (· == '/')).length
    let front : Chars := if slashes = 2 then ['/', '/'] else ['/']
    let whole := if isAbsolute then path else directory ++ '/' :: path
    some (front ++ ['/'].intercalate (resolveDots [] (pathParts whole)).reverse)

/-- Go to a directory; tells whether that worked. With `physical` the machine says where that is. -/
def goTo (path : Chars) (physical : Bool) : Eval Bool := do
  let p ← process
  let logical := if physical then none else logicalPath (p.directory.getD []) path
  let target := logical.getD path
  let m ← get
  let place : Except Cause NodeId := do
    let id ← m.files.find m.process.cwd (shown target)
    m.files.admits id
    return id
  match place with
  | .error _ => return false
  | .ok id =>
    modifyProcess fun p =>
      { p with cwd := id, tracked := p.tracked.map fun t => { t with stale := true } }
    setDirectory logical true
    return true

/-- Whether options ask for the directory as the machine knows it. -/
def wantsPhysical (options : List (Char × Chars)) : Bool := options.getLast?.map (·.1) == some 'P'

/-- A path that starts with a dot, or two, as a name of its own. -/
def startsWithDots (path : Chars) : Bool :=
  let first := path.takeWhile (· ≠ '/')
  first == ['.'] || first == ['.', '.']

/-- The directories in which others are searched, each with the path there and whether it is told. -/
def searchedPlaces (list : Option Chars) (path : Chars) : List (Chars × Bool) :=
  match list with
  | none => []
  | some list => (pieces (· == ':') list).map fun dir =>
      if dir.isEmpty then (path, false) else (dir ++ '/' :: path, true)

/-- Change the working directory. -/
def cdCommand : Action := fun args => do
  let (options, args) ← takeOptions ['L', 'P'] [] args
  let physical := wantsPhysical options
  let bindings := (← process).bindings
  let (target, tells) := match args.head? with
    | none => ((bindings.value? "HOME").getD [], false)
    | some ['-'] => ((bindings.value? "OLDPWD").getD [], true)
    | some path => (path, false)
  let m ← get
  let isDirectory (path : Chars) : Bool := m.files.isDirectory m.process.cwd (shown path)
  let isDirect := target.head? == some '/' || startsWithDots target
  let dest := if target.isEmpty then ['.'] else target
  let found := if isDirect then none
    else (searchedPlaces (bindings.value? "CDPATH") dest).find? fun (path, _) => isDirectory path
  let (path, isTold) := found.getD (dest, false)
  if ! (← goTo path physical) then fault ("can't cd to ".toList ++ dest)
  if tells || isTold then sayLine (((← process).directory).getD [])
  return 0

/-- Print the working directory. -/
def pwdCommand : Action := fun args => do
  let (options, _) ← takeOptions ['L', 'P'] [] args
  if wantsPhysical options then sayLine (← physicalDirectory)
  else sayLine (((← process).directory).getD [])
  return 0

/-! ### Permissions of new files -/

/-- The permission bits in words. -/
def permissionText (mode : Nat) : Chars :=
  let part (who : Char) (shift : Nat) : Chars :=
    let bits := mode >>> shift
    who :: '=' :: (if bits &&& 4 ≠ 0 then ['r'] else []) ++ (if bits &&& 2 ≠ 0 then ['w'] else []) ++
      (if bits &&& 1 ≠ 0 then ['x'] else [])
  part 'u' 6 ++ ',' :: part 'g' 3 ++ ',' :: part 'o' 0

/-- The bits of those whom letters name. -/
def whoBits (cs : Chars) : Nat :=
  cs.foldl (fun bits c => bits ||| match c with
    | 'u' => 0o700
    | 'g' => 0o070
    | 'o' => 0o007
    | _ => 0o777) 0

/-- The permissions that letters name, for everybody. -/
def permissionBits (cs : Chars) : Nat :=
  cs.foldl (fun bits c => bits ||| match c with
    | 'r' => 0o444
    | 'w' => 0o222
    | 'x' => 0o111
    | _ => 0) 0

/-- The permission bits after one change in words. -/
def changeMode? (mode : Nat) (clause : Chars) : Option Nat :=
  let who := clause.takeWhile ['u', 'g', 'o', 'a'].contains
  match clause.drop who.length with
  | op :: perms =>
    if ! perms.all ['r', 'w', 'x', 'X', 's', 't'].contains then none
    else
      let whom := if who.isEmpty then 0o777 else whoBits who
      let bits := permissionBits perms &&& whom
      match op with
      | '+' => some (mode ||| bits)
      | '-' => some (mode &&& (bits ^^^ 0o777))
      | '=' => some ((mode &&& (whom ^^^ 0o777)) ||| bits)
      | _ => none
  | [] => none

/-- Show or change which permissions new files do not get. -/
def umaskCommand : Action := fun args => do
  let (options, args) ← takeOptions ['S'] [] args
  let mask := (← process).umask
  match args.head? with
  | none =>
    sayLine (if options.isEmpty then
      let digits := Nat.toDigits 8 mask
      List.replicate (4 - digits.length) '0' ++ digits
    else permissionText (mask ^^^ 0o777))
  | some arg =>
    if (arg.head?.map Char.isDigit) == some true then
      if arg.all (isDigitOf 8) then
        let n := arg.foldl (fun n c => 8 * n + (digitValue c).getD 0) 0
        modifyProcess fun p => { p with umask := n &&& 0o777 }
      else badNumber arg
    else match (pieces (· == ',') arg).foldlM changeMode? (mask ^^^ 0o777) with
      | some mode => modifyProcess fun p => { p with umask := mode ^^^ 0o777 }
      | none => fault ("Illegal mode: ".toList ++ arg)
  return 0

end LineShell.Script
