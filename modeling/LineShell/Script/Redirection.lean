import LineShell.Script.Expansion

/-!
# Redirections of a script

How the redirections of a command bind descriptors to files, and how the old bindings come back.

## The model

The names in all redirections of a command are found first (`ready`), and only then are files opened,
one after the other (`perform`), and what a descriptor stood for is kept when it is bound for the first
time. The text of a here-document is found when it is opened.
-/

namespace LineShell.Script

/-- A redirection whose names have been found. -/
inductive ReadyRedirect where
  /-- Bind a descriptor to a file. -/
  | file (fd : Nat) (binding : Binding) (path : Chars)
  /-- Bind a descriptor to what another one is bound to, or to nothing. -/
  | copy (fd : Nat) (target : Option Nat)
  /-- Bind a descriptor to a here-document, with or without expansions. -/
  | here (fd : Nat) (doc : Word) (expand : Bool)

/-- The descriptor that a text names; a dash names none. -/
def targetOf (text : Chars) : Eval (Option Nat) := do
  match text with
  | ['-'] => return none
  | [c] => if c.isDigit then return some (c.toNat - 0x30) else bad
  | _ => bad
where
  bad : Eval (Option Nat) := do
    let line := (← process).readingLine
    syntaxFault { line, fault := .descriptor }

/-- Find the names in a redirection. -/
def ready (output : Option Command → Eval Chars) : Redirect → Eval ReadyRedirect
  | .file fd binding name => do
    return .file fd binding (← expandText output { tilde := true } name)
  | .copy fd target => do
    return .copy fd (← targetOf (((← expandFields output target).head?).getD []))
  | .here fd doc expand => do
    return .here fd (((← process).docs[doc]?).getD []) expand

/-- The permission bits of a new file. -/
def newFileMode : Eval Nat := return 0o666 &&& ((← process).umask ^^^ 0o777)

/-- How a file is opened for a binding. -/
def accessOf : Binding → Access
  | .input => .input
  | .output | .force => .output false
  | .append => .output true
  | .both => { reads := true, writes := true, create := true }

/-- Fail because a file could not be opened. -/
def openFault (creates : Bool) (path : Chars) (cause : Cause) : Eval α :=
  let (verb, attempt) := if creates then ("create", Attempt.creating) else ("open", Attempt.opening)
  fault (("cannot " ++ verb ++ " ").toList ++ path ++ ": ".toList ++
    (attemptText cause attempt).toList)

/-- Open a file; the number of the open file. -/
def openPath (path : Chars) (access : Access) : Eval Nat := do
  let m ← get
  match m.files.openWith m.process.cwd (shown path) access (← newFileMode) with
  | .error cause => openFault access.create path cause
  | .ok (handle, files) =>
    set { m with files }
    newHandle handle

/-- Open a file to write to it where files are protected from losing their contents. -/
def openProtected (path : Chars) : Eval Nat := do
  let m ← get
  match m.files.stat m.process.cwd (shown path) with
  | .error _ => openPath path { writes := true, create := true, exclusive := true }
  | .ok (.regular ..) => openFault true path .fileExists
  | .ok _ => openPath path { writes := true }

/-- Make a pipe that holds a text; the number of its open end. -/
def pipeOf (text : Chars) : Eval Nat := do
  let m ← get
  let (node, files) := m.files.newPipe (.unbounded (toBytes text))
  set { m with files }
  newHandle { node, reads := true, writes := false }

/-- Do something, and then something else, whether the first was done or stopped. -/
def andFinally (body : Eval α) (after : Eval Unit) : Eval α := do
  let result ← tryCatch body fun stop => do
    after
    throw stop
  after
  return result

/-- Carry out a redirection. With `keeps` what its descriptor stood for is kept first; so a message on a
descriptor that cannot be copied is lost if it was to go there. -/
def ReadyRedirect.perform (output : Option Command → Eval Chars) (keeps : Bool) :
    ReadyRedirect → Eval Unit
  | .file fd binding path => do
    let guarded := binding == .output && (← hasOption 'C')
    let id ← if guarded then openProtected path else openPath path (accessOf binding)
    if keeps then keep fd
    bind fd (some id)
  | .copy fd target => do
    if target = some fd then pure ()
    else
      if keeps then keep fd
      match target with
      | none => bind fd none
      | some target =>
        match (← process).file? target with
        | some id => bind fd (some id)
        | none => fault (decimal target ++ ": Bad file descriptor".toList)
  | .here fd doc expands => do
    let text ← if expands then expandText output {} doc else pure (Word.unquoted doc)
    let id ← pipeOf text
    if keeps then keep fd
    bind fd (some id)

/-- Carry out redirections, keeping what descriptors stood for, and tell whether that worked. -/
def redirectSafely (output : Option Command → Eval Chars) (redirects : List ReadyRedirect) :
    Eval Bool :=
  tryCatch (do
    redirects.forM (·.perform output true)
    return true) fun
  | .fault => return false
  | stop => throw stop

end LineShell.Script
