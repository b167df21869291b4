import LineShell.Script.Scan

/-!
# Reading commands

How the tokens of a script form commands.

## The model

A script is read one complete line at a time: `Reader.readCommand` gives the commands of the next
line, together with those on further lines that they need. Commands within commands are read by the
same functions; `parsers` bounds how deep that goes.
-/

namespace LineShell.Script

/-- Fail at the last token. -/
def unexpected (wanted : Option Token) : Parse α := do
  Reader.fail (.unexpected (← get).last wanted)

/-- Read a token that has to be there. -/
def expect (p : Parsers) (token : Token) : Parse Unit := do
  if (← readToken p) ≠ token then unexpected (some token)

/-- The names of commands that functions cannot have. -/
def specialNames : List String :=
  [".", ":", "break", "continue", "eval", "exec", "exit", "export", "local", "readonly", "return",
    "set", "shift", "times", "trap", "unset"]

/-! ### Redirections -/

/-- The characters of a word without its quotes. -/
def Word.unquoted : Word → Chars
  | .char c _ :: rest => c :: unquoted rest
  | _ :: rest => unquoted rest
  | [] => []

/-- Read the target of the last redirection. -/
def readTarget (p : Parsers) : Parse Redirect := do
  let here := (← get).here
  let redirect := (← get).redirect
  if here.isSome then Reader.check { ending := true }
  if (← readToken p) ≠ .word then unexpected none
  let r ← get
  match here with
  | none => return redirect r.word
  | some strips =>
    let doc := r.docs.size
    let expands := ! r.quoted
    let awaited : Awaited := { doc, ending := r.word.unquoted, strips, expands }
    set { r with docs := r.docs.push [], awaited := r.awaited ++ [awaited] }
    match redirect [] with
    | .here fd _ _ => return .here fd doc expands
    | other => return other

/-- Read the redirections after a command. -/
def readRedirects (p : Parsers) : Nat → List Redirect → Parse (List Redirect)
  | 0, _ => Reader.fail .depth
  | bound + 1, found => do
    if (← readToken p) = .redirect then
      readRedirects p bound (found ++ [← readTarget p])
    else
      Reader.hold
      return found

/-! ### Simple commands -/

/-- A simple command that is being read. -/
structure Draft where
  /-- Its assignments. -/
  assignments : List Word := []
  /-- Its words. -/
  words : List Word := []
  /-- Its redirections. -/
  redirects : List Redirect := []

/-- The name of the function that a draft is the start of. -/
def Draft.functionName? (d : Draft) : Option Word :=
  match d.assignments, d.words, d.redirects with
  | [], [name], [] => some name
  | _, _, _ => none

/-- Read the rest of the definition of a function, after the opening parenthesis. -/
def readFunction (p : Parsers) (name : Word) : Parse Command := do
  expect p .close
  match name.plain? with
  | some cs =>
    if ! isName cs || specialNames.contains (String.ofList cs) then Reader.fail .functionName
    else
      Reader.check .commandBelow
      let line := (← get).line
      return .define line (String.ofList cs) (← p.command)
  | none => Reader.fail .functionName

/-- Read a simple command, of which a part has been read. -/
def readSimple (p : Parsers) (line : Nat) : Nat → Draft → Parse Command
  | 0, _ => Reader.fail .depth
  | bound + 1, d => do
    Reader.check { aliases := d.words.isEmpty }
    match ← readToken p with
    | .word =>
      let word := (← get).word
      if d.words.isEmpty && word.isAssignment then
        readSimple p line bound { d with assignments := d.assignments ++ [word] }
      else readSimple p line bound { d with words := d.words ++ [word] }
    | .redirect =>
      let redirect ← readTarget p
      readSimple p line bound { d with redirects := d.redirects ++ [redirect] }
    | token =>
      match token, d.functionName? with
      | .open, some name => readFunction p name
      | _, _ =>
        Reader.hold
        return .simple line d.assignments d.words d.redirects

/-! ### Compound commands -/

/-- A command that does nothing. -/
def Command.nothing : Command := .simple 0 [] [] []

/-- Read a list that has at least one command. At the end of the text there is none, and what is
missing is found by whoever reads on. -/
def readList (p : Parsers) : Parse Command := do
  return (← p.list .nonempty).getD .nothing

/-- Read a choice after its first word, and after each word that starts another choice. -/
def readCond (p : Parsers) : Nat → Parse Command
  | 0 => Reader.fail .depth
  | bound + 1 => do
    let test ← readList p
    expect p (.keyword .then)
    let yes ← readList p
    match ← readToken p with
    | .keyword .elif => return .cond test yes (some (← readCond p bound))
    | .keyword .else => return .cond test yes (some (← readList p))
    | _ =>
      Reader.hold
      return .cond test yes none

/-- Read words up to another token. -/
def readWords (p : Parsers) : Nat → List Word → Parse (List Word)
  | 0, _ => Reader.fail .depth
  | bound + 1, found => do
    if (← readToken p) = .word then readWords p bound (found ++ [(← get).word]) else return found

/-- All arguments, each by itself. -/
def allArguments : Word := [.mark, .param ['@'] .value false [] true, .mark]

/-- Read a loop over words after its first word. -/
def readFor (p : Parsers) (line : Nat) : Parse Command := do
  let token ← readToken p
  let r ← get
  let name ← match token, r.quoted, r.word.plain? with
    | .word, false, some cs =>
      if isName cs then pure (String.ofList cs) else Reader.fail .loopVariable
    | _, _, _ => Reader.fail .loopVariable
  Reader.check .commandBelow
  let words ← match ← readToken p with
    | .keyword .in => do
      let words ← readWords p p.bound []
      let last := (← get).last
      if last ≠ .newline && last ≠ .semicolon then unexpected none
      pure words
    | token => do
      if token ≠ .semicolon then Reader.hold
      pure [allArguments]
  Reader.check .commandBelow
  expect p (.keyword .do)
  return .each line name words (← readList p)

/-- Read the patterns of an arm, the first of which has been read. -/
def readPatterns (p : Parsers) : Nat → List Word → Parse (List Word)
  | 0, _ => Reader.fail .depth
  | bound + 1, found => do
    let found := found ++ [(← get).word]
    if (← readToken p) = .pipe then
      discard <| readToken p
      readPatterns p bound found
    else return found

/-- Read the arms of a choice by patterns. -/
def readArms (p : Parsers) : Nat → List (List Word × Option Command) →
    Parse (List (List Word × Option Command))
  | 0, _ => Reader.fail .depth
  | bound + 1, found => do
    Reader.check { newlines := true, keywords := true }
    let token ← readToken p
    if token = .keyword .esac then return found
    else
      if token = .open then discard <| readToken p
      let patterns ← readPatterns p p.bound []
      if (← get).last ≠ .close then unexpected (some .close)
      let body ← p.list .any
      let found := found ++ [(patterns, body)]
      Reader.check { newlines := true, keywords := true }
      match ← readToken p with
      | .keyword .esac => return found
      | .endCase => readArms p bound found
      | _ => unexpected (some .endCase)

/-- Read a choice by patterns after its first word. -/
def readCase (p : Parsers) (line : Nat) : Parse Command := do
  if (← readToken p) ≠ .word then unexpected (some .word)
  let subject := (← get).word
  Reader.check .commandBelow
  expect p (.keyword .in)
  return .select line subject (← readArms p p.bound [])

/-- A command with its redirections. -/
def withRedirects (line : Nat) (command : Command) (redirects : List Redirect) : Command :=
  match redirects, command with
  | [], _ => command
  | _, .subshell line body _ => .subshell line body redirects
  | _, _ => .redirected line command redirects

/-- Read one command. -/
def readCommand (p : Parsers) : Parse Command := do
  let line := (← get).line
  let closed (body : Parse Command) (ending : Token) : Parse Command := do
    let command ← body
    expect p ending
    return command
  let finish (command : Parse Command) : Parse Command := do
    let command ← command
    Reader.check .command
    return withRedirects line command (← readRedirects p p.bound [])
  match ← readToken p with
  | .keyword .if => finish (closed (readCond p p.bound) (.keyword .fi))
  | .keyword .while => finish (closed (do
      let test ← readList p
      expect p (.keyword .do)
      return .loop true test (← readList p)) (.keyword .done))
  | .keyword .until => finish (closed (do
      let test ← readList p
      expect p (.keyword .do)
      return .loop false test (← readList p)) (.keyword .done))
  | .keyword .for => finish (closed (readFor p line) (.keyword .done))
  | .keyword .case => finish (readCase p line)
  | .open => finish (closed (do return .subshell line (← readList p) []) .close)
  | .keyword .open => finish (closed (readList p) (.keyword .close))
  | .word | .redirect =>
    Reader.hold
    readSimple p (← get).line p.bound {}
  | _ => unexpected none

/-! ### Lists -/

/-- Read further stages of a pipeline. -/
def readStages (p : Parsers) : Nat → List Command → Parse (List Command)
  | 0, _ => Reader.fail .depth
  | bound + 1, found => do
    Reader.check .commandBelow
    let found := found ++ [← p.command]
    if (← readToken p) = .pipe then readStages p bound found else return found

/-- Read a pipeline. -/
def readPipeline (p : Parsers) : Parse Command := do
  let negated := (← readToken p) = .keyword .bang
  if negated then Reader.check .command else Reader.hold
  let first ← readCommand p
  let command ← if (← readToken p) = .pipe
    then do pure (Command.pipe (← readStages p p.bound [first]) false)
    else pure first
  Reader.hold
  return if negated then .not command else command

/-- Read further pipelines that run depending on the one before. -/
def readAndOr (p : Parsers) : Nat → Command → Parse Command
  | 0, _ => Reader.fail .depth
  | bound + 1, first => do
    match ← readToken p with
    | .and =>
      Reader.check .commandBelow
      readAndOr p bound (.both first (← readPipeline p))
    | .or =>
      Reader.check .commandBelow
      readAndOr p bound (.either first (← readPipeline p))
    | _ =>
      Reader.hold
      return first

/-- A command that nobody waits for. -/
def inBackground : Command → Command
  | .pipe stages _ => .pipe stages true
  | .redirected line body redirects => .background line body redirects
  | command => .background 0 command []

/-- One command after those before it. -/
def after (found : Option Command) (command : Command) : Command :=
  match found with
  | none => command
  | some first => .seq first command

/-- Read a list of commands, of which some have been read. -/
def readListFrom (p : Parsers) (kind : ListKind) : Nat → Option Command → Parse (Option Command)
  | 0, _ => Reader.fail .depth
  | bound + 1, found => do
    Reader.check (if kind = .line then .command else .commandBelow)
    let atEnd : Parse (Option Command) := do
      readDocuments p
      modify fun r => { r with held := true, last := .eof }
      return found
    match ← readToken p with
    | .newline =>
      readDocuments p
      return found
    | .eof => atEnd
    | token =>
      Reader.hold
      if token.endsList && (kind = .any || (kind = .nonempty && found.isSome)) then return found
      else
        let command ← readAndOr p p.bound (← readPipeline p)
        let token ← readToken p
        let command := if token = .background then inBackground command else command
        let found := some (after found command)
        match token with
        | .eof =>
          readDocuments p
          modify fun r => { r with held := true, last := .eof }
          return found
        | .newline =>
          Reader.hold
          readListFrom p kind bound found
        | .background | .semicolon => readListFrom p kind bound found
        | _ =>
          if kind = .line then unexpected none
          else
            Reader.hold
            return found

/-- Read the commands up to a closing parenthesis. The here-documents of the command around are
read later. -/
def readEnclosed (p : Parsers) : Parse (Option Command) := do
  let awaited := (← get).awaited
  modify fun r => { r with awaited := [] }
  let command ← p.list .any
  expect p .close
  readDocuments p
  modify fun r => { r with awaited }
  return command

/-- Read the commands of a text of its own. -/
def readQuoted (p : Parsers) (text : Chars) : Parse (Option Command) := do
  let r ← get
  set { r with text, insertions := [], line := 1, awaited := [], held := false, checks := {} }
  let command ← p.list .any
  readDocuments p
  modify fun inner => { r with docs := inner.docs }
  return command

/-- The functions that read commands, with others inside them down to a depth. -/
def parsers (bound : Nat) : Nat → Parsers
  | 0 =>
    { bound, list := fun _ => Reader.fail .depth, command := Reader.fail .depth
      enclosed := Reader.fail .depth, quoted := fun _ => Reader.fail .depth }
  | depth + 1 =>
    { bound
      list := fun kind r => readListFrom (parsers bound depth) kind bound none r
      command := fun r => readCommand (parsers bound depth) r
      enclosed := fun r => readEnclosed (parsers bound depth) r
      quoted := fun text r => readQuoted (parsers bound depth) text r }

/-- How many symbols or commands may stand in a row, and how deep commands may stand within
commands. -/
def readingLimit : Nat := 0xFFFFFF

/-- What the next line of a script holds. -/
inductive Line where
  /-- Commands, or nothing. -/
  | commands (command : Option Command)
  /-- The script is at its end. -/
  | ended

namespace Reader

/-- Read the commands of the next line. -/
def readLine (r : Reader) : Except SyntaxError (Line × Reader) :=
  let p := parsers readingLimit readingLimit
  let start := { r with held := false, checks := {}, awaited := [] }
  match (p.list .line).run start with
  | .error e => .error e
  | .ok (none, r) => .ok (if r.held && r.last = .eof then .ended else .commands none, r)
  | .ok (some command, r) => .ok (.commands (some command), r)

/-- Read a text in which everything but expansions stands for itself. -/
def readTemplate (docs : Array Word) (text : Chars) : Except SyntaxError (Word × Array Word) :=
  let p := parsers readingLimit readingLimit
  let read : Parse Word := do
    let frame : Frame := { manner := .double, double := true }
    let (s, _) ← Scan.run p (some { text := ['\n', '\n'], strips := false }) readingLimit
      (← Reader.nextJoined readingLimit) { top := frame }
    return s.out.reverse
  match read.run { text, docs } with
  | .error e => .error e
  | .ok (word, r) => .ok (word, r.docs)

end Reader

end LineShell.Script
