import LineShell.Script.Builtin.Control

/-!
# Running commands

What each command does.

## The model

`evalTree` runs one command and leaves the commands within it to another `Runner`, so it says what a
command does and nothing about how deep commands may stand within commands. `runner` closes the
circle down to a depth: beyond it the process has no more room to work in, and is killed.
-/

namespace LineShell.Script

/-- The command that runs is on this line. -/
@[inline] def setLine (line : Nat) : Eval Unit := modifyProcess fun p => { p with line }

/-! ### Loops -/

/-- Which commands are passed over after the body of a loop. -/
def skipLoop : Eval Skip := do
  let p ← process
  match p.skip with
  | .none => return .none
  | .return own => return .return own
  | skip =>
    let count := p.skipCount - 1
    modifyProcess fun p => { p with skipCount := count, skip := if count = 0 then .none else skip }
    return if count = 0 then skip else .break

/-- The loop goes on although commands were passed over. -/
def goesOn (skip : Skip) : Bool := skip == .none || skip == .continue

/-- Run something as the body of a loop. -/
@[inline] def inLoop (body : Eval α) : Eval α := do
  modifyProcess fun p => { p with loops := p.loops + 1 }
  let result ← body
  modifyProcess fun p => { p with loops := p.loops - 1 }
  return result

/-- How many rounds a loop may have. -/
def roundLimit : Nat := 0xFFFFFFFFFFFF

/-- A loop with a test, of at most so many rounds. -/
def evalLoop (run : Runner) (mode : Mode) (succeeds : Bool) (test body : Command) :
    Nat → Nat → Eval Nat
  | 0, status => return status
  | bound + 1, status => do
    let tested ← run { tested := true } test
    match ← skipLoop with
    | .none =>
      if (tested == 0) == succeeds then
        let status ← run { tested := mode.tested } body
        if goesOn (← skipLoop) then evalLoop run mode succeeds test body bound status
        else return status
      else return status
    | .continue => evalLoop run mode succeeds test body bound status
    | .return true => return tested
    | _ => return status

/-- A loop over values. -/
def evalEach (run : Runner) (mode : Mode) (name : String) (body : Command) :
    List Chars → Nat → Eval Nat
  | [], status => return status
  | value :: values, _ => do
    setVariable name value
    let status ← run { tested := mode.tested } body
    if goesOn (← skipLoop) then evalEach run mode name body values status else return status

/-! ### Choices -/

/-- The first of some patterns stands for a text; they are expanded as they are needed. -/
def matchesAny (run : Runner) (text : Chars) : List Word → Eval Bool
  | [] => return false
  | word :: words => do
    if (← expandPattern (outputOf run) word).accepts text then return true
    else matchesAny run text words

/-- The arm of a choice by patterns that is taken. -/
def chooseArm (run : Runner) (text : Chars) :
    List (List Word × Option Command) → Eval (Option Command)
  | [] => return none
  | (patterns, body) :: arms => do
    if ← matchesAny run text patterns then return body else chooseArm run text arms

/-! ### Other processes -/

/-- Run a command in a copy of the process, or in the process itself if it has nothing else to do. -/
def evalSubshell (run : Runner) (mode : Mode) (line : Nat) (body : Command)
    (redirects : List Redirect) : Eval Nat := do
  setLine line
  let output := outputOf run
  let redirects ← redirects.mapM (ready output)
  let work (tested : Bool) : Eval Unit := do
    redirects.forM (·.perform output false)
    discard <| run { last := true, tested } body
    throw .leave
  if mode.last && ! hasTraps (← process) then
    work mode.tested
    return 0
  else waitFor run (work mode.tested)

/-- The signals that a command beside the script does not hear. -/
def backgroundDeaf : List Signal := [2, 3]

/-- A process as it runs beside the script: deaf to some signals, and without input of its own if it is
the first of its job. -/
def Process.aside (p : Process) (input : Option Nat) : Process :=
  let p := { p with deaf := backgroundDeaf ++ p.deaf }
  match input with
  | some file => p.bound 0 file
  | none => p

/-- Remember a command that runs beside the script. -/
def addJob (number : Nat) (pids : List Nat) : Eval Unit :=
  modifyProcess fun p => { p with
    lastJob := pids.getLast?
    jobs := { number, members := pids.map (·, none) } :: p.jobs }

/-- An open file with nothing to read. -/
def emptyInput : Eval Nat := openPath "/dev/null".toList .input

/-- Leave a command to a copy of the process that runs beside it, without input of its own. -/
def evalBackground (run : Runner) (body : Command) (redirects : List ReadyRedirect) :
    Eval Nat := do
  let number ← makePlace
  let input ← emptyInput
  let pid ← fork run (·.aside (some input)) do
    redirects.forM (·.perform (outputOf run) false)
    discard <| run { last := true } body
  addJob number [pid]
  return 0

/-- The name of the program that a stage of a pipeline may run, if it is plain to see. -/
def programName? : Command → Option Chars
  | .simple _ _ (word :: _) _ =>
    let name := word.filterMap fun
      | .char c false => some c
      | _ => none
    if name.length = word.length && isName name then some name else none
  | _ => none

/-- Look for the program of a stage, so that it is remembered. -/
def findAhead (stage : Command) : Eval Unit := do
  if let some name := programName? stage then
    let isFunction := ((← process).functions.lookup (String.ofList name)).isSome
    unless isFunction || (Builtin.find? name).isSome do discard <| findTracked name

/-- Start the stages of a pipeline, each of which reads from the one before it; `held` is the descriptor
that holds what the first of them reads. Gives their processes. -/
def startStages (run : Runner) (mode : Mode) (background : Bool) :
    List Command → Option Nat → Eval (List Nat)
  | [], _ => return []
  | stage :: rest, held => do
    findAhead stage
    let input ← match held with
      | some fd => pure ((← process).file? fd)
      | none => if background then some <$> emptyInput else pure none
    let dress (p : Process) : Process :=
      let p := (held.map p.without).getD p
      let p := if background then p.aside none else p
      (input.map (p.bound 0)).getD p
    let body : Eval Unit := discard <| run { mode with last := true } stage
    if rest.isEmpty then
      let pid ← fork run dress body
      held.forM fun fd => bind fd none
      return [pid]
    else
      let (reading, writing) ← newPipe
      let next ← hold reading
      let pid ← fork run (fun p => ((dress p).without next).bound 1 writing) body
      held.forM fun fd => bind fd none
      return pid :: (← startStages run mode background rest (some next))

/-- Run a pipeline and wait for all its stages, or leave it to itself. -/
def evalPipe (run : Runner) (mode : Mode) (stages : List Command) (background : Bool) :
    Eval Nat := do
  let number ← makePlace
  let pids ← startStages run mode background stages none
  if background then
    addJob number pids
    return 0
  else
    let done ← awaitAll pids patience []
    return ((pids.getLast?.bind fun pid => done.lookup pid).map Ending.status).getD 0

/-! ### Functions -/

/-- How many functions may run within one another. -/
def callLimit : Nat := 1000

/-- Run a function with arguments. -/
def evalFunction (run : Runner) (mode : Mode) (f : Function) (args : List Chars) : Eval Unit := do
  let outer ← process
  if callLimit ≤ outer.calls then
    fault ("Maximum function recursion depth (".toList ++ decimal callLimit ++ ") reached".toList)
  modifyProcess fun p =>
    { p with args, calls := p.calls + 1, loops := 0, optionIndex := 1, optionLetter := none }
  andFinally (discard <| run { tested := mode.tested } f.body) do
    modifyProcess fun p => { p with
      args := outer.args, calls := outer.calls, loops := outer.loops
      optionIndex := outer.optionIndex, optionLetter := outer.optionLetter
      skip := match p.skip with
        | .return _ => .none
        | skip => skip }

/-! ### Simple commands -/

/-- What runs for a simple command. -/
inductive Target where
  /-- Nothing but assignments and redirections. -/
  | nothing
  /-- A built-in command. -/
  | builtin (b : Builtin)
  /-- A function. -/
  | function (f : Function)
  /-- A program. -/
  | program

/-- The words of a simple command, partly expanded. -/
structure Expanded where
  /-- What the words expanded so far have come to. -/
  fields : List Chars := []
  /-- The words that are left. -/
  rest : List Word

/-- Expand words until there is a field at a place; tells whether there is one. -/
def Expanded.upTo (output : Option Command → Eval Chars) (place : Nat) :
    List Word → List Chars → Eval (Expanded × Bool)
  | rest, fields => do
    if place < fields.length then return ({ fields, rest }, true)
    else match rest with
      | [] => return ({ fields, rest }, false)
      | word :: rest => upTo output place rest (fields ++ (← expandFields output word))

/-- Expand words to fields, which come after those that are given last one first. -/
def expandRest (output : Option Command → Eval Chars) (assigns : Bool) :
    List Word → List Chars → Eval (List Chars)
  | [], done => return done.reverse
  | word :: rest, done => do
    if let some text := word.text? then expandRest output assigns rest (text :: done)
    else
      let fields ← if assigns && word.isAssignment then
          (fun text => [text]) <$> expandText output { assignment := true } word
        else expandFields output word
      expandRest output assigns rest (fields.reverse ++ done)

/-- What is known about a simple command before its words are all expanded. -/
structure Outline where
  /-- Its words. -/
  words : Expanded
  /-- The place of the command among the fields. -/
  start : Nat := 0
  /-- What runs. -/
  target : Target := .nothing
  /-- Whether it counts as a special command, if it is built in. -/
  special : Option Bool := none
  /-- Its arguments can be assignments. -/
  assigns : Bool := false
  /-- Assignments before it are for it alone. -/
  ownScope : Bool := false
  /-- It is the command that binds descriptors for good. -/
  isExec : Bool := false
  /-- Where programs are searched, if not where the script says. -/
  list : Option Chars := none

/-- The options of the command that runs commands, from a place on, of which there are at most so many.
Gives the words, and the place of the command to run and where it is searched, if there is one. -/
def commandOptions (output : Option Command → Eval Chars) :
    Nat → Nat → Option Chars → Expanded → Eval (Expanded × Option (Nat × Option Chars))
  | 0, _, _, words => return (words, none)
  | bound + 1, place, list, words => do
    let (words, found) ← Expanded.upTo output place words.rest words.fields
    if ! found then return (words, none)
    else match (words.fields[place]?).getD [] with
      | ['-', '-'] =>
        let (words, found) ← Expanded.upTo output (place + 1) words.rest words.fields
        return (words, if found then some (place + 1, list) else none)
      | '-' :: c :: cs =>
        if (c :: cs).all (· == 'p') then
          commandOptions output bound (place + 1) (some usualPath) words
        else return (words, none)
      | _ => return (words, some (place, list))

/-- Find out what runs for a simple command, going through the command that runs commands at most so
many times. -/
def outline (output : Option Command → Eval Chars) : Nat → Outline → Eval Outline
  | 0, o => return o
  | bound + 1, o => do
    let name := (o.words.fields[o.start]?).getD []
    let isNamed := ! name.contains '/'
    let functions := (← process).functions
    let function := if isNamed && o.start = 0 then functions.lookup (String.ofList name) else none
    match function, if isNamed then Builtin.find? name else none with
    | some f, _ => return { o with target := .function f, ownScope := true }
    | none, some b =>
      let special := o.special.getD b.special
      let o := { o with
        target := .builtin b, special := some special, assigns := b.assigns
        ownScope := o.ownScope || ! special, isExec := name == "exec".toList }
      if name ≠ "command".toList then return o
      else
        let (words, next) ← commandOptions output 0xFFFF (o.start + 1) o.list o.words
        match next with
        | none => return { o with words }
        | some (start, list) => outline output bound { o with words, start, list }
    | none, none => return { o with target := .program, ownScope := true }

/-- The text that stands before a command that is told. -/
def traceMark (run : Runner) : Eval Chars := do
  let p ← process
  let text := (p.bindings.value? "PS4").getD []
  tryCatch (do
    match Reader.readTemplate p.docs text with
    | .error e => syntaxFault e
    | .ok (word, docs) =>
      modifyProcess fun p => { p with docs }
      expandText (outputOf run) {} word) fun
  | .fault => return text
  | stop => throw stop

/-- Tell a command before it is run. -/
def trace (run : Runner) (id : Option Nat) (texts : List Chars) : Eval Unit := do
  let p ← process
  match id with
  | none => pure ()
  | some id =>
    if ! p.tracing then
      modifyProcess fun p => { p with tracing := true }
      let mark ← traceMark run
      modifyProcess fun p => { p with tracing := false }
      discard <| writeHandle id (mark ++ [' '].intercalate texts ++ ['\n'])

/-- Make the assignments of a command; gives their texts. -/
def makeAssignments (run : Runner) (o : Outline) (isExported : Bool) (words : List Word) :
    Eval (List Chars) :=
  words.mapM fun word => do
    let text ← expandText (outputOf run) { assignment := true } word
    if o.ownScope then makeLocal text { exported := true }
    else
      let (name, value) := splitAssignment text
      assign name (some (value.getD [])) { exported := isExported }
    return text

/-- Run a built-in command, and tell why it stopped, if it did. What it has to say is written at its
end. -/
def runBuiltin (run : Runner) (mode : Mode) (b : Builtin) (argv : List Chars) :
    Eval (Option Stop) := do
  let outer := (← process).command
  modifyProcess fun p => { p with command := argv.head? }
  let stop ← tryCatch (do
    let status ← b.action run mode argv.tail
    if ← flush then setStatus status
    else
      let name := ((← process).command).getD []
      warn (name ++ ": I/O error".toList)
      setStatus (status ||| 1)
    return none) fun stop => return some stop
  modifyProcess fun p => { p with command := outer, unsaid := [] }
  return stop

/-- Run a program, in the process itself if it has nothing else to do. -/
def runProgram (run : Runner) (mode : Mode) (o : Outline) (argv : List Chars) : Eval Nat := do
  let name := argv.headD []
  let list ← match o.list with
    | some list => pure list
    | none => searchList
  let found ← if name.contains '/' then pure (.ok name)
    else if o.list.isSome then findProgram list name
    else findTracked name
  match found with
  | .error cause =>
    warn (notRun name cause)
    return 127
  | .ok _ =>
    let work : Eval Unit := do throw (.ended (← execute run list argv))
    if mode.last && ! hasTraps (← process) then
      work
      return 0
    else waitFor run work

/-- Run what an outline tells, with all words expanded. -/
def runTarget (run : Runner) (mode : Mode) (o : Outline) (argv : List Chars) : Eval Nat := do
  match o.target with
  | .nothing =>
    let status := (← process).outputStatus
    setStatus status
    return status
  | .builtin b =>
    match ← runBuiltin run mode b argv with
    | none => return (← process).status
    | some .fault => if o.special == some true then throw .fault else return (← process).status
    | some stop => throw stop
  | .function f =>
    evalFunction run mode f argv.tail
    return (← process).status
  | .program => runProgram run mode o argv

/-- Run a simple command. -/
def evalSimple (run : Runner) (mode : Mode) (line : Nat) (assignments words : List Word)
    (redirects : List Redirect) : Eval Nat := do
  let output := outputOf run
  setLine line
  modifyProcess fun p => { p with outputStatus := 0 }
  let (front, isNamed) ← Expanded.upTo output 0 words []
  let o ← if isNamed then outline output 0xFFFF { words := front }
    else pure { words := front }
  let fields ← expandRest output o.assigns o.words.rest o.words.fields.reverse
  let argv := fields.drop o.start
  let scopes := (← process).hidden.length
  if o.ownScope then openScope
  let told := (← process).file? 2
  let redirects ← redirects.mapM (ready output)
  let depth := (← process).kept.length
  openKeeping
  let body : Eval Nat := do
    if ← redirectSafely output redirects then
      let assigned ← if assignments.isEmpty then pure []
        else makeAssignments run o (o.isExec && 1 < argv.length) assignments
      if ← hasOption 'x' then trace run told (assigned ++ fields)
      runTarget run mode o argv
    else
      setStatus 2
      if o.special == some true then throw .fault else return 2
  let status ← if o.isExec then do
      let status ← tryCatch body fun stop => do
        closeKeeping depth (if stop == .fault then bringBack else giveUp)
        throw stop
      closeKeeping depth giveUp
      pure status
    else andFinally body (closeKeeping depth bringBack)
  closeScopes scopes
  return status

/-! ### All commands -/

/-- What a command comes to: its status if it sets one, and whether its failure is a reason to stop. -/
structure Result where
  /-- The status. -/
  status : Option Nat := none
  /-- Its failure is a reason to stop where the script asks for that. -/
  checked : Bool := false

/-- Run a command, without what is done before and after every command. -/
def evalCommandTree (run : Runner) (mode : Mode) : Command → Eval Result
  | .not body => do
    let status ← run { tested := true } body
    if (← process).skip ≠ .none then return {}
    else return { status := some (if status = 0 then 1 else 0) }
  | .redirected line body redirects => do
    setLine line
    let output := outputOf run
    let redirects ← redirects.mapM (ready output)
    let depth := (← process).kept.length
    openKeeping
    let status ← andFinally (do
      if ← redirectSafely output redirects then run { tested := mode.tested } body
      else return 2) (closeKeeping depth bringBack)
    return { status := some status }
  | .simple line assignments words redirects => do
    return { status := some (← evalSimple run mode line assignments words redirects), checked := true }
  | .pipe stages background => do
    return { status := some (← evalPipe run mode stages background), checked := true }
  | .background line body redirects => do
    setLine line
    let redirects ← redirects.mapM (ready (outputOf run))
    return { status := some (← evalBackground run body redirects), checked := true }
  | .subshell line body redirects => do
    return { status := some (← evalSubshell run mode line body redirects), checked := true }
  | .seq first second => do
    discard <| run { tested := mode.tested } first
    if (← process).skip ≠ .none then return {}
    else return { status := some (← run mode second) }
  | .both first second => do
    let status ← run { tested := true } first
    if status ≠ 0 || (← process).skip ≠ .none then return {}
    else return { status := some (← run mode second) }
  | .either first second => do
    let status ← run { tested := true } first
    if status = 0 || (← process).skip ≠ .none then return {}
    else return { status := some (← run mode second) }
  | .cond test yes no => do
    let status ← run { tested := true } test
    if (← process).skip ≠ .none then return {}
    else if status = 0 then return { status := some (← run mode yes) }
    else match no with
      | some no => return { status := some (← run mode no) }
      | none => return { status := some 0 }
  | .loop succeeds test body => do
    return { status := some (← inLoop (evalLoop run mode succeeds test body roundLimit 0)) }
  | .each line name words body => do
    setLine line
    let values := (← words.mapM (expandFields (outputOf run))).flatten
    return { status := some (← inLoop (evalEach run mode name body values 0)) }
  | .select line subject arms => do
    setLine line
    let text ← expandText (outputOf run) { tilde := true } subject
    match ← chooseArm run text arms with
    | some body => return { status := some (← run mode body) }
    | none => return { status := some 0 }
  | .define line name body => do
    modifyProcess fun p =>
      { p with functions := (name, { line, body }) :: p.functions.filter (·.1 ≠ name) }
    return { status := some 0 }

/-- How long a command takes that does not take longer for reasons of its own. -/
def commandTime : Nat := 2

/-- Run a command: do first what is done at the signals that have come, and stop afterwards if that
is what the script asks for. -/
def evalTree (run : Runner) (mode : Mode) (command : Command) : Eval Nat := do
  if ← hasOption 'n' then
    if mode.last then throw .leave else return (← process).status
  else
    Eval.pause commandTime
    unless (← process).arrived.isEmpty do runTraps run
    let result ← evalCommandTree run mode command
    match result.status with
    | some status => setStatus status
    | none => pure ()
    unless (← process).arrived.isEmpty do runTraps run
    let fails := result.checked && ! mode.tested && result.status ≠ some 0
    if fails && (← hasOption 'e') then throw .leave
    if mode.last then throw .leave
    return (← process).status

/-- Runs commands, with commands inside them down to a depth. -/
def runner : Nat → Runner
  | 0, _, _ => throw (.ended (.killed 11))
  | depth + 1, mode, command => evalTree (fun mode command => runner depth mode command) mode command

/-- How deep commands may stand within commands. -/
def runDepth : Nat := 0xFFFFFF

end LineShell.Script
