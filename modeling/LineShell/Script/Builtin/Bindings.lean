import LineShell.Script.Builtin.Options

/-!
# Variables, arguments and options

The built-in commands that change what a script knows: its variables, its arguments and its options.
-/

namespace LineShell.Script

/-! ### Variables -/

/-- What an assignment does besides giving a value. -/
structure Marks where
  /-- The variable is exported. -/
  exported : Bool := false
  /-- The variable can no longer be changed. -/
  fixed : Bool := false
  deriving DecidableEq, Repr

/-- A variable with more marks. -/
def Variable.marked (v : Variable) (marks : Marks) : Variable :=
  { v with exported := v.exported || marks.exported, fixed := v.fixed || marks.fixed }

/-- Mark a variable. -/
def mark (name : String) (marks : Marks) : Eval Unit :=
  modifyProcess fun p =>
    { p with bindings := p.bindings.set name ((p.bindings.get name).marked marks) }

/-- Give a variable a value, or take it away, and mark it. -/
def assign (name : Chars) (value : Option Chars) (marks : Marks := {}) : Eval Unit := do
  if ! isName name then fault (name ++ ": bad variable name".toList)
  let name := String.ofList name
  match value with
  | some value => setVariable name value
  | none =>
    let old := (← process).bindings.get name
    if old.fixed then fault (name.toList ++ ": is read only".toList)
    modifyProcess fun p => { p with bindings := p.bindings.set name { old with value := none } }
  mark name marks

/-- Forget a variable. -/
def forget (name : Chars) : Eval Unit := do
  assign name none
  modifyProcess fun p => { p with bindings := p.bindings.erase (String.ofList name) }

/-- Show variables as commands that set them. -/
def showVariables (command : String) (shows : Variable → Bool) : Eval Unit := do
  let front := if command.isEmpty then [] else command.toList ++ [' ']
  ((← process).bindings.sorted.filter (shows ·.2)).forM fun (name, v) =>
    sayLine (front ++ name.toList ++ match v.value with
      | some value => '=' :: singleQuoted value
      | none => [])

/-- The name and the value of an argument, which may have no value. -/
def splitAssignment (arg : Chars) : Chars × Option Chars :=
  match arg.span (· ≠ '=') with
  | (name, _ :: value) => (name, some value)
  | (name, []) => (name, none)

/-- Mark variables, and give them values. -/
def markVariables (command : String) (marks : Marks) (shows : Variable → Bool) : Action :=
  fun args => do
    let (options, args) ← takeOptions ['p'] [] args
    if ! options.isEmpty || args.isEmpty then showVariables command shows
    else args.forM fun arg => do
      match splitAssignment arg with
      | (name, some value) => assign name (some value) marks
      | (name, none) =>
        if ((← process).bindings.lookup (String.ofList name)).isSome then
          mark (String.ofList name) marks
        else assign name none marks
    return 0

/-- Export variables. -/
def exportVariables : Action := markVariables "export" { exported := true } (·.exported)

/-- Make variables constant. -/
def fixVariables : Action := markVariables "readonly" { fixed := true } (·.fixed)

/-- Make a variable local to the innermost function, and give it a value. -/
def makeLocal (arg : Chars) (marks : Marks := {}) : Eval Unit := do
  let hide (h : Hidden) : Eval Unit := modifyProcess fun p =>
    { p with hidden := match p.hidden with
        | [] => []
        | inner :: outer => (h :: inner) :: outer }
  if arg == ['-'] then hide (.options (← process).options)
  else
    let (name, value) := splitAssignment arg
    let old := (← process).bindings.lookup (String.ofList name)
    if value.isSome || old.isNone then assign name value marks
    hide (.binding (String.ofList name) old)

/-- Make variables local to the innermost function. -/
def localVariables : Action := fun args => do
  if (← process).hidden.isEmpty then fault "not in a function".toList
  (← withoutOptions args).forM fun arg => makeLocal arg
  return 0

/-- Bring back what a local variable stood in for. -/
def Hidden.reveal : Hidden → Eval Unit
  | .options were => modifyProcess fun p => { p with options := were }
  | .binding name none => modifyProcess fun p => { p with bindings := p.bindings.erase name }
  | .binding name (some was) => do
    modifyProcess fun p => { p with bindings := p.bindings.set name was }
    if name = "OPTIND" then
      let n := ((was.value.bind (number? 10 false)).getD 1).toNat
      modifyProcess fun p => { p with optionIndex := if n = 0 then 1 else n, optionLetter := none }
    if name = "PATH" then modifyProcess fun p => { p with tracked := [] }

/-- Start a scope for local variables. -/
def openScope : Eval Unit := modifyProcess fun p => { p with hidden := [] :: p.hidden }

/-- Close the innermost scopes, until so many are left. -/
def closeScopes (left : Nat) : Eval Unit := do
  let hidden := (← process).hidden
  let closing := hidden.take (hidden.length - left)
  closing.forM fun scope => scope.forM Hidden.reveal
  modifyProcess fun p => { p with hidden := hidden.drop (hidden.length - left) }

/-- Forget variables or functions. -/
def unset : Action := fun args => do
  let (options, args) ← takeOptions ['v', 'f'] [] args
  let functions := options.getLast?.map (·.1) == some 'f'
  args.forM fun arg =>
    if functions then
      modifyProcess fun p =>
        { p with functions := p.functions.filter (·.1 ≠ String.ofList arg) }
    else forget arg
  return 0

/-! ### Options -/

/-- The options that have names, with their letters. Two have none that can be given. -/
def optionNames : List (String × Char) :=
  [("errexit", 'e'), ("noglob", 'f'), ("ignoreeof", 'I'), ("interactive", 'i'), ("monitor", 'm'),
    ("noexec", 'n'), ("stdin", 's'), ("xtrace", 'x'), ("verbose", 'v'), ("vi", 'V'), ("emacs", 'E'),
    ("noclobber", 'C'), ("allexport", 'a'), ("notify", 'b'), ("nounset", 'u'), ("privileged", 'p'),
    ("nolog", '\x01'), ("debug", '\x02')]

/-- Turn an option on or off. -/
def turn (letter : Char) (on : Bool) : Eval Unit :=
  modifyProcess fun p =>
    let others := p.options.filter (· ≠ letter)
    let others := if on && letter == 'V' then others.filter (· ≠ 'E')
      else if on && letter == 'E' then others.filter (· ≠ 'V') else others
    { p with options := if on then letter :: others else others }

/-- Turn the option of a letter on or off. -/
def setOption (letter : Char) (on : Bool) : Eval Unit := do
  if letter.toNat > 2 && optionNames.any (·.2 == letter) then turn letter on
  else fault ("Illegal option -".toList ++ [letter])

/-- Turn the option of a name on or off. -/
def setNamedOption (name : Chars) (on : Bool) : Eval Unit := do
  match optionNames.lookup (String.ofList name) with
  | some letter => turn letter on
  | none => fault ("Illegal option -o ".toList ++ name)

/-- Show all options. While the script interpreter starts, all of them may yet be on. -/
def showOptions (asCommands starting : Bool) : Eval Unit := do
  let own := (← process).options
  let options := if starting then optionNames.map (·.2) else own
  if ! asCommands then sayLine "Current option settings".toList
  optionNames.forM fun (name, letter) =>
    let isOn := options.contains letter
    sayLine (if asCommands then ("set " ++ (if isOn then "-o " else "+o ") ++ name).toList
      else name.toList ++ List.replicate (16 - name.length) ' ' ++
        (if isOn then "on" else "off").toList)

/-- What the arguments of the script interpreter say besides options. -/
structure Extra where
  /-- The text of the script is an argument. -/
  command : Bool := false
  deriving DecidableEq, Repr

/-- The letters of one argument; names of options are taken from the arguments after it. -/
def readLetters (starting on : Bool) :
    Chars → List Chars → Extra → Eval (List Chars × Extra)
  | [], args, extra => return (args, extra)
  | c :: cs, args, extra => do
    if c == 'c' && starting then readLetters starting on cs args { extra with command := true }
    else if c == 'l' && starting then readLetters starting on cs args extra
    else if c == 'o' then
      match args with
      | [] =>
        showOptions (! on) starting
        readLetters starting on cs [] extra
      | name :: args =>
        setNamedOption name on
        readLetters starting on cs args extra
    else
      setOption c on
      readLetters starting on cs args extra

/-- The options at the start of arguments, of which there are at most so many. Gives the other
arguments, and whether an end of options was marked. -/
def readOptions (starting : Bool) :
    Nat → List Chars → Extra → Eval (List Chars × Extra × Option Chars)
  | 0, args, extra => return (args, extra, none)
  | bound + 1, args, extra => do
    match args with
    | ['-'] :: rest => return (rest, extra, some ['-'])
    | ['-', '-'] :: rest => return (rest, extra, some ['-', '-'])
    | ('-' :: letters) :: rest =>
      let (rest, extra) ← readLetters starting true letters rest extra
      readOptions starting bound rest extra
    | ('+' :: letters) :: rest =>
      let (rest, extra) ← readLetters starting false letters rest extra
      readOptions starting bound rest extra
    | args => return (args, extra, none)

/-- Give the script other arguments. -/
def setArguments (args : List Chars) : Eval Unit :=
  modifyProcess fun p => { p with args, optionIndex := 1, optionLetter := none }

/-- There is no terminal to control jobs from. -/
def settleMonitor : Eval Unit := do
  let p ← process
  if p.options.contains 'm' && p.pid = p.root then
    warn "can't access tty; job control turned off".toList
    turn 'm' false

/-- Set options and arguments. -/
def setCommand : Action := fun args => do
  if args.isEmpty then
    showVariables "" (·.value.isSome)
    return 0
  else
    let (rest, _, mark) ← readOptions false (args.length + 1) args {}
    if mark == some ['-'] then
      turn 'x' false
      turn 'v' false
    settleMonitor
    if ! rest.isEmpty || mark == some ['-', '-'] then setArguments rest
    return 0

/-- Drop arguments at the start. -/
def shift : Action := fun args => do
  let n ← match args with
    | [] => pure 1
    | arg :: _ => countOf arg
  let own := (← process).args
  if own.length < n then fault "can't shift that many".toList
  setArguments (own.drop n)
  return 0

/-! ### Options of the script itself -/

/-- What an option letter means. -/
inductive OptionKind where
  /-- There is no such option. -/
  | unknown
  /-- It has no value. -/
  | plain
  /-- It has a value. -/
  | valued
  deriving DecidableEq, Repr

/-- What an option letter means in a list of letters, where a colon follows those with a value. -/
def optionKind (c : Char) : Chars → OptionKind
  | [] => .unknown
  | d :: ':' :: rest => if c == d then .valued else optionKind c rest
  | d :: rest => if c == d then .plain else optionKind c rest

/-- Look at the next option of a script: put its letter into a variable, and its value, if it has one,
into another. -/
def nextOption (letters name : Chars) (args : List Chars) : Eval Nat := do
  let p ← process
  let index := p.optionIndex
  let word (i : Nat) : Option Chars := if i = 0 then none else args[i - 1]?
  let quiet := letters.head? == some ':'
  -- what is left of the word that the last option stood in
  let left : Chars := match p.optionLetter with
    | none => []
    | some offset => if index ≤ 1 then [] else ((word (index - 1)).getD []).drop offset
  let finish (c : Char) (index : Nat) (rest : Option Chars) (status : Nat) : Eval Nat := do
    let old := (← process).bindings.get "OPTIND"
    if old.fixed then fault "OPTIND: is read only".toList
    modifyProcess fun p =>
      { p with bindings := p.bindings.set "OPTIND" { old with value := some (decimal index) } }
    assign name (some [c])
    modifyProcess fun p => { p with
      optionIndex := index
      optionLetter := rest.map fun r => ((word (index - 1)).getD []).length - r.length }
    return status
  let (fresh, current, index) : Bool × Chars × Nat :=
    if ! left.isEmpty then (true, left, index)
    else match word index with
      | some ('-' :: c :: cs) =>
        if c == '-' && cs.isEmpty then (false, [], index + 1) else (true, c :: cs, index + 1)
      | _ => (false, [], index)
  match fresh, current with
  | true, c :: rest =>
    match optionKind c letters with
    | .unknown =>
      if quiet then assign "OPTARG".toList (some [c])
      else
        complain ("Illegal option -".toList ++ [c, '\n'])
        forget "OPTARG".toList
      finish '?' index (some rest) 0
    | .plain =>
      assign "OPTARG".toList (some [])
      finish c index (some rest) 0
    | .valued =>
      match rest, word index with
      | [], none =>
        if quiet then
          assign "OPTARG".toList (some [c])
          finish ':' index (some []) 0
        else
          complain ("No arg for -".toList ++ c :: " option\n".toList)
          forget "OPTARG".toList
          finish '?' index (some []) 0
      | [], some value =>
        assign "OPTARG".toList (some value)
        finish c (index + 1) none 0
      | value, _ =>
        assign "OPTARG".toList (some value)
        finish c index none 0
  | _, _ => finish '?' index none 1

/-- Look at the next option of the script or of given arguments. -/
def getopts : Action := fun args => do
  match ← withoutOptions args with
  | letters :: name :: given =>
    let words ← if given.isEmpty then pure (← process).args else pure given
    let index := (← process).optionIndex
    if words.length + 1 < index then
      modifyProcess fun p => { p with optionIndex := 1, optionLetter := none }
    nextOption letters name words
  | _ => fault "Usage: getopts optstring var [arg...]".toList

/-! ### Aliases -/

/-- Where an alias stands when all are shown. -/
def aliasSlot (name : String) : Nat :=
  let cs := ofString name
  (((cs.head?.map Char.toNat).getD 0) * 16 + cs.foldr (·.toNat + ·) 0) % 39

/-- Show an alias. -/
def showAlias (name : String) (text : Chars) : Eval Unit :=
  sayLine (name.toList ++ '=' :: singleQuoted text)

/-- The aliases with one more, or with another text for one. -/
def setAlias (aliases : List (String × Chars)) (name : String) (text : Chars) :
    List (String × Chars) :=
  if aliases.any (·.1 == name) then
    aliases.map fun a => if a.1 == name then (name, text) else a
  else aliases ++ [(name, text)]

/-- Show or set aliases. -/
def aliasCommand : Action := fun args => do
  if args.isEmpty then
    let aliases := (← process).aliases
    (List.range 39).forM fun slot =>
      (aliases.filter (aliasSlot ·.1 == slot)).forM fun (name, text) => showAlias name text
    return 0
  else
    let results ← args.mapM fun arg => do
      let name := arg.take 1 ++ (arg.drop 1).takeWhile (· ≠ '=')
      if name.length < arg.length then
        modifyProcess fun p =>
          { p with aliases := setAlias p.aliases (String.ofList name) (arg.drop (name.length + 1)) }
        return 0
      else match (← process).aliases.lookup (String.ofList arg) with
        | some text =>
          showAlias (String.ofList arg) text
          return 0
        | none =>
          complain ("alias: ".toList ++ arg ++ " not found\n".toList)
          return 1
    return results.foldl max 0

/-- Forget aliases. -/
def unalias : Action := fun args => do
  let (options, args) ← takeOptions ['a'] [] args
  if ! options.isEmpty then
    modifyProcess fun p => { p with aliases := [] }
    return 0
  else
    let results ← args.mapM fun arg => do
      let name := String.ofList arg
      if (← process).aliases.any (·.1 == name) then
        modifyProcess fun p => { p with aliases := p.aliases.filter (·.1 ≠ name) }
        return 0
      else
        complain ("unalias: ".toList ++ arg ++ " not found\n".toList)
        return 1
    return results.foldl max 0

end LineShell.Script
