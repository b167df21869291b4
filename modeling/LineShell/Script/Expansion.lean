import LineShell.Script.Arithmetic
import LineShell.Script.Descriptors
import LineShell.Script.Pattern

/-!
# Expansion

How words become the texts that commands work with.

## The model

A word is expanded to a row of `Piece`s: characters that know whether they may be split and whether
they may have a meaning in a pattern. `fields` splits the row where variables and outputs hold
separators, and `glob` replaces a field that is a pattern by the names of files. Commands inside words
are run by a function that the expansion is given.
-/

namespace LineShell.Script

/-- A piece of an expanded word. -/
inductive Piece where
  /-- A character of the word itself. -/
  | plain (c : Char)
  /-- A character that stands for itself. -/
  | kept (c : Char)
  /-- A character of a value, where the word may be split. -/
  | soft (c : Char)
  /-- The end of an argument among all of them, where the word may be split. -/
  | softBreak
  /-- The end of an argument among all of them, where the word is split. -/
  | hardBreak
  /-- The start or the end of quotes. -/
  | mark
  /-- The start of a value; `whole` if it is split between arguments only. -/
  | region (whole : Bool)
  deriving DecidableEq, Repr

namespace Piece

/-- The character of a piece, if it is one. -/
def char? : Piece → Option Char
  | .plain c | .kept c | .soft c => some c
  | .softBreak | .hardBreak => some '\x00'
  | .mark | .region _ => none

/-- The characters of pieces. -/
def chars (ps : List Piece) : Chars := ps.filterMap char?

/-- The text of pieces. -/
def text (ps : List Piece) : Chars := withoutNul (chars ps)

/-- The character of a piece as it stands in a pattern. -/
def marked? : Piece → Option Marked
  | .plain c | .soft c => some { char := c, quoted := false }
  | .kept c => some { char := c, quoted := true }
  | _ => none

/-- The pattern of pieces. -/
def marked (ps : List Piece) : List Marked := ps.filterMap marked?

/-- The pieces of a value. -/
def ofValue (quoted : Bool) (cs : Chars) : List Piece := cs.map (if quoted then .kept else .soft)

/-- The pieces of a value with what tells where it starts. -/
def ofRegion (quoted : Bool) (cs : Chars) : List Piece :=
  if quoted then ofValue true cs else .region false :: ofValue false cs

end Piece

/-! ### Fields -/

/-- The separators of words, if nothing else is said. -/
def defaultSeparators : Chars := [' ', '\t', '\n']

/-- The state of a split. -/
structure Split where
  /-- The fields found, last one first. -/
  fields : List (List Piece) := []
  /-- The field under way, last piece first. -/
  field : List Piece := []
  /-- A blank separator has just ended a field. -/
  blank : Bool := false
  /-- The value under way is split between arguments only. -/
  whole : Bool := false
  /-- So was the value before it. -/
  wasWhole : Bool := false
  /-- How many fields may be found, if there is a limit. The last of them takes all that is left. -/
  room : Option Nat := none
  /-- How many pieces the last field will have if nothing but separators follows. -/
  size : Option Nat := none

namespace Split

/-- End a field. -/
def cut (s : Split) : Split := { s with fields := s.field.reverse :: s.fields, field := [] }

/-- One more piece of the field. -/
def push (s : Split) (piece : Piece) : Split := { s with field := piece :: s.field }

/-- A separator, blank or not, at a place where the word may be split. -/
def separator (s : Split) (isBlank : Bool) (piece : Piece) : Split :=
  if s.blank then { s with field := [], blank := isBlank }
  else
    let blank := ! (s.wasWhole || s.whole) && isBlank
    if s.field.isEmpty && blank then s
    else match s.room with
      | none => { s.cut with blank }
      | some 1 => { s with blank, room := some 0, size := some s.field.length }.push piece
      | some n => { s.cut with blank, room := some (n - 1) }

/-- A piece of the last field, where separators are not separators any more. -/
def trail (s : Split) (isSeparator isBlank : Bool) (piece : Piece) : Split :=
  if isBlank then { s with size := s.size.or s.field.length }.push piece
  else
    let size := if isSeparator && s.blank then s.size else none
    { s with size, blank := false }.push piece

/-- One more piece. -/
def step (separators : Chars) (s : Split) (piece : Piece) : Split :=
  match piece with
  | .region whole => { s with blank := false, whole, wasWhole := s.whole }
  | .soft c =>
    let isSeparator := separators.contains c
    let isBlank := isSeparator && defaultSeparators.contains c
    if s.room = some 0 then s.trail isSeparator isBlank piece
    else if isSeparator then s.separator isBlank piece
    else { s with blank := false }.push piece
  | .softBreak => s.separator true piece
  | .hardBreak => s.cut
  | piece => s.push piece

/-- The fields found in the end. -/
def result (s : Split) : List (List Piece) :=
  let s := match s.size with
    | some n => { s with field := s.field.drop (s.field.length - n) }
    | none => s
  ((if s.whole || ! s.field.isEmpty then s.cut else s).fields).reverse

end Split

/-- The fields of an expanded word. -/
def fields (separators : Chars) (ps : List Piece) : List (List Piece) :=
  (ps.foldl (Split.step separators) {}).result

/-- The fields of a line that is read into so many variables. -/
def readFields (separators : Chars) (room : Nat) (ps : List Piece) : List (List Piece) :=
  (ps.foldl (Split.step separators) { room := some room }).result

/-! ### Names of files -/

/-- The pieces of a path pattern up to a slash, and the rest with the slash. -/
def component (cs : List Marked) : List Marked × List Marked := cs.span (·.char ≠ '/')

/-- The characters of marked ones, without the backslashes that take the meaning from others. -/
def literal : List Marked → Chars
  | [] => []
  | [m] => [m.char]
  | m :: n :: rest =>
    if m.char == '\x5c' && ! m.quoted then n.char :: literal rest else m.char :: literal (n :: rest)

/-- The names in a directory, given the path that leads there. -/
def namesIn (fs : FileSystem) (cwd : NodeId) (dir : Chars) : List Chars :=
  match fs.list cwd (if dir.isEmpty then "." else shown dir) with
  | .ok names => ['.'] :: ['.', '.'] :: names.map ofString
  | .error _ => []

/-- The paths of the files that a path pattern stands for after a path, through at most so many
components. -/
def globFrom (fs : FileSystem) (cwd : NodeId) : Nat → Chars → List Marked → List Chars
  | 0, _, _ => []
  | bound + 1, dir, cs =>
    match component cs with
    | (name, rest) =>
      let pattern := Pattern.ofMarked name
      let slashes := rest.takeWhile (·.char == '/')
      let beyond := rest.drop slashes.length
      if ! pattern.isActive then
        let path := dir ++ literal name ++ slashes.map (·.char)
        if rest.isEmpty || beyond.isEmpty then
          if (fs.find cwd (shown path) false).isOk then [path] else []
        else globFrom fs cwd bound path beyond
      else
        let showsHidden := match name with
          | m :: n :: _ => m.char == '.' || (m.char == '\x5c' && ! m.quoted && n.char == '.')
          | [m] => m.char == '.'
          | [] => false
        let found := (namesIn fs cwd dir).filter fun n =>
          (showsHidden || n.head? ≠ some '.') && pattern.accepts n
        if rest.isEmpty then found.map (dir ++ ·)
        else found.flatMap fun n =>
          let path := dir ++ n ++ slashes.map (·.char)
          if beyond.isEmpty then if (fs.find cwd (shown path) false).isOk then [path] else []
          else globFrom fs cwd bound path beyond

/-- The characters that give a field a meaning as a pattern. -/
def patternChars : List Char := ['*', '?', '[']

/-- The texts of a field: the names of the files that it stands for as a pattern, or else itself. -/
def glob (fs : FileSystem) (cwd : NodeId) (enabled : Bool) (field : List Piece) : List Chars :=
  let cs := Piece.marked field
  let active := cs.any fun m => ! m.quoted && patternChars.contains m.char
  let found := if enabled && active then globFrom fs cwd (cs.length + 1) [] cs else []
  if found.isEmpty then [Piece.text field]
  else found.mergeSort fun a b => ! List.lex b a fun c d => c.toNat < d.toNat

/-! ### Parameters -/

/-- Set a variable, as an assignment does. -/
def setVariable (name : String) (value : Chars) : Eval Unit := do
  let p ← process
  let old := p.bindings.get name
  if old.fixed then fault (name.toList ++ ": is read only".toList)
  let exported := old.exported || p.options.contains 'a'
  modifyProcess fun p =>
    { p with bindings := p.bindings.set name { old with value := some value, exported } }
  if name = "OPTIND" then
    let n := ((number? 10 false value).getD 1).toNat
    modifyProcess fun p => { p with optionIndex := if n = 0 then 1 else n, optionLetter := none }
  if name = "PATH" then modifyProcess fun p => { p with tracked := [] }

/-- The separators of words. -/
@[inline] def separators : Eval Chars :=
  return ((← process).bindings.value? "IFS").getD defaultSeparators

/-- The letters of all options, in the order in which they are shown. -/
def optionOrder : List Char :=
  ['u', 'b', 'a', 'C', 'E', 'V', 'v', 'x', 's', 'n', 'm', 'i', 'I', 'f', 'e']

/-- The arguments in a row, with what stands between them. -/
def joinArgs (between : List Piece) (quoted : Bool) (args : List Chars) : List Piece :=
  between.intercalate (args.map (Piece.ofValue quoted))

/-- The value of a parameter; none if it is unset. With `full` the word will be split. -/
def paramValue (name : Chars) (quoted full : Bool) : Eval (Option (List Piece)) := do
  let p ← process
  let number (n : Nat) : Option (List Piece) := some (Piece.ofValue quoted (decimal n))
  let joined : List Piece :=
    let ifs := p.bindings.value? "IFS"
    let between : List Piece :=
      if full && ! quoted then match ifs with
        | some _ => [.softBreak]
        | none => [.soft ' ']
      else match ifs with
        | none => Piece.ofValue quoted [' ']
        | some [] => []
        | some (c :: _) => Piece.ofValue quoted [c]
    joinArgs between quoted p.args
  match name with
  | ['$'] => return number p.root
  | ['?'] => return number p.status
  | ['#'] => return number p.args.length
  | ['!'] => return p.lastJob.bind number
  | ['-'] => return some (Piece.ofValue quoted (optionOrder.filter p.options.contains))
  | ['@'] =>
    return some (if quoted && full then joinArgs [.hardBreak] true p.args else joined)
  | ['*'] => return some joined
  | _ =>
    if name.all Char.isDigit then
      let n := ((number? 10 false name).getD 0).toNat
      let value := if n = 0 then some p.name else p.args[n - 1]?
      return value.map (Piece.ofValue quoted)
    else return (p.bindings.value? (String.ofList name)).map (Piece.ofValue quoted)

/-- Stop because a parameter is unset. -/
def unsetFault (name : Chars) (message : Option Chars) (empty : Bool) : Eval α :=
  fault (name ++ ": ".toList ++ message.getD
    ("parameter not set".toList ++ if empty then " or null".toList else []))

/-! ### Words -/

/-- How a word is expanded. -/
structure Manners where
  /-- It will be split, and may stand for names of files. -/
  full : Bool := false
  /-- A tilde at its start stands for a home directory. -/
  tilde : Bool := false
  /-- It is an assignment, with tildes after the equals sign and after colons. -/
  assignment : Bool := false
  /-- It stands in for a value, and its own characters may be split. -/
  inner : Bool := false
  deriving DecidableEq, Repr

/-- The home directories of users. -/
def homes : List (String × String) :=
  [("root", "/root"), ("daemon", "/usr/sbin"), ("bin", "/bin"), ("sys", "/dev"),
    ("nobody", "/nonexistent")]

/-- The name after a tilde, and the parts after it; none if it is no plain name. -/
def tildeName? (stopsAtColon : Bool) : Word → Option (Chars × Word)
  | [] => some ([], [])
  | .char c false :: rest =>
    if c == '/' || (stopsAtColon && c == ':') then some ([], .char c false :: rest)
    else (tildeName? stopsAtColon rest).map fun (name, after) => (c :: name, after)
  | _ => none

/-- The pieces of the home directory that a tilde stands for, and the parts after it; none if the tilde
stands for itself. -/
def expandTilde (stopsAtColon : Bool) (word : Word) : Eval (Option (List Piece × Word)) := do
  match tildeName? stopsAtColon word with
  | none => return none
  | some (name, after) =>
    let own := (← process).bindings.value? "HOME"
    let home := if name.isEmpty then own else (homes.lookup (String.ofList name)).map ofString
    return home.map fun home => (Piece.ofValue true home, after)

/-- The ways to run commands and expand words inside words. -/
structure Inside where
  /-- What a command writes. -/
  output : Option Command → Eval Chars
  /-- The pieces of a word. -/
  pieces : Manners → Word → Eval (List Piece)

/-- The words for a fault of an expression. -/
def faultText (text : Chars) : Arithmetic.Fault → Chars
  | .number value => "Illegal number: ".toList ++ value
  | .fixed name => name.toList ++ ": is read only".toList
  | other =>
    let what := match other with
      | .primary => "expecting primary"
      | .ending => "expecting EOF"
      | .colon => "expecting ':'"
      | .paren => "expecting ')'"
      | _ => "division by zero"
    "arithmetic expression: ".toList ++ what.toList ++ ": \"".toList ++ text ++ ['\x22']

/-- The value of an expression, whose assignments are made. -/
def arithmetic (text : Chars) : Eval Int := do
  let bindings := (← process).bindings
  let scope : Arithmetic.Scope :=
    { value := bindings.value?, isFixed := fun name => (bindings.get name).fixed }
  match Arithmetic.evaluate scope text with
  | .error .overflow => throw (.ended (.killed 8))
  | .error e => fault (faultText text e)
  | .ok (n, assigned) =>
    assigned.forM fun (name, value) => setVariable name (decimal value)
    return n

/-- Give a parameter the value that it was to have. -/
def assignParam (inside : Inside) (name : Chars) (word : Word) : Eval Unit := do
  let value := Piece.text (← inside.pieces { tilde := true } word)
  if isName name then setVariable (String.ofList name) value
  else fault (name ++ ": bad variable name".toList)

/-! ### Trimming -/

/-- The character between the arguments of a value. -/
def breakChar : Char := '\x00'

/-- A text up to the first break in it. -/
def upToBreak (cs : Chars) : Chars := cs.takeWhile (· ≠ breakChar)

/-- The characters that are marked where they stand for themselves. -/
def markedChars : List Char := "!*?[=~:/-]\\".toList

/-- The mark before a character that stands for itself. -/
def escapeMark : Char := '\x81'

/-- A piece as it is kept, with a mark before a character that stands for itself. -/
def keptForm (mark : Char) : Piece → Chars
  | .kept c => if markedChars.contains c || c == escapeMark then [mark, c] else [c]
  | piece => piece.char?.toList

/-- A value that is trimmed. Ends of it are compared with a pattern as far as the first break in
them. -/
structure Trimming where
  /-- The value. -/
  value : List Piece
  /-- The pieces of the pattern. -/
  pieces : List Piece

namespace Trimming

/-- The characters of the value. -/
def chars (t : Trimming) : Chars := Piece.chars t.value

/-- The pattern. -/
def pattern (t : Trimming) : Pattern := Pattern.ofMarked (Piece.marked t.pieces)

/-- The first argument. -/
def first (t : Trimming) : Chars := upToBreak t.chars

/-- The comparison from the end takes place in a copy, which marks have been taken from and which ends
at the first break. -/
def isCopied (t : Trimming) : Bool :=
  (t.value.take t.first.length).any fun piece => (keptForm escapeMark piece).length ≠ 1

/-- The value as it is kept. -/
def keptValue (t : Trimming) : Chars := t.value.flatMap (keptForm escapeMark)

/-- What the comparison from the end goes through: the value as it is kept, or its copy, before which
lie the pattern and the value. -/
def track (t : Trimming) : Chars :=
  if t.isCopied then
    t.keptValue ++ [breakChar] ++ t.pieces.flatMap (keptForm '\x5c') ++ [breakChar] ++ t.first
  else t.keptValue

/-- How many pieces stand before the end of a front that the pattern stands for, as short or as long as
possible. -/
def front? (t : Trimming) (greedy : Bool) : Option Nat :=
  let pattern := t.pattern
  let first := t.first
  let text := if t.isCopied then first else t.keptValue
  if greedy then
    ((List.range (t.value.length + 1)).find? fun k =>
      pattern.accepts (upToBreak (text.take (text.length - k)))).map (t.value.length - ·)
  else (List.range (first.length + 1)).find? fun n => pattern.accepts (first.take n)

/-- How many pieces stand before an end that the pattern stands for, as short or as long as
possible. -/
def back? (t : Trimming) (greedy : Bool) : Option Nat :=
  let pattern := t.pattern
  let first := t.first
  if greedy then
    (List.range (first.length + 1)).find? fun n => pattern.accepts (first.drop n)
  else
    let track := t.track
    ((List.range (t.value.length + 1)).find? fun k =>
      pattern.accepts (upToBreak (track.drop (track.length - k)))).map (t.value.length - ·)

end Trimming

/-- The pieces of a value without what a pattern stands for at one end. -/
def trimmed (inside : Inside) (query : Query) (word : Word) (value : List Piece) :
    Eval (List Piece) := do
  let t : Trimming := { value, pieces := ← inside.pieces { tilde := true } word }
  match query with
  | .dropFront greedy => return value.drop ((t.front? greedy).getD 0)
  | .dropBack greedy => return value.take ((t.back? greedy).getD value.length)
  | _ => return value

/-- The pieces of a value, with what tells where it starts. -/
@[inline] def placed (name : Chars) (quoted full : Bool) (value : List Piece) : Eval (List Piece) := do
  let splits := name == ['@'] && full && ! (← process).args.isEmpty
  return if ! quoted then .region false :: value
    else if splits then .region true :: value
    else value

/-- The pieces of a parameter. -/
def expandParam (inside : Inside) (manners : Manners) (name : Chars) (query : Query)
    (empty : Bool) (word : Word) (quoted : Bool) : Eval (List Piece) := do
  if query == .senseless then fault "Bad substitution".toList
  let value ← paramValue name quoted (manners.full && query ≠ .length)
  let value := if empty then value.filter (! ·.isEmpty) else value
  let innerWord := inside.pieces { manners with tilde := true, assignment := false, inner := true } word
  let required : Eval (List Piece) := do
    match value with
    | some value => return value
    | none => if ← hasOption 'u' then unsetFault name none false else return []
  match query with
  | .value =>
    let needed ← required
    if value.isNone then return [] else placed name quoted manners.full needed
  | .length =>
    let value ← required
    placed name quoted false (Piece.ofValue quoted (decimal value.length))
  | .orElse =>
    match value with
    | some value => placed name quoted manners.full value
    | none => innerWord
  | .andThen =>
    match value with
    | some _ => innerWord
    | none => placed name quoted manners.full []
  | .orAssign =>
    match value with
    | some value => placed name quoted manners.full value
    | none =>
      assignParam inside name word
      placed name quoted manners.full ((← paramValue name quoted manners.full).getD [])
  | .orFail =>
    match value with
    | some value => placed name quoted manners.full value
    | none =>
      let message := Piece.text (← inside.pieces { tilde := true } word)
      unsetFault name (if word.isEmpty then none else some message) empty
  | query =>
    let needed ← required
    if value.isNone then return []
    else placed name quoted manners.full (← trimmed inside query word needed)

/-- Output without the ends of lines after it. -/
def withoutEnds (cs : Chars) : Chars := (cs.reverse.dropWhile (· == '\n')).reverse

/-- The pieces of a part. -/
def expandPart (inside : Inside) (manners : Manners) : Part → Eval (List Piece)
  | .char c true => return [.kept c]
  | .char c false => return [if manners.inner then .soft c else .plain c]
  | .mark => return [.mark]
  | .param name query empty word quoted =>
    expandParam inside manners name query empty word quoted
  | .output command quoted => do
    return Piece.ofRegion quoted (withoutEnds (withoutNul (← inside.output command)))
  | .arithmetic word quoted => do
    let text := Piece.text (← inside.pieces {} word)
    return Piece.ofRegion quoted (decimal (← arithmetic text))

/-- How far a word is expanded. -/
structure Stretch where
  /-- The pieces so far, last one first. -/
  pieces : List Piece := []
  /-- A tilde would stand for a home directory here. -/
  awaitsTilde : Bool := false
  /-- The word's equals sign was passed. -/
  inValue : Bool := false
  /-- The part before is a character without quotes. -/
  inRun : Bool := false

namespace Stretch

/-- The stretch with the pieces of a part that is no character without quotes. -/
def push (s : Stretch) (pieces : List Piece) : Stretch :=
  { s with pieces := pieces.reverse ++ s.pieces, awaitsTilde := false, inRun := false }

/-- The stretch with a character without quotes. -/
def pushChar (manners : Manners) (s : Stretch) (c : Char) : Stretch :=
  let equals := manners.assignment && ! s.inValue && c == '='
  let colon := manners.assignment && s.inValue && c == ':'
  let pieces := if manners.inner && ! s.inRun then .region false :: s.pieces else s.pieces
  { pieces := (if manners.inner then .soft c else .plain c) :: pieces
    awaitsTilde := equals || colon, inValue := s.inValue || equals, inRun := true }

/-- Expand the characters that a word starts with, up to a tilde that may stand for a home directory;
gives the parts that are left. -/
def takeChars (manners : Manners) : Word → Stretch → Word × Stretch
  | .char c quoted :: rest, s =>
    if quoted then takeChars manners rest (s.push [.kept c])
    else if s.awaitsTilde && c == '~' then (.char c quoted :: rest, s)
    else takeChars manners rest (s.pushChar manners c)
  | word, s => (word, s)

end Stretch

/-- Expand the parts of a word, of which there are at most so many. -/
def expandParts (inside : Inside) (manners : Manners) : Nat → Word → Stretch → Eval (List Piece)
  | 0, _, s => return s.pieces.reverse
  | bound + 1, word, s => do
    match s.takeChars manners word with
    | ([], s) => return s.pieces.reverse
    | (.char c _ :: rest, s) =>
      match ← expandTilde manners.assignment rest with
      | none => expandParts inside manners bound rest (s.pushChar manners c)
      | some (home, after) =>
        expandParts inside manners bound after { s.push home with inRun := s.inRun }
    | (.mark :: .param ['@'] .value false [] true :: .mark :: rest, s) =>
      expandParts inside manners bound rest
        (s.push (← expandParam inside manners ['@'] .value false [] true))
    | (part :: rest, s) =>
      expandParts inside manners bound rest (s.push (← expandPart inside manners part))

/-- The pieces of a word. -/
def expandWord (inside : Inside) (manners : Manners) (word : Word) : Eval (List Piece) :=
  expandParts inside manners (2 * word.length + 2) word { awaitsTilde := manners.tilde }

/-- Words inside words, down to a depth. -/
def Inside.ofDepth (output : Option Command → Eval Chars) : Nat → Inside
  | 0 => { output, pieces := fun _ _ => fault "too many nested expansions".toList }
  | depth + 1 =>
    { output, pieces := fun manners word => expandWord (ofDepth output depth) manners word }

/-- How deep words may stand within words. -/
def expansionDepth : Nat := 0xFFFF

/-! ### The uses of words -/

/-- The pieces of a word. -/
def expand (output : Option Command → Eval Chars) (manners : Manners) (word : Word) :
    Eval (List Piece) :=
  (Inside.ofDepth output expansionDepth).pieces manners word

/-- The text of a word that is not split. -/
def expandText (output : Option Command → Eval Chars) (manners : Manners) (word : Word) :
    Eval Chars :=
  return Piece.text (← expand output manners word)

/-- The pattern of a word. -/
def expandPattern (output : Option Command → Eval Chars) (word : Word) : Eval Pattern :=
  return Pattern.ofMarked (Piece.marked (← expand output { tilde := true } word))

/-- The characters of parts that have nothing to expand. With `brackets` a bracket is such a part. -/
def Word.plainChars? (brackets : Bool) : Word → Option Chars
  | [] => some []
  | .char c quoted :: rest =>
    let isPlain := quoted || ! (c == '*' || c == '?' || c == '~' || c == '\x5c' ||
      (! brackets && c == '['))
    if isPlain && c.toNat ≠ 0 then (plainChars? brackets rest).map (c :: ·) else none
  | _ => none

/-- The text of a word that is just a text: it has nothing to expand, and is no pattern. A bracket that
nothing comes after is none. -/
def Word.text? (word : Word) : Option Chars :=
  match word with
  | [] => none
  | [part] => Word.plainChars? true [part]
  | parts => Word.plainChars? false parts

/-- The texts of a word that is split and may stand for names of files. -/
def expandFields (output : Option Command → Eval Chars) (word : Word) : Eval (List Chars) := do
  if let some text := word.text? then return [text]
  let pieces ← expand output { full := true, tilde := true } word
  let separators ← separators
  let m ← get
  let enabled := ! m.process.options.contains 'f'
  return (fields separators pieces).flatMap (glob m.files m.process.cwd enabled)

end LineShell.Script
