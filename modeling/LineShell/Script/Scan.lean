import LineShell.Script.Reader

/-!
# Words and tokens

How the characters of a script form words and other tokens.

## The model

A word is scanned in a `Scan`, which holds the parts found so far, the expansions that are still
open, and a stack of `Frame`s that tell how quotes and braces are meant at this place. Commands inside
words are read by the `Parsers` that the scanner is given.
-/

namespace LineShell.Script

/-- How a list of commands ends. -/
inductive ListKind where
  /-- At the end of a line. -/
  | line
  /-- At a token that ends lists, after at least one command. -/
  | nonempty
  /-- At a token that ends lists. -/
  | any
  deriving DecidableEq, Repr

/-- The ways to read commands inside words and commands. -/
structure Parsers where
  /-- How many symbols or commands may stand in a row. -/
  bound : Nat
  /-- Read a list of commands. -/
  list : ListKind → Parse (Option Command)
  /-- Read one command. -/
  command : Parse Command
  /-- Read the commands up to a closing parenthesis. -/
  enclosed : Parse (Option Command)
  /-- Read the commands of a text of its own. -/
  quoted : Chars → Parse (Option Command)

/-- How characters are meant. -/
inductive Manner where
  /-- Outside quotes. -/
  | bare
  /-- In single quotes. -/
  | single
  /-- In double quotes. -/
  | double
  /-- In an expression. -/
  | arithmetic
  deriving DecidableEq, Repr

/-- How quotes and braces are meant at a place. -/
structure Frame where
  /-- How characters are meant. -/
  manner : Manner
  /-- How many expansions in braces are open. -/
  braces : Nat := 0
  /-- Double quotes are open inside braces. -/
  inner : Bool := false
  /-- The frame belongs to an expansion in braces. -/
  owned : Bool := false
  /-- Expansions here are in double quotes. -/
  double : Bool := false
  /-- How many expansions in braces are open inside double quotes. -/
  doubleBraces : Nat := 0
  /-- How many parentheses are open. -/
  parens : Nat := 0
  deriving DecidableEq, Repr

/-- An expansion that is open. -/
inductive Opener where
  /-- A parameter in braces. -/
  | param (name : Chars) (query : Query) (empty : Bool) (quoted : Bool)
  /-- An expression. -/
  | arithmetic (quoted : Bool)
  deriving DecidableEq, Repr

/-- A word that is being scanned. -/
structure Scan where
  /-- How quotes and braces are meant here. -/
  top : Frame
  /-- How they are meant around. -/
  below : List Frame := []
  /-- The expansions that are open, innermost first, with the parts before them, last one first. -/
  opened : List (Opener × List Part) := []
  /-- The parts found, last one first. -/
  out : List Part := []
  /-- Quotes were found. -/
  quoted : Bool := false

namespace Scan

/-- One more part. -/
def put (s : Scan) (part : Part) : Scan := { s with out := part :: s.out }

/-- One more character, meant as all characters here. -/
def putChar (s : Scan) (c : Char) : Scan :=
  s.put (.char c (s.top.manner == .single || s.top.manner == .double))

/-- One more character that stands for itself. -/
def putQuoted (s : Scan) (c : Char) : Scan := s.put (.char c true)

/-- Change how things are meant here. -/
def adjust (s : Scan) (f : Frame → Frame) : Scan := { s with top := f s.top }

/-- Start a frame. -/
def push (s : Scan) (frame : Frame) : Scan := { s with top := frame, below := s.top :: s.below }

/-- End a frame. -/
def pop (s : Scan) : Scan :=
  match s.below with
  | frame :: below => { s with top := frame, below }
  | [] => s

/-- Open an expansion. -/
def enter (s : Scan) (opener : Opener) : Scan :=
  { s with opened := (opener, s.out) :: s.opened, out := [] }

/-- Close the innermost expansion. -/
def leave (s : Scan) : Scan :=
  match s.opened with
  | [] => s
  | (opener, before) :: opened =>
    let inside := s.out.reverse
    let part := match opener with
      | .param name query empty quoted => Part.param name query empty inside quoted
      | .arithmetic quoted => .arithmetic inside quoted
    { s with opened, out := part :: before }

/-- Quotes begin or end here; in a here-document nobody has to know. -/
def markQuote (inHere : Bool) (s : Scan) : Scan := if inHere then s else s.put .mark

/-- Double quotes begin or end here. -/
def toggleDouble (inHere : Bool) (s : Scan) : Scan :=
  markQuote inHere
    (if s.top.braces > 0 then s.adjust fun f => { f with inner := ! f.inner } else s)

/-- A quote that ends quotes, or in a here-document stands for itself. -/
def closeQuote (inHere : Bool) (c : Char) (s : Scan) : Scan :=
  if inHere && s.top.braces = 0 then s.putChar c
  else
    let s := if s.top.doubleBraces = 0
      then s.adjust fun f => { f with manner := .bare, double := false } else s
    let s := { s with quoted := true }
    if c == '\x22' then s.toggleDouble inHere else s.markQuote inHere

/-- A closing brace. -/
def closeBrace (s : Scan) : Scan :=
  if s.top.inner || s.top.braces = 0 then s.putChar '\x7d'
  else
    let braces := s.top.braces - 1
    let s := s.adjust fun f => { f with braces }
    let s := if braces = 0 && s.top.owned then s.pop
      else s.adjust fun f => { f with doubleBraces := f.doubleBraces - 1 }
    s.leave

/-- A backslash before a character in double quotes stands for itself, unless the character would
have a meaning. -/
def keepsBackslash (inHere : Bool) (f : Frame) (c : Char) : Bool :=
  f.double && c ≠ '\x5c' && c ≠ '\x60' && c ≠ '$' &&
    (c ≠ '\x22' || (inHere && f.braces = 0)) && (c ≠ '\x7d' || f.braces = 0)

/-- A character after a backslash. -/
def escape (inHere : Bool) (c : Char) (s : Scan) : Scan :=
  let s := if keepsBackslash inHere s.top c then s.putQuoted '\x5c' else s
  { s.putQuoted c with quoted := true }

end Scan

/-! ### Expansions -/

/-- A parameter with a name of one special character. -/
def isSpecial (c : Char) : Bool := "!#$?*@-".toList.contains c || c.isDigit

/-- The rest of a name or of a number that starts with a character, and the symbol after it. -/
def scanWhile (ok : Char → Bool) : Nat → Chars → Parse (Chars × Symbol)
  | 0, found => return (found.reverse, .eof)
  | bound + 1, found => do
    match ← Reader.nextJoined bound with
    | .char c => if ok c then scanWhile ok bound (c :: found) else return (found.reverse, .char c)
    | symbol => return (found.reverse, symbol)

/-- What an operator asks of a parameter. -/
def Query.ofChar : Char → Query
  | '\x7d' => .value
  | '-' => .orElse
  | '+' => .andThen
  | '?' => .orFail
  | '=' => .orAssign
  | _ => .senseless

/-- The head of an expansion in braces. -/
structure Head where
  /-- The parameter. -/
  name : Chars
  /-- What is asked of it. -/
  query : Query
  /-- An empty value counts as none. -/
  empty : Bool := false
  /-- A pattern follows. -/
  pattern : Bool := false
  deriving DecidableEq, Repr

namespace Head

/-- What a symbol after the name asks. -/
def query? (name : Chars) (bound : Nat) : Symbol → Parse Head
  | .char ':' => do
    match ← Reader.nextJoined bound with
    | .char c => return { name, query := .ofChar c, empty := true }
    | _ => return { name, query := .senseless, empty := true }
  | .char c => do
    if c == '%' || c == '#' then
      let symbol ← Reader.nextJoined bound
      let greedy := symbol == .char c
      if ! greedy then Reader.back symbol
      let query := if c == '#' then Query.dropFront greedy else .dropBack greedy
      return { name, query, pattern := true }
    else return { name, query := .ofChar c }
  | _ => return { name, query := .senseless }

/-- The head of a question for a length, after the name. -/
def length (name : Chars) (symbol : Symbol) : Parse Head := do
  Reader.back symbol
  return { name, query := if symbol == .char '\x7d' then .length else .senseless }

/-- The head that starts with a symbol which belongs to no name. -/
def special (bound : Nat) (c : Char) : Parse Head := do
  let after ← Reader.nextJoined bound
  let ask (c : Char) (after : Symbol) : Parse Head := do
    if isSpecial c then query? [c] bound after
    else
      Reader.back after
      return { name := [], query := .senseless }
  if c ≠ '#' then ask c after
  else match after with
    | .char d =>
      if startsName d then
        let (name, symbol) ← scanWhile isNameChar bound [d]
        length name symbol
      else if d.isDigit then
        let (name, symbol) ← scanWhile Char.isDigit bound [d]
        length name symbol
      else
        let beyond ← Reader.nextJoined bound
        if d == '\x7d' || beyond ≠ .char '\x7d' then
          Reader.back beyond
          ask '#' after
        else if isSpecial d then length [d] beyond
        else
          Reader.back beyond
          return { name := [], query := .senseless }
    | _ => ask '#' after

/-- Read the head of an expansion in braces. -/
def read (bound : Nat) : Parse Head := do
  match ← Reader.nextJoined bound with
  | .char c =>
    if startsName c then
      let (name, symbol) ← scanWhile isNameChar bound [c]
      query? name bound symbol
    else if c.isDigit then
      let (name, symbol) ← scanWhile Char.isDigit bound [c]
      query? name bound symbol
    else if c == '\x7d' then
      Reader.back (.char c)
      return { name := [], query := .senseless }
    else special bound c
  | symbol =>
    Reader.back symbol
    return { name := [], query := .senseless }

end Head

namespace Scan

/-- Open an expansion in braces, or put the value of a parameter. -/
def openBrace (s : Scan) (head : Head) : Scan :=
  let quoted := s.top.double
  if head.query == .value && ! head.empty then s.put (.param head.name .value false [] quoted)
  else
    let manner := if head.pattern then Manner.bare else s.top.manner
    let manner := if manner == .arithmetic then .double else manner
    let s := if manner ≠ s.top.manner || s.top.inner
      then s.push { manner, owned := true, double := manner ≠ .bare } else s
    let s := s.adjust fun f => { f with
      braces := f.braces + 1
      doubleBraces := if f.double then f.doubleBraces + 1 else f.doubleBraces }
    s.enter (.param head.name head.query head.empty quoted)

/-- What follows a dollar sign. -/
def dollar (p : Parsers) (s : Scan) : Parse Scan := do
  let symbol ← Reader.nextJoined p.bound
  let quoted := s.top.double
  let literal : Parse Scan := do
    Reader.back symbol
    return s.putChar '$'
  match symbol with
  | .char c =>
    if (← get).checks.ending then literal
    else if c == '(' then
      match ← Reader.nextJoined p.bound with
      | .char '(' =>
        return (s.enter (.arithmetic quoted)).push { manner := .arithmetic, double := true }
      | other =>
        Reader.back other
        return s.put (.output (← p.enclosed) quoted)
    else if c == '\x7b' then return s.openBrace (← Head.read p.bound)
    else if startsName c then
      let (name, after) ← scanWhile isNameChar p.bound [c]
      Reader.back after
      return s.put (.param name .value false [] quoted)
    else if isSpecial c then return s.put (.param [c] .value false [] quoted)
    else literal
  | _ => literal

/-- The text up to a backquote. A backslash before a backslash, a backquote or a dollar sign is
dropped, and inside double quotes also before one of those. -/
def backquoted (double : Bool) : Nat → Chars → Parse Chars
  | 0, _ => Reader.fail .depth
  | bound + 1, found => do
    match ← Reader.nextJoined bound with
    | .char '\x60' => return found.reverse
    | .char '\x5c' =>
      match ← Reader.next with
      | .char c =>
        let drops := c == '\x5c' || c == '\x60' || c == '$' || (double && c == '\x22')
        if c == '\n' then Reader.nextLine
        backquoted double bound (c :: if drops then found else '\x5c' :: found)
      | _ => Reader.fail .unclosedBackquote
    | .char c =>
      if c == '\n' then Reader.nextLine
      backquoted double bound (c :: found)
    | .aliasEnd => backquoted double bound found
    | .eof => Reader.fail .unclosedBackquote

/-- A backquote. -/
def backquote (p : Parsers) (s : Scan) : Parse Scan := do
  if (← get).checks.ending then return { s.putChar '\x60' with quoted := true }
  else
    let text ← backquoted s.top.double p.bound []
    return s.put (.output (← p.quoted text) s.top.double)

/-- A closing parenthesis in an expression. -/
def closeParen (bound : Nat) (s : Scan) : Parse Scan := do
  if s.top.parens > 0 then
    return (s.putChar ')').adjust fun f => { f with parens := f.parens - 1 }
  else
    match ← Reader.nextJoined bound with
    | .char ')' => return s.pop.leave
    | other =>
      Reader.back other
      return s.putChar ')'

end Scan

/-! ### Words -/

/-- The line that ends a here-document. -/
structure Terminator where
  /-- The line. -/
  text : Chars
  /-- Tabs at the start of lines are dropped. -/
  strips : Bool
  deriving DecidableEq, Repr

namespace Terminator

/-- The symbol after tabs. -/
def afterTabs : Nat → Symbol → Parse Symbol
  | 0, symbol => return symbol
  | bound + 1, .char '\t' => do afterTabs bound (← Reader.next)
  | _, symbol => return symbol

/-- Whether a line that starts with a symbol is the ending, of which this much is left. -/
def isHere : Chars → Symbol → Parse Bool
  | [], .char '\n' => do
    Reader.nextLine
    return true
  | [], .eof => return true
  | c :: cs, .char d => do if c == d then isHere cs (← Reader.next) else return false
  | _, _ => return false

/-- The symbol at the start of a line; the end of the text, if the line is the ending. -/
def check (bound : Nat) (ending : Terminator) (symbol : Symbol) : Parse Symbol := do
  let symbol ← if ending.strips then afterTabs bound symbol else pure symbol
  let before ← get
  if ← isHere ending.text symbol then return .eof
  else
    set before
    return symbol

end Terminator

/-- A character that ends words outside quotes. -/
def endsWord (c : Char) : Bool := "<>();&| \t".toList.contains c

namespace Scan

/-- What becomes of a scan at a symbol: the word ends, goes on, or goes on with a new line. -/
inductive Outcome where
  /-- The word has ended before the symbol. -/
  | ended
  /-- It goes on after the symbol. -/
  | more (s : Scan)
  /-- It goes on after the end of a line. -/
  | line (s : Scan)

/-- A character that has no meaning of its own in any manner but this one. -/
def bareStep (p : Parsers) (inHere : Bool) (c : Char) (s : Scan) : Parse Outcome := do
  if c == '\x27' then
    return .more ((s.adjust fun f => { f with manner := .single }).markQuote inHere)
  else if c == '\x22' then
    return .more
      ((s.adjust fun f => { f with manner := .double, double := true }).toggleDouble inHere)
  else if c == '\x60' then return .more (← s.backquote p)
  else if c == '$' then return .more (← s.dollar p)
  else if c == '\x7d' then return .more s.closeBrace
  else if endsWord c && s.top.braces = 0 then return .ended
  else return .more (s.putChar c)

/-- A backslash. -/
def backslash (inHere : Bool) (s : Scan) : Parse Outcome := do
  match ← Reader.next with
  | .char c => return .more (s.escape inHere c)
  | _ => return .more (s.putQuoted '\x5c')

/-- One symbol of a word. -/
def step (p : Parsers) (inHere : Bool) (symbol : Symbol) (s : Scan) : Parse Outcome := do
  match symbol with
  | .eof => return .ended
  | .aliasEnd =>
    return if s.top.manner == .bare && s.top.braces = 0 then .ended else .more s
  | .char c =>
    if c == '\n' then
      if s.top.manner == .bare && s.top.braces = 0 then return .ended
      else
        Reader.nextLine
        return .line (s.putChar c)
    else match s.top.manner with
      | .single => return .more (if c == '\x27' then s.closeQuote inHere c else s.putChar c)
      | .bare => if c == '\x5c' then s.backslash inHere else s.bareStep p inHere c
      | .double =>
        if c == '\x5c' then s.backslash inHere
        else if c == '\x22' then return .more (s.closeQuote inHere c)
        else if c == '\x60' then return .more (← s.backquote p)
        else if c == '$' then return .more (← s.dollar p)
        else if c == '\x7d' then return .more s.closeBrace
        else return .more (s.putChar c)
      | .arithmetic =>
        if c == '\x5c' then s.backslash inHere
        else if c == '\x60' then return .more (← s.backquote p)
        else if c == '$' then return .more (← s.dollar p)
        else if c == '\x7d' then return .more s.closeBrace
        else if c == '(' then
          return .more ((s.putChar c).adjust fun f => { f with parens := f.parens + 1 })
        else if c == ')' then return .more (← s.closeParen p.bound)
        else return .more (s.putChar c)

/-- Scan a word from a symbol on. Gives the scan and the symbol that ended it. -/
def run (p : Parsers) (ending : Option Terminator) : Nat → Symbol → Scan → Parse (Scan × Symbol)
  | 0, _, _ => Reader.fail .depth
  | bound + 1, symbol, s => do
    let nextIn (s : Scan) : Parse Symbol :=
      if s.top.manner == .single then Reader.next else Reader.nextJoined bound
    match ← s.step p ending.isSome symbol with
    | .ended => return (s, symbol)
    | .more s => run p ending bound (← nextIn s) s
    | .line s =>
      let symbol ← nextIn s
      let symbol ← match ending with
        | some e => e.check p.bound symbol
        | none => pure symbol
      run p ending bound symbol s

/-- What is missing at the end of a word. -/
def fault (inHere : Bool) (s : Scan) : Option SyntaxFault :=
  if s.top.manner == .arithmetic then some .unclosedArithmetic
  else if s.top.manner ≠ .bare && ! inHere then some .unclosedQuotes
  else if s.top.braces ≠ 0 then some .unclosedBrace
  else none

/-- Scan a word from a symbol on, and check that it is complete. -/
def complete (p : Parsers) (ending : Option Terminator) (symbol : Symbol) (frame : Frame) :
    Parse (Scan × Symbol) := do
  let symbol ← match ending with
    | some e => e.check p.bound symbol
    | none => pure symbol
  let (s, symbol) ← run p ending p.bound symbol { top := frame }
  match s.fault ending.isSome with
  | some fault => Reader.fail fault
  | none => return (s, symbol)

end Scan

/-! ### Here-documents -/

/-- Read a here-document. -/
def readDocument (p : Parsers) (a : Awaited) : Parse Unit := do
  let ending : Terminator := { text := a.ending, strips := a.strips }
  let (symbol, frame) ← if a.expands
    then pure (← Reader.nextJoined p.bound, { manner := .double, double := true : Frame })
    else pure (← Reader.next, { manner := .single : Frame })
  let (s, _) ← Scan.complete p (some ending) symbol frame
  modify fun r => { r with docs := r.docs.setIfInBounds a.doc s.out.reverse }

/-- Read the here-documents that were asked for. -/
def readDocuments (p : Parsers) : Parse Unit := do
  let awaited := (← get).awaited
  modify fun r => { r with awaited := [] }
  awaited.forM (readDocument p)

/-! ### Tokens -/

/-- The descriptor that a word before a redirection names. -/
def descriptor? (s : Scan) : Option (Option Nat) :=
  if s.quoted then none
  else match s.out with
    | [] => some none
    | [.char c false] => if c.isDigit then some (some (c.toNat - 0x30)) else none
    | _ => none

/-- Read the rest of a redirection after its first character. -/
def readRedirect (p : Parsers) (fd : Option Nat) (c : Char) : Parse Token := do
  let give (redirect : Word → Redirect) (here : Option Bool := none) : Parse Token := do
    modify fun r => { r with redirect, here, last := .redirect }
    return .redirect
  let symbol ← Reader.nextJoined p.bound
  if c == '>' then
    let fd := fd.getD 1
    match symbol with
    | .char '>' => give (.file fd .append)
    | .char '|' => give (.file fd .force)
    | .char '&' => give (.copy fd)
    | _ =>
      Reader.back symbol
      give (.file fd .output)
  else
    let fd := fd.getD 0
    match symbol with
    | .char '<' =>
      let after ← Reader.nextJoined p.bound
      let strips := after == .char '-'
      if ! strips then Reader.back after
      give (fun _ => .here fd 0 false) (some strips)
    | .char '&' => give (.copy fd)
    | .char '>' => give (.file fd .both)
    | _ =>
      Reader.back symbol
      give (.file fd .input)

/-- Read a word, or the redirection that it turns out to be the start of. -/
def readWord (p : Parsers) (symbol : Symbol) : Parse Token := do
  let (s, symbol) ← Scan.complete p none symbol { manner := .bare }
  let asWord : Parse Token := do
    Reader.back symbol
    modify fun r => { r with word := s.out.reverse, quoted := s.quoted, last := .word }
    return .word
  match symbol with
  | .char c =>
    if c == '<' || c == '>' then
      match descriptor? s with
      | some fd => readRedirect p fd c
      | none => asWord
    else asWord
  | _ => asWord

/-- Read a token, without a look at keywords and aliases. -/
def readRaw (p : Parsers) : Nat → Parse Token
  | 0 => Reader.fail .depth
  | bound + 1 => do
    let give (token : Token) : Parse Token := do
      modify fun r => { r with last := token }
      return token
    let double (c : Char) (twice once : Token) : Parse Token := do
      let symbol ← Reader.nextJoined bound
      if symbol == .char c then give twice
      else
        Reader.back symbol
        give once
    if (← get).held then
      modify fun r => { r with held := false }
      return (← get).last
    else
      let symbol ← Reader.nextJoined bound
      match symbol with
      | .aliasEnd | .char ' ' | .char '\t' => readRaw p bound
      | .char '#' =>
        Reader.skipComment bound
        readRaw p bound
      | .char '\n' =>
        Reader.nextLine
        give .newline
      | .eof => give .eof
      | .char '&' => double '&' .and .background
      | .char '|' => double '|' .or .pipe
      | .char ';' => double ';' .endCase .semicolon
      | .char '(' => give .open
      | .char ')' => give .close
      | _ => readWord p symbol

/-- Read tokens and here-documents until a token is no end of a line. -/
def skipLines (p : Parsers) : Nat → Token → Parse Token
  | 0, token => return token
  | bound + 1, .newline => do
    readDocuments p
    skipLines p bound (← readRaw p p.bound)
  | _, token => return token

/-- Read a token that is looked at for the given things. -/
def readChecked (p : Parsers) : Nat → Checks → Parse Token
  | 0, _ => Reader.fail .depth
  | bound + 1, checks => do
    let token ← readRaw p p.bound
    let token ← if checks.newlines then skipLines p p.bound token else pure token
    let checks := checks.union (← get).checks
    Reader.check {}
    let r ← get
    match token, r.quoted, r.word.plain? with
    | .word, false, some text =>
      let keyword := if checks.keywords then Keyword.ofChars? text else none
      match keyword with
      | some k =>
        set { r with last := .keyword k }
        return .keyword k
      | none =>
        if checks.aliases then
          if ← Reader.insertAlias text then readChecked p bound checks else return token
        else return token
    | _, _, _ => return token

/-- Read a token. -/
def readToken (p : Parsers) : Parse Token := do readChecked p p.bound (← get).checks

end LineShell.Script
