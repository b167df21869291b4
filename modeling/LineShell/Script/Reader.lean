import LineShell.Script.Syntax

/-!
# Reading a script

Where the reading of a script stands, and how its next character is found.

## The model

A `Reader` holds the text to be read. The text of an alias is read before what comes after its name,
and the alias counts as in use until all of its text is read; its end is a symbol of its own, which
ends words. Reading fails with a `SyntaxError`, which has the number of the line where it was found.
-/

namespace LineShell.Script

/-- A word with a meaning of its own at the start of a command. -/
inductive Keyword where
  /-- The success of a command counts as failure. -/
  | bang
  /-- A choice by patterns. -/
  | case
  /-- The start of a loop's body. -/
  | do
  /-- The end of a loop's body. -/
  | done
  /-- Another choice. -/
  | elif
  /-- The last choice. -/
  | else
  /-- The end of a choice by patterns. -/
  | esac
  /-- The end of a choice. -/
  | fi
  /-- A loop over words. -/
  | for
  /-- A choice. -/
  | if
  /-- The words of a loop, or the patterns of a choice. -/
  | in
  /-- What is chosen. -/
  | then
  /-- A loop that ends when a test succeeds. -/
  | until
  /-- A loop that ends when a test fails. -/
  | while
  /-- The start of a group. -/
  | open
  /-- The end of a group. -/
  | close
  deriving DecidableEq, Repr

/-- A keyword as it is written. -/
def Keyword.text : Keyword → String
  | .bang => "!"
  | .case => "case"
  | .do => "do"
  | .done => "done"
  | .elif => "elif"
  | .else => "else"
  | .esac => "esac"
  | .fi => "fi"
  | .for => "for"
  | .if => "if"
  | .in => "in"
  | .then => "then"
  | .until => "until"
  | .while => "while"
  | .open => "\x7b"
  | .close => "\x7d"

/-- All keywords. -/
def Keyword.all : List Keyword :=
  [.bang, .case, .do, .done, .elif, .else, .esac, .fi, .for, .if, .in, .then, .until, .while, .open,
    .close]

/-- The keyword that is written like that. -/
def Keyword.ofChars? (cs : Chars) : Option Keyword :=
  Keyword.all.find? fun k => k.text.toList == cs

/-- A token. -/
inductive Token where
  /-- The end of the text. -/
  | eof
  /-- The end of a line. -/
  | newline
  /-- `;`. -/
  | semicolon
  /-- `&`. -/
  | background
  /-- `&&`. -/
  | and
  /-- `||`. -/
  | or
  /-- `|`. -/
  | pipe
  /-- `(`. -/
  | open
  /-- `)`. -/
  | close
  /-- `;;`. -/
  | endCase
  /-- A redirection, without its target. -/
  | redirect
  /-- A word. -/
  | word
  /-- A keyword. -/
  | keyword (k : Keyword)
  deriving DecidableEq, Repr

namespace Token

/-- A token as messages show it. -/
def shown : Token → String
  | .eof => "end of file"
  | .newline => "newline"
  | .semicolon => "\";\""
  | .background => "\"&\""
  | .and => "\"&&\""
  | .or => "\"||\""
  | .pipe => "\"|\""
  | .open => "\"(\""
  | .close => "\")\""
  | .endCase => "\";;\""
  | .redirect => "redirection"
  | .word => "word"
  | .keyword k => "\"" ++ k.text ++ "\""

/-- The token can end a list of commands. -/
def endsList : Token → Bool
  | .eof | .close | .endCase => true
  | .keyword k => [.do, .done, .elif, .else, .esac, .fi, .then, .close].contains k
  | _ => false

end Token

/-- What makes a text no script. -/
inductive SyntaxFault where
  /-- A token where it cannot stand, and the one that would have to stand there. -/
  | unexpected (got : Token) (wanted : Option Token)
  /-- A loop over words without a name. -/
  | loopVariable
  /-- A function without a good name. -/
  | functionName
  /-- Quotes without an end. -/
  | unclosedQuotes
  /-- An expression without an end. -/
  | unclosedArithmetic
  /-- An expansion without an end. -/
  | unclosedBrace
  /-- A command in backquotes without an end. -/
  | unclosedBackquote
  /-- No descriptor has this number. -/
  | descriptor
  /-- Too many commands within commands. -/
  | depth
  deriving DecidableEq, Repr

/-- A fault in words. -/
def SyntaxFault.message : SyntaxFault → String
  | .unexpected got none => got.shown ++ " unexpected"
  | .unexpected got (some wanted) => got.shown ++ " unexpected (expecting " ++ wanted.shown ++ ")"
  | .loopVariable => "Bad for loop variable"
  | .functionName => "Bad function name"
  | .unclosedQuotes => "Unterminated quoted string"
  | .unclosedArithmetic => "Missing '))'"
  | .unclosedBrace => "Missing '\x7d'"
  | .unclosedBackquote => "EOF in backquote substitution"
  | .descriptor => "Bad fd number"
  | .depth => "too many nested commands"

/-- A fault and the line where it was found. -/
structure SyntaxError where
  /-- The number of the line. -/
  line : Nat
  /-- The fault. -/
  fault : SyntaxFault
  deriving DecidableEq, Repr

/-- What the next token is looked at for. -/
structure Checks where
  /-- Ends of lines are passed over. -/
  newlines : Bool := false
  /-- A word may be a keyword. -/
  keywords : Bool := false
  /-- A word may be an alias. -/
  aliases : Bool := false
  /-- The word ends a here-document, and nothing in it is expanded. -/
  ending : Bool := false
  deriving DecidableEq, Repr

namespace Checks

/-- What is asked for by either. -/
def union (a b : Checks) : Checks where
  newlines := a.newlines || b.newlines
  keywords := a.keywords || b.keywords
  aliases := a.aliases || b.aliases
  ending := a.ending || b.ending

/-- The start of a command. -/
def command : Checks := { keywords := true, aliases := true }

/-- The start of a command, perhaps on a later line. -/
def commandBelow : Checks := { newlines := true, keywords := true, aliases := true }

end Checks

/-- The text of an alias that is being read. -/
structure Insertion where
  /-- What is left of it. -/
  rest : Chars
  /-- The name of the alias. -/
  name : String
  /-- Whether the text ends with a blank, so that the next word may be an alias too. -/
  goesOn : Bool
  /-- Whether its end was met. -/
  ended : Bool := false
  deriving DecidableEq, Repr

/-- A here-document that has been asked for and not read. -/
structure Awaited where
  /-- Its place in the table. -/
  doc : Nat
  /-- The line that ends it. -/
  ending : Chars
  /-- Whether tabs at the start of its lines are dropped. -/
  strips : Bool
  /-- Whether it has expansions. -/
  expands : Bool
  deriving DecidableEq, Repr

/-- Where reading stands. -/
structure Reader where
  /-- The text to be read. -/
  text : Chars
  /-- The aliases that are being read, innermost first. -/
  insertions : List Insertion := []
  /-- The end of the text was met. -/
  starved : Bool := false
  /-- The number of the line. -/
  line : Nat := 1
  /-- The aliases that there are. -/
  aliases : List (String × Chars) := []
  /-- The here-documents read so far. -/
  docs : Array Word := #[]
  /-- The here-documents to be read, in order. -/
  awaited : List Awaited := []
  /-- What the next token is looked at for. -/
  checks : Checks := {}
  /-- The last token. -/
  last : Token := .newline
  /-- The last token is to be given once more. -/
  held : Bool := false
  /-- The last word. -/
  word : Word := []
  /-- The last word had quotes in it. -/
  quoted : Bool := false
  /-- The last redirection, waiting for its target. -/
  redirect : Word → Redirect := fun target => .copy 0 target
  /-- Whether the last redirection is a here-document, and whether tabs are dropped. -/
  here : Option Bool := none

/-- Reading, which may fail. -/
abbrev Parse := StateT Reader (Except SyntaxError)

/-- A symbol of the text. -/
inductive Symbol where
  /-- A character. -/
  | char (c : Char)
  /-- The end of an alias. -/
  | aliasEnd
  /-- The end of the text. -/
  | eof
  deriving DecidableEq, Repr

namespace Reader

/-- Fail, on this line. -/
def fail (fault : SyntaxFault) : Parse α := do
  throw { line := (← get).line, fault }

/-- The insertions that are left when those met to their end are gone, and whether the next word may
be an alias after one of them. -/
def dropEnded : List Insertion → List Insertion × Bool
  | [] => ([], false)
  | i :: rest =>
    if i.ended then
      let (left, goesOn) := dropEnded rest
      (left, goesOn || i.goesOn)
    else (i :: rest, false)

/-- The next symbol. -/
def next : Parse Symbol := do
  let r ← get
  let (insertions, goesOn) := dropEnded r.insertions
  let r := if goesOn then { r with checks := { r.checks with aliases := true } } else r
  match insertions with
  | i :: below =>
    match i.rest with
    | c :: rest =>
      set { r with insertions := { i with rest } :: below }
      return .char c
    | [] =>
      set { r with insertions := { i with ended := true } :: below }
      return .aliasEnd
  | [] =>
    match r.text with
    | c :: text =>
      set { r with text, insertions := [] }
      return .char c
    | [] =>
      set { r with insertions := [], starved := true }
      return .eof

/-- Read a symbol once more. -/
def back (symbol : Symbol) : Parse Unit :=
  modify fun r =>
    match symbol, r.insertions with
    | .char c, [] => { r with text := c :: r.text }
    | .char c, i :: below =>
      if i.ended then { r with text := c :: r.text, insertions := [] }
      else { r with insertions := { i with rest := c :: i.rest } :: below }
    | .aliasEnd, i :: below => { r with insertions := { i with ended := false } :: below }
    | _, _ => r

/-- A line has ended. -/
def nextLine : Parse Unit := modify fun r => { r with line := r.line + 1 }

/-- The next symbol after backslashes that join two lines, of which there are at most so many. -/
def nextJoined : Nat → Parse Symbol
  | 0 => next
  | bound + 1 => do
    match ← next with
    | .char '\x5c' =>
      match ← next with
      | .char '\n' =>
        nextLine
        nextJoined bound
      | other =>
        back other
        return .char '\x5c'
    | symbol => return symbol

/-- Pass over a comment. -/
def skipComment : Nat → Parse Unit
  | 0 => pure ()
  | bound + 1 => do
    match ← next with
    | .char '\n' => back (.char '\n')
    | .eof => pure ()
    | _ => skipComment bound

/-- Give the last token once more. -/
def hold : Parse Unit := modify fun r => { r with held := true }

/-- Say what the next token is looked at for. -/
def check (checks : Checks) : Parse Unit := modify fun r => { r with checks }

/-- Start reading the text of an alias, unless it is being read already. Tells whether it was
started. -/
def insertAlias (name : Chars) : Parse Bool := do
  let r ← get
  let name := String.ofList name
  match r.aliases.lookup name with
  | none => return false
  | some text =>
    if r.insertions.any (·.name == name) then return false
    else
      let goesOn := text.getLast? == some ' ' || text.getLast? == some '\t'
      set { r with insertions := { rest := text, name, goesOn } :: r.insertions }
      return true

end Reader

end LineShell.Script
