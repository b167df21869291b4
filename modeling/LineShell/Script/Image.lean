import LineShell.Files.Skeleton
import LineShell.Script.Chars

/-!
# Running files

Which program runs for a file, and with which arguments.

## The model

A file that begins with `#!` names its interpreter, which is run in its place with the file's path as
an argument; an interpreter can name an interpreter itself, but not without end. At the end of the row
stands a tool, a program that the machine runs by itself. So to run a file is to run the tool of an
`Image` with its arguments.
-/

namespace LineShell.Script

/-- What is run for a file. -/
structure Image where
  /-- The tool. -/
  tool : Tool
  /-- The name under which it is run. -/
  name : Chars
  /-- Its arguments. -/
  args : List Chars
  deriving DecidableEq, Repr

/-- The interpreter that a file names, with an argument for it if there is one. -/
structure Interpreter where
  /-- The path of the interpreter. -/
  path : Chars
  /-- What it gets before the path of the file. -/
  argument : Option Chars := none
  deriving DecidableEq, Repr

namespace Interpreter

/-- How many bytes of a file are searched for its interpreter. -/
def headSize : Nat := 256

/-- A blank of the line that names an interpreter. -/
def isGap (c : Char) : Bool := c == ' ' || c == '\t'

/-- The text up to the character that ends texts. -/
def upToNul (cs : Chars) : Chars := cs.takeWhile (·.toNat ≠ 0)

/-- The text without gaps at its end. -/
def trimEnd (cs : Chars) : Chars := (cs.reverse.dropWhile isGap).reverse

/-- The interpreter that a line names after its mark. -/
def ofLine? (line : Chars) : Option Interpreter :=
  match (trimEnd line).dropWhile isGap with
  | [] => none
  | named =>
    let path := named.takeWhile fun c => ! isGap c && c.toNat ≠ 0
    match named.drop path.length with
    | [] => some { path }
    | c :: rest =>
      let argument := upToNul (rest.dropWhile isGap)
      some { path, argument := if c.toNat = 0 then none else some argument }

/-- The interpreter that a file names. Where the end of the line is not among the bytes that are
searched, the name of the interpreter has to end there. -/
def of? (data : Bytes) : Option Interpreter :=
  match ofBytes (data.take headSize) with
  | '#' :: '!' :: head =>
    if head.contains '\n' then ofLine? (head.takeWhile (· ≠ '\n'))
    else
      let padded := head ++ List.replicate (headSize - 2 - head.length) '\x00'
      let named := padded.dropWhile isGap
      if named.isEmpty || ! named.any (fun c => isGap c || c.toNat = 0) then none
      else ofLine? padded.dropLast
  | _ => none

end Interpreter

namespace Image

/-- The contents of a file that is to be run. -/
def contents (fs : FileSystem) (cwd : NodeId) (busy : List NodeId) (path : Chars) :
    Except Cause Bytes := do
  let id ← fs.find cwd (shown path)
  match fs.node? id with
  | some (.regular data mode) =>
    if ! (Node.regular data mode).permits Node.searchBit then throw .accessDenied
    else if busy.contains id then throw .textBusy
    else return bytesOf data
  | _ => throw .accessDenied

/-- How many interpreters may be named in a row. -/
def maxInterpreters : Nat := 5

/-- The image of a file that is run with arguments, through at most so many interpreters. `called` is
the name under which the file itself is run. -/
def load (fs : FileSystem) (cwd : NodeId) (busy : List NodeId) :
    Nat → Chars → Chars → List Chars → Except Cause Image
  | depth, called, path, args => do
    let data ← contents fs cwd busy path
    match Tool.ofData? data, Interpreter.of? data with
    | some tool, _ => return { tool, name := called, args }
    | none, none => throw .execFormat
    | none, some i =>
      match depth with
      | 0 => do
        discard <| contents fs cwd busy i.path
        throw .linkLoop
      | depth + 1 => load fs cwd busy depth i.path i.path (i.argument.toList ++ path :: args)

/-- The image of a file that is run with arguments. -/
def ofFile (fs : FileSystem) (cwd : NodeId) (busy : List NodeId) (called path : Chars)
    (args : List Chars) : Except Cause Image :=
  load fs cwd busy maxInterpreters called path args

end Image

end LineShell.Script
