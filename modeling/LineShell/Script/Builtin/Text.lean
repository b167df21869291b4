import LineShell.Script.Builtin.Bindings
import LineShell.Script.Condition
import LineShell.Script.Format

/-!
# Text, conditions and input

The built-in commands of a script that print, compare and read.
-/

namespace LineShell.Script

/-- Print arguments. -/
def echoCommand : Action := fun args => do
  say (Format.echo args)
  return 0

/-- Print values in a format. -/
def printfCommand : Action := fun args => do
  match ← withoutOptions args with
  | [] => fault "usage: printf format [arg ...]".toList
  | format :: values =>
    let printed := Format.print format values
    printed.complaints.forM warn
    say printed.text
    match printed.reason with
    | some reason => fault reason
    | none => return if printed.complaints.isEmpty then 0 else 1

/-! ### Conditions -/

/-- The node is not empty. Directories never are. -/
def hasSize : Node → Bool
  | .regular data _ => ! data.isEmpty
  | .directory .. => true
  | _ => false

/-- The operator holds of a node. -/
def nodeHolds (operator : String) (node : Node) : Bool :=
  match operator with
  | "-e" => true
  | "-f" => match node with
    | .regular .. => true
    | _ => false
  | "-d" => match node with
    | .directory .. => true
    | _ => false
  | "-c" => match node with
    | .device _ => true
    | _ => false
  | "-p" => match node with
    | .pipe .. => true
    | _ => false
  | "-h" | "-L" => match node with
    | .link _ | .descriptor _ => true
    | _ => false
  | "-s" => hasSize node
  | "-r" => node.permits Node.readBit
  | "-w" => node.permits Node.writeBit
  | "-x" => node.permits Node.searchBit
  | "-u" => node.mode &&& 0o4000 ≠ 0
  | "-g" => node.mode &&& 0o2000 ≠ 0
  | "-k" => node.mode &&& 0o1000 ≠ 0
  | "-O" | "-G" => node.permits Node.writeBit
  | _ => false

/-- What conditions can ask about the files of a machine. -/
def factsOf (m : Machine) : Condition.Facts where
  holds operator path :=
    let follow := operator ≠ "-h" && operator ≠ "-L"
    match m.files.stat m.process.cwd (shown path) follow with
    | .ok node => nodeHolds operator node
    | .error _ => false
  same a b :=
    match m.files.find m.process.cwd (shown a), m.files.find m.process.cwd (shown b) with
    | .ok x, .ok y => x == y
    | _, _ => false

/-- Whether a condition holds. -/
def testCommand (isBracket : Bool) : Action := fun args => do
  let words ← if ! isBracket then pure args
    else if (args.getLast?).bind List.head? == some ']' then pure args.dropLast
    else fault "missing ]".toList
  match Condition.evaluate (factsOf (← get)) words with
  | .ok true => return 0
  | .ok false => return 1
  | .error text => fault text

/-! ### Input -/

/-- A line that is being read. -/
structure Reading where
  /-- The pieces of the line so far, last one first. -/
  pieces : List Piece := [.region false]
  /-- The character before took the meaning from the next one. -/
  escaped : Bool := false
  /-- How many bytes of what was looked at belong to the line. -/
  used : Nat := 0
  /-- The end of the line was met. -/
  ended : Bool := false

/-- Read on in a line. A backslash takes the meaning from the character after it, unless the line is
`raw`. -/
def Reading.over (raw : Bool) : Bytes → Reading → Reading
  | [], r => r
  | b :: bs, r =>
    let c := Char.ofNat b.toNat
    let r := { r with used := r.used + 1 }
    if b = 0 then Reading.over raw bs r
    else if r.escaped then
      let pieces := if c == '\n' then r.pieces else .kept c :: r.pieces
      Reading.over raw bs { r with pieces := .region false :: pieces, escaped := false }
    else if c == '\x5c' && ! raw then Reading.over raw bs { r with escaped := true }
    else if c == '\n' then { r with ended := true }
    else Reading.over raw bs { r with pieces := .soft c :: r.pieces }

/-- Read a line from an open file, waiting at most so many times. -/
def readLineFrom (raw : Bool) (id : Nat) : Nat → Reading → Eval Reading
  | 0, r => return r
  | bound + 1, r => do
    awaitInput id true
    let bs ← readable id
    if bs.isEmpty then return r
    else
      let r := Reading.over raw bs { r with used := 0 }
      advance id r.used
      if r.ended then return r else readLineFrom raw id bound r

/-- Give values to variables; those without a value are emptied. -/
def assignAll : List Chars → List Chars → Eval Unit
  | [], _ => pure ()
  | name :: names, values => do
    assign name (some (values.headD []))
    assignAll names values.tail

/-- Read a line into variables. -/
def readInput : Action := fun args => do
  let (options, names) ← takeOptions ['r'] ['p'] args
  if names.isEmpty then fault "arg count".toList
  let raw := options.any (·.1 == 'r')
  let r ← match (← process).file? 0 with
    | some id => readLineFrom raw id patience {}
    | none => pure {}
  let values := (readFields (← separators) names.length r.pieces.reverse).map Piece.text
  assignAll names values
  return if r.ended then 0 else 1

end LineShell.Script
