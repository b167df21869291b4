import LineShell.Script.Process

/-!
# Conditions

What `test` says about texts, numbers and files.

## The model

A condition is a row of words. Which of them are operators depends on their neighbours, so `token`
looks at a place in the row. An expression is read from left to right: `either` joins with `-o` what
`both` joins with `-a`; `negated` and `primary` read what stands between. Each takes the place where it
starts and gives the place of the last word that it has used.
-/

namespace LineShell.Script.Condition

/-- What a word can be. -/
inductive Kind where
  /-- An operator before its operand. -/
  | unary
  /-- An operator between its operands. -/
  | binary
  /-- The negation. -/
  | not
  /-- `-a`. -/
  | and
  /-- `-o`. -/
  | or
  /-- An opening parenthesis. -/
  | open
  /-- A closing parenthesis. -/
  | close
  deriving DecidableEq, Repr

/-- The operators before their operand. -/
def unaryNames : List String :=
  ["-r", "-w", "-x", "-e", "-f", "-d", "-c", "-b", "-p", "-u", "-g", "-k", "-s", "-t", "-z", "-n",
    "-h", "-O", "-G", "-L", "-S"]

/-- The operators between their operands. -/
def binaryNames : List String :=
  ["=", "!=", "<", ">", "-eq", "-ne", "-gt", "-ge", "-lt", "-le", "-nt", "-ot", "-ef"]

/-- What a word can be, if it is an operator. -/
def kind? (word : Chars) : Option Kind :=
  let s := String.ofList word
  if unaryNames.contains s then some .unary
  else if binaryNames.contains s then some .binary
  else match s with
    | "!" => some .not
    | "-a" => some .and
    | "-o" => some .or
    | "(" => some .open
    | ")" => some .close
    | _ => none

/-- What conditions can ask about files. -/
structure Facts where
  /-- The operator holds of the file at a path. -/
  holds : String → Chars → Bool
  /-- Two paths lead to the same file. -/
  same : Chars → Chars → Bool

/-- What stands at a place in the row. -/
inductive Token where
  /-- The end of the row. -/
  | ended
  /-- An operator. -/
  | operator (kind : Kind)
  /-- An operand. -/
  | operand
  deriving DecidableEq, Repr

/-- The operator at a place has no operand after it: nothing follows, or an operator between operands
does. -/
def standsAlone (words : Array Chars) (place : Nat) : Bool :=
  match words[place + 1]?, words[place + 2]? with
  | none, _ => true
  | some _, none => false
  | some next, some _ => kind? next == some .binary

/-- What stands at a place. An operator that would stand before its operand, and has none, is an
operand itself. -/
def token (words : Array Chars) (place : Nat) : Token :=
  match words[place]? with
  | none => .ended
  | some word =>
    match kind? word with
    | none => .operand
    | some .unary => if standsAlone words place then .operand else .operator .unary
    | some .open => if place + 1 < words.size then .operator .open else .operand
    | some kind => .operator kind

/-- The word at a place. -/
def wordAt (words : Array Chars) (place : Nat) : Chars := (words[place]?).getD []

/-- Complain about an operator. -/
def complaint (word : Chars) (text : String) : Chars :=
  if word.isEmpty then text.toList else word ++ ": ".toList ++ text.toList

/-- A word as a number. -/
def numberOf (word : Chars) : Except Chars Int :=
  match number? 10 false word with
  | some n => .ok n
  | none => .error ("Illegal number: ".toList ++ word)

/-- An operator between its operands. -/
def compare (facts : Facts) (operator : String) (a b : Chars) : Except Chars Bool := do
  let numbers (test : Int → Int → Bool) : Except Chars Bool := do
    let m ← numberOf a
    let n ← numberOf b
    return test m n
  match operator with
  | "=" => return a == b
  | "!=" => return a != b
  | "<" => return decide (a < b)
  | ">" => return decide (b < a)
  | "-eq" => numbers fun m n => m == n
  | "-ne" => numbers fun m n => m != n
  | "-gt" => numbers fun m n => n < m
  | "-ge" => numbers fun m n => n ≤ m
  | "-lt" => numbers fun m n => m < n
  | "-le" => numbers fun m n => m ≤ n
  | "-ef" => return facts.same a b
  | _ => return false

/-- An operator before its operand. -/
def check (facts : Facts) (operator : String) (a : Chars) : Except Chars Bool := do
  match operator with
  | "-z" => return a.isEmpty
  | "-n" => return ! a.isEmpty
  | "-t" =>
    discard <| numberOf a
    return false
  | operator => return facts.holds operator a

mutual

/-- Expressions joined with `-o`. -/
def either (facts : Facts) (words : Array Chars) : Nat → Nat → Token → Except Chars (Bool × Nat)
  | 0, _, _ => .error []
  | bound + 1, place, first => do
    let (a, place) ← both facts words bound place first
    if token words (place + 1) == .operator .or then
      let (b, place) ← either facts words bound (place + 2) (token words (place + 2))
      return (a || b, place)
    else return (a, place)

/-- Expressions joined with `-a`. -/
def both (facts : Facts) (words : Array Chars) : Nat → Nat → Token → Except Chars (Bool × Nat)
  | 0, _, _ => .error []
  | bound + 1, place, first => do
    let (a, place) ← negated facts words bound place first
    if token words (place + 1) == .operator .and then
      let (b, place) ← both facts words bound (place + 2) (token words (place + 2))
      return (a && b, place)
    else return (a, place)

/-- An expression that may be negated. -/
def negated (facts : Facts) (words : Array Chars) : Nat → Nat → Token → Except Chars (Bool × Nat)
  | 0, _, _ => .error []
  | bound + 1, place, first => do
    if first == .operator .not then
      let next := token words (place + 1)
      let place := if next == .ended then place else place + 1
      let (a, place) ← negated facts words bound place next
      return (! a, place)
    else primary facts words bound place first

/-- An expression of its own. -/
def primary (facts : Facts) (words : Array Chars) : Nat → Nat → Token → Except Chars (Bool × Nat)
  | 0, _, _ => .error []
  | bound + 1, place, first => do
    match first with
    | .ended => return (false, place)
    | .operator .open =>
      let inner := token words (place + 1)
      if inner == .operator .close then return (false, place + 1)
      else
        let (a, place) ← either facts words bound (place + 1) inner
        if token words (place + 1) ≠ .operator .close then
          .error "closing paren expected".toList
        else return (a, place + 1)
    | .operator .unary =>
      if place + 1 < words.size then
        let a ← check facts (String.ofList (wordAt words place)) (wordAt words (place + 1))
        return (a, place + 1)
      else .error (complaint (wordAt words place) "argument expected")
    | _ =>
      if token words (place + 1) == .operator .binary then
        let operator := wordAt words (place + 1)
        if place + 2 < words.size then
          let a ← compare facts (String.ofList operator) (wordAt words place) (wordAt words (place + 2))
          return (a, place + 2)
        else .error (complaint operator "argument expected")
      else return (! (wordAt words place).isEmpty, place)

end

/-- A row of words without what stands around it: the words that are left, whether the operator in
their middle decides, and whether they are negated. With three words an operator in the middle decides;
with three or four words, parentheses around them or a negation before them are taken away, and after a
negation what is left is looked at again. -/
def unwrap : Nat → Bool → List Chars → List Chars × Bool × Bool
  | 0, negates, words => (words, false, negates)
  | bound + 1, negates, words =>
    if words.length == 3 && ((words[1]?).bind kind?) == some .binary then (words, true, negates)
    else if words.length ≠ 3 && words.length ≠ 4 then (words, false, negates)
    else if words.head? == some ['('] && words.getLast? == some [')'] then
      ((words.drop 1).dropLast, false, negates)
    else if words.head? == some ['!'] then unwrap bound true words.tail
    else (words, false, negates)

/-- Whether a row of words holds. -/
def evaluate (facts : Facts) (words : List Chars) : Except Chars Bool := do
  let (words, isBinary, negates) := unwrap 4 false words
  let row := words.toArray
  if row.isEmpty then return false
  let first := if isBinary then .operand else token row 0
  let (value, place) ← either facts row (8 * row.size + 8) 0 first
  if place + 1 < row.size then .error (complaint (wordAt row place) "unexpected operator")
  else return if negates then ! value else value

end LineShell.Script.Condition
