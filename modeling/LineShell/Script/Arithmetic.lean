import LineShell.Script.Chars

/-!
# Arithmetic

The value of an expression in a script: whole numbers of 64 bits with the operators of C, and
variables, which can be assigned to.

## The model

An expression is a row of tokens, which are evaluated while they are read, so that whichever fault
comes first is told. A part whose value does not count is read without an effect: nothing in it is
looked up, divided or assigned.
-/

namespace LineShell.Script.Arithmetic

/-- An operator between two values. -/
inductive BinaryOp where
  /-- Product. -/
  | mul
  /-- Quotient, towards zero. -/
  | div
  /-- Remainder of that quotient. -/
  | rem
  /-- Sum. -/
  | add
  /-- Difference. -/
  | sub
  /-- Shift to the left. -/
  | shiftLeft
  /-- Shift to the right. -/
  | shiftRight
  /-- Less. -/
  | lt
  /-- Less or equal. -/
  | le
  /-- Greater. -/
  | gt
  /-- Greater or equal. -/
  | ge
  /-- Equal. -/
  | eq
  /-- Not equal. -/
  | ne
  /-- Both bits. -/
  | bitAnd
  /-- One of two bits. -/
  | bitXor
  /-- Some bit. -/
  | bitOr
  deriving DecidableEq, Repr

/-- How loosely an operator binds. -/
def BinaryOp.rank : BinaryOp → Nat
  | .mul | .div | .rem => 0
  | .add | .sub => 1
  | .shiftLeft | .shiftRight => 2
  | .lt | .le | .gt | .ge => 3
  | .eq | .ne => 4
  | .bitAnd => 5
  | .bitXor => 6
  | .bitOr => 7

/-- A token of an expression. -/
inductive Token where
  /-- A number. -/
  | number (n : Int)
  /-- A variable. -/
  | name (name : String)
  /-- An operator between two values. -/
  | op (op : BinaryOp)
  /-- An assignment, with an operator or without one. -/
  | assign (op : Option BinaryOp)
  /-- `!`. -/
  | not
  /-- `~`. -/
  | complement
  /-- `&&`. -/
  | and
  /-- `||`. -/
  | or
  /-- `?`. -/
  | question
  /-- `:`. -/
  | colon
  /-- `(`. -/
  | open
  /-- `)`. -/
  | close
  /-- Anything else. -/
  | bad
  /-- The end. -/
  | eof
  deriving DecidableEq, Repr

/-- What is wrong with an expression. -/
inductive Fault where
  /-- A value is missing. -/
  | primary
  /-- Something follows the expression. -/
  | ending
  /-- The other half of a choice is missing. -/
  | colon
  /-- A parenthesis is not closed. -/
  | paren
  /-- A division by zero. -/
  | zero
  /-- The quotient does not fit. -/
  | overflow
  /-- The value of a variable is no number. -/
  | number (text : Chars)
  /-- A variable cannot be assigned to. -/
  | fixed (name : String)
  deriving DecidableEq, Repr

/-! ### Tokens -/

/-- An operator that may be followed by an equals sign, which makes it an assignment. -/
def assignable (op : BinaryOp) : Chars → Token × Chars
  | '=' :: cs => (.assign (some op), cs)
  | cs => (.op op, cs)

/-- The first token of a text, and what comes after it. -/
def token (cs : Chars) : Token × Chars :=
  match cs with
  | [] => (.eof, [])
  | '=' :: '=' :: cs => (.op .eq, cs)
  | '=' :: cs => (.assign none, cs)
  | '>' :: '=' :: cs => (.op .ge, cs)
  | '>' :: '>' :: cs => assignable .shiftRight cs
  | '>' :: cs => (.op .gt, cs)
  | '<' :: '=' :: cs => (.op .le, cs)
  | '<' :: '<' :: cs => assignable .shiftLeft cs
  | '<' :: cs => (.op .lt, cs)
  | '|' :: '|' :: cs => (.or, cs)
  | '|' :: cs => assignable .bitOr cs
  | '&' :: '&' :: cs => (.and, cs)
  | '&' :: cs => assignable .bitAnd cs
  | '!' :: '=' :: cs => (.op .ne, cs)
  | '!' :: cs => (.not, cs)
  | '(' :: cs => (.open, cs)
  | ')' :: cs => (.close, cs)
  | '*' :: cs => assignable .mul cs
  | '/' :: cs => assignable .div cs
  | '%' :: cs => assignable .rem cs
  | '+' :: cs => assignable .add cs
  | '-' :: cs => assignable .sub cs
  | '^' :: cs => assignable .bitXor cs
  | '~' :: cs => (.complement, cs)
  | '?' :: cs => (.question, cs)
  | ':' :: cs => (.colon, cs)
  | c :: rest =>
    if c.isDigit then
      let n := Numeral.read 0 cs
      (.number n.value, n.rest)
    else if startsName c then
      let (name, rest) := cs.span isNameChar
      (.name (String.ofList name), rest)
    else (.bad, rest)

/-- The tokens of a text, of which there are at most so many. -/
def tokens : Nat → Chars → List Token
  | 0, _ => []
  | bound + 1, cs =>
    match cs with
    | [] => []
    | c :: rest =>
      if c == ' ' || c == '\t' || c == '\n' then tokens bound rest
      else
        let (t, rest) := token cs
        if t = .bad then [.bad] else t :: tokens bound rest

/-! ### Values -/

/-- A number as the machine keeps it. -/
def wrap (n : Int) : Int := (Int64.ofInt n).toInt

/-- The value of a truth. -/
def truth (b : Bool) : Int := if b then 1 else 0

/-- The bits of a number. -/
def bits (n : Int) : Nat := (n % 0x10000000000000000).toNat

/-- The value of an operator. -/
def BinaryOp.apply (op : BinaryOp) (a b : Int) : Except Fault Int :=
  match op with
  | .mul => .ok (wrap (a * b))
  | .div =>
    if b = 0 then .error .zero
    else if b = -1 && wrap (-a) = a && a ≠ 0 then .error .overflow
    else .ok (a.tdiv b)
  | .rem =>
    if b = 0 then .error .zero
    else if b = -1 && wrap (-a) = a && a ≠ 0 then .error .overflow
    else .ok (a.tmod b)
  | .add => .ok (wrap (a + b))
  | .sub => .ok (wrap (a - b))
  | .shiftLeft => .ok (wrap (bits a <<< (bits b % 64) : Nat))
  | .shiftRight => .ok (a / ((1 <<< (bits b % 64) : Nat) : Int))
  | .lt => .ok (truth (a < b))
  | .le => .ok (truth (a ≤ b))
  | .gt => .ok (truth (b < a))
  | .ge => .ok (truth (b ≤ a))
  | .eq => .ok (truth (a = b))
  | .ne => .ok (truth (a ≠ b))
  | .bitAnd => .ok (wrap (bits a &&& bits b : Nat))
  | .bitXor => .ok (wrap (bits a ^^^ bits b : Nat))
  | .bitOr => .ok (wrap (bits a ||| bits b : Nat))

/-! ### Evaluation -/

/-- What an expression is evaluated in. -/
structure Scope where
  /-- The value of a variable. -/
  value : String → Option Chars
  /-- The variable cannot be assigned to. -/
  isFixed : String → Bool

/-- The state of an evaluation. -/
structure State where
  /-- The tokens to be read. -/
  tokens : List Token
  /-- The assignments made, last one first. -/
  assigned : List (String × Int) := []

/-- An evaluation. -/
abbrev Eval := StateT State (Except Fault)

/-- The next token. -/
def peek : Eval Token := return (← get).tokens.headD .eof

/-- Take the next token. -/
def take : Eval Token := do
  let t ← peek
  modify fun s => { s with tokens := s.tokens.tail }
  return t

/-- The value of a variable. -/
def lookup (scope : Scope) (name : String) : Eval Int := do
  match (← get).assigned.lookup name with
  | some n => return n
  | none =>
    let text := (scope.value name).getD []
    match number? 0 true text with
    | some n => return n
    | none => throw (.number text)

/-- Assign to a variable. -/
def assign (scope : Scope) (name : String) (n : Int) : Eval Int := do
  if scope.isFixed name then throw (.fixed name)
  modify fun s => { s with assigned := (name, n) :: s.assigned }
  return n

/-- The operator that comes next. -/
def operator? : Eval (Option BinaryOp) := do
  match ← peek with
  | .op op => return some op
  | _ => return none

/-- The ways to evaluate expressions inside expressions. -/
structure Inner where
  /-- An expression with an assignment, perhaps. The flag says that its value does not count. -/
  whole : Bool → Eval Int
  /-- A value with the operators before it. -/
  primary : Bool → Eval Int
  /-- The operators that bind closer than a rank, after a value and the first of them. -/
  binary : Int → BinaryOp → Nat → Bool → Eval Int
  /-- A chain of conjunctions. -/
  conjunction : Bool → Eval Int
  /-- A chain of disjunctions. -/
  disjunction : Bool → Eval Int
  /-- A choice. -/
  choice : Bool → Eval Int

namespace Inner

/-- Evaluate a value with the operators before it. -/
def evalPrimary (scope : Scope) (inner : Inner) (idle : Bool) : Eval Int := do
  match ← take with
  | .open =>
    let n ← inner.whole idle
    if (← take) ≠ .close then throw .paren
    return n
  | .number n => return n
  | .name name => if idle then return 0 else lookup scope name
  | .op .add => inner.primary idle
  | .op .sub => return wrap (-(← inner.primary idle))
  | .not => return truth ((← inner.primary idle) = 0)
  | .complement => return -1 - (← inner.primary idle)
  | _ => throw .primary

/-- Evaluate operators that bind closer than a rank, of which there are at most so many in a row. -/
def evalBinary (inner : Inner) (rank : Nat) (idle : Bool) : Nat → Int → BinaryOp → Eval Int
  | 0, a, _ => return a
  | bound + 1, a, op => do
    discard take
    let b ← inner.primary idle
    let b ← match ← operator? with
      | some op2 => if op2.rank < op.rank then inner.binary b op2 op.rank idle else pure b
      | none => pure b
    let a ← if idle then pure b else (op.apply a b : Except Fault Int)
    match ← operator? with
    | some op2 => if op2.rank < rank then evalBinary inner rank idle bound a op2 else return a
    | none => return a

/-- The rank of everything that binds two values. -/
def loosest : Nat := 8

/-- Evaluate a chain of conjunctions. -/
def evalConjunction (inner : Inner) (idle : Bool) : Eval Int := do
  let a ← inner.primary idle
  let a ← match ← operator? with
    | some op => inner.binary a op loosest idle
    | none => pure a
  if (← peek) ≠ .and then return a
  else
    discard take
    let b ← inner.conjunction (idle || a = 0)
    return truth (a ≠ 0 && b ≠ 0)

/-- Evaluate a chain of disjunctions. -/
def evalDisjunction (inner : Inner) (idle : Bool) : Eval Int := do
  let a ← inner.conjunction idle
  if (← peek) ≠ .or then return a
  else
    discard take
    let b ← inner.disjunction (idle || a ≠ 0)
    return truth (a ≠ 0 || b ≠ 0)

/-- Evaluate a choice. -/
def evalChoice (inner : Inner) (idle : Bool) : Eval Int := do
  let a ← inner.disjunction idle
  if (← peek) ≠ .question then return a
  else
    discard take
    let b ← inner.whole (idle || a = 0)
    if (← take) ≠ .colon then throw .colon
    let c ← inner.choice (idle || a ≠ 0)
    return if a ≠ 0 then b else c

/-- Evaluate an expression with an assignment, perhaps. -/
def evalWhole (scope : Scope) (inner : Inner) (idle : Bool) : Eval Int := do
  match (← get).tokens with
  | .name name :: .assign op :: rest =>
    modify fun s => { s with tokens := rest }
    let n ← inner.whole idle
    if idle then return n
    else match op with
      | none => assign scope name n
      | some op => do assign scope name (← (op.apply (← lookup scope name) n : Except Fault Int))
  | _ => inner.choice idle

/-- Expressions inside expressions, down to a depth. -/
def ofDepth (scope : Scope) : Nat → Inner
  | 0 =>
    { whole := fun _ => throw .primary, primary := fun _ => throw .primary
      binary := fun _ _ _ _ => throw .primary, conjunction := fun _ => throw .primary
      disjunction := fun _ => throw .primary, choice := fun _ => throw .primary }
  | depth + 1 =>
    { whole := fun idle => evalWhole scope (ofDepth scope depth) idle
      primary := fun idle => evalPrimary scope (ofDepth scope depth) idle
      binary := fun a op rank idle => evalBinary (ofDepth scope depth) rank idle (depth + 1) a op
      conjunction := fun idle => evalConjunction (ofDepth scope depth) idle
      disjunction := fun idle => evalDisjunction (ofDepth scope depth) idle
      choice := fun idle => evalChoice (ofDepth scope depth) idle }

end Inner

/-- The value of an expression, and the assignments in it, first one first. -/
def evaluate (scope : Scope) (text : Chars) : Except Fault (Int × List (String × Int)) := do
  let tokens := tokens (text.length + 1) text
  let inner := Inner.ofDepth scope (8 * tokens.length + 8)
  let (n, s) ← (inner.whole false).run { tokens }
  if s.tokens.isEmpty then return (n, s.assigned.reverse) else throw .ending

end LineShell.Script.Arithmetic
