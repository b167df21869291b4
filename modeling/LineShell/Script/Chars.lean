import LineShell.Text.Stray

/-!
# Characters of a script

A script, its variables and everything it prints are bytes. They are held as characters, one for
each byte, so that the rules of the script language can be written with characters. This module
holds the passage from and to bytes and text, names, and the reading of numbers.
-/

namespace LineShell.Script

/-- Text as a script holds it: each character stands for one byte. -/
abbrev Chars := List Char

/-- The characters of bytes. -/
def ofBytes (bs : Bytes) : Chars := bs.map fun b => Char.ofNat b.toNat

/-- The bytes of characters. -/
def toBytes (cs : Chars) : Bytes := cs.map fun c => c.toNat.toUInt8

/-- The characters of a text. -/
def ofString (s : String) : Chars := ofBytes (Text.toRaw s)

/-- The text that characters stand for, in which a byte that belongs to no text is a character of its
own. -/
def shown (cs : Chars) : String :=
  if cs.all (·.toNat < 0x80) then String.ofList cs else Text.ofRaw (toBytes cs)

/-- Characters without those that end a text for the machine. -/
def withoutNul (cs : Chars) : Chars := cs.filter (·.toNat ≠ 0)

/-! ### Names -/

/-- A name can start with the character. -/
def startsName (c : Char) : Bool := c.isAlpha || c == '_'

/-- The character can stand in a name. -/
def isNameChar (c : Char) : Bool := c.isAlphanum || c == '_'

/-- The characters are a name. -/
def isName : Chars → Bool
  | [] => false
  | c :: cs => startsName c && cs.all isNameChar

/-- The name at the start of a text, and what comes after it. -/
def spanName (cs : Chars) : Chars × Chars :=
  match cs with
  | c :: _ => if startsName c then cs.span isNameChar else ([], cs)
  | [] => ([], [])

/-- The name and the value of an assignment. -/
def assignment? (cs : Chars) : Option (String × Chars) :=
  match spanName cs with
  | ([], _) => none
  | (name, '=' :: value) => some (String.ofList name, value)
  | _ => none

/-! ### Numbers -/

/-- A blank that may stand before and after a number. -/
def isSpace (c : Char) : Bool := c == ' ' || (0x09 ≤ c.toNat && c.toNat ≤ 0x0D)

/-- The digits of a number in decimal notation. -/
def decimal (n : Int) : Chars := (toString n).toList

/-- The greatest number of the machine. -/
def maxNumber : Nat := 0x7FFFFFFFFFFFFFFF

/-- The value of a digit. -/
def digitValue (c : Char) : Option Nat :=
  if '0' ≤ c && c ≤ '9' then some (c.toNat - 0x30)
  else if 'a' ≤ c && c ≤ 'z' then some (c.toNat - 0x57)
  else if 'A' ≤ c && c ≤ 'Z' then some (c.toNat - 0x37)
  else none

/-- The character is a digit of a base. -/
def isDigitOf (base : Nat) (c : Char) : Bool := (digitValue c).any (· < base)

/-- A number that was read at the start of a text. -/
structure Numeral where
  /-- Its value, within the limits of the machine. -/
  value : Int
  /-- What comes after it. -/
  rest : Chars
  /-- Its value was beyond the limits. -/
  beyond : Bool := false
  /-- There was a number at all. -/
  found : Bool := true
  deriving DecidableEq, Repr

/-- The base that the start of a number shows, and its digits with what comes after them. -/
def baseOf : Chars → Nat × Chars
  | '0' :: x :: d :: rest =>
    if (x == 'x' || x == 'X') && isDigitOf 16 d then (16, d :: rest)
    else if (x == 'b' || x == 'B') && isDigitOf 2 d then (2, d :: rest)
    else (8, '0' :: x :: d :: rest)
  | '0' :: rest => (8, '0' :: rest)
  | cs => (10, cs)

/-- Read a number in a base; base 0 stands for the base that the number itself shows. -/
def Numeral.read (base : Nat) (text : Chars) : Numeral :=
  let cs := text.dropWhile isSpace
  let (negative, cs) := match cs with
    | '-' :: cs => (true, cs)
    | '+' :: cs => (false, cs)
    | cs => (false, cs)
  let (base, cs) := if base = 0 then baseOf cs else (base, cs)
  match cs.span (isDigitOf base) with
  | ([], _) => { value := 0, rest := text, found := false }
  | (digits, rest) =>
    let n := digits.foldl (fun n c => base * n + (digitValue c).getD 0) 0
    if n >>> 63 = 0 then { value := if negative then -n else n, rest }
    else
      let limit := if negative then maxNumber + 1 else maxNumber
      { value := if negative then -limit else limit, rest, beyond := limit < n }

/-- The number that a whole text spells, between blanks. A blank text spells nothing, or with `lax`
the number 0. -/
def number? (base : Nat) (lax : Bool) (text : Chars) : Option Int :=
  let n := Numeral.read base text
  if n.beyond || (! n.found && ! lax) then none
  else if n.rest.all isSpace then some n.value
  else none

end LineShell.Script
