import LineShell.Script.Real

/-!
# Formats

How `printf` and `echo` make text: escapes with a backslash, and directives that lay out values.

## The model

A format is gone through again and again until it has used up all values. Each pass adds to a
`Draft` of what is printed and of the complaints about values. `print` gives a `Printed`: complaints
are told before anything is printed.
-/

namespace LineShell.Script.Format

/-! ### Escapes -/

/-- The digit is octal. -/
def isOctal (c : Char) : Bool := '0' ≤ c && c ≤ '7'

/-- The character that an escape stands for, given what comes after the backslash, and the rest. What
is no escape leaves the backslash as it is. -/
def escape (cs : Chars) : Char × Chars :=
  match cs with
  | '\x5c' :: rest => ('\x5c', rest)
  | 'a' :: rest => ('\x07', rest)
  | 'b' :: rest => ('\x08', rest)
  | 'e' :: rest => ('\x1b', rest)
  | 'f' :: rest => ('\x0c', rest)
  | 'n' :: rest => ('\n', rest)
  | 'r' :: rest => ('\r', rest)
  | 't' :: rest => ('\t', rest)
  | 'v' :: rest => ('\x0b', rest)
  | cs =>
    match (cs.take 3).takeWhile isOctal with
    | [] => ('\x5c', cs)
    | digits =>
      let n := digits.foldl (fun n c => 8 * n + (c.toNat - 0x30)) 0
      (Char.ofNat (n % 0x100), cs.drop digits.length)

/-- A text with its escapes replaced, of which there are at most so many, and whether it asks to stop.
Octal escapes may start with a zero. -/
def unescape : Nat → Chars → Chars → Chars × Bool
  | 0, _, done => (done.reverse, false)
  | _, [], done => (done.reverse, false)
  | bound + 1, '\x5c' :: rest, done =>
    match rest with
    | 'c' :: _ => (done.reverse, true)
    | '0' :: d :: after =>
      let (c, rest) := escape (if isOctal d then d :: after else '0' :: d :: after)
      unescape bound rest (c :: done)
    | rest =>
      let (c, rest) := escape rest
      unescape bound rest (c :: done)
  | bound + 1, c :: rest, done => unescape bound rest (c :: done)

/-- A text with its escapes replaced, and whether it asks to stop. -/
def interpret (cs : Chars) : Chars × Bool := unescape (cs.length + 1) cs []

/-- What `echo` prints for its arguments. -/
def echo (args : List Chars) : Chars :=
  let (args, ending) := match args with
    | ['-', 'n'] :: rest => (rest, [])
    | args => (args, ['\n'])
  go ending args
where
  go (ending : Chars) : List Chars → Chars
    | [] => ending
    | [arg] =>
      let (cs, stops) := interpret arg
      cs ++ if stops then [] else ending
    | arg :: rest =>
      let (cs, stops) := interpret arg
      cs ++ if stops then [] else ' ' :: go ending rest

/-! ### Layout -/

/-- How a value is laid out. -/
structure Layout where
  /-- It stands at the left of its column. -/
  left : Bool := false
  /-- Its column is filled with zeros. -/
  zeros : Bool := false
  /-- A plus shows that a number is not negative. -/
  plus : Bool := false
  /-- A blank shows that a number is not negative. -/
  space : Bool := false
  /-- The other form of a number. -/
  other : Bool := false
  /-- The width of its column. -/
  width : Nat := 0
  /-- How many digits or characters it has. -/
  precision : Option Nat := none
  deriving DecidableEq, Repr

namespace Layout

/-- The layout with one more flag. -/
def withFlag (l : Layout) : Char → Layout
  | '-' => { l with left := true }
  | '0' => { l with zeros := true }
  | '+' => { l with plus := true }
  | ' ' => { l with space := true }
  | _ => { l with other := true }

/-- The layout with a width, which is on the left if it is negative. -/
def withWidth (l : Layout) (n : Int) : Layout :=
  if n < 0 then { l with left := true, width := n.natAbs } else { l with width := n.toNat }

/-- A text in its column. -/
def place (l : Layout) (cs : Chars) : Chars :=
  let gap := List.replicate (l.width - cs.length) ' '
  if l.left then cs ++ gap else gap ++ cs

/-- A number in its column: its sign and mark, then its digits. -/
def placeNumber (l : Layout) (mayFill : Bool) (sign digits : Chars) : Chars :=
  if l.zeros && ! l.left && mayFill then
    sign ++ List.replicate (l.width - sign.length - digits.length) '0' ++ digits
  else l.place (sign ++ digits)

/-- The sign of a number. -/
def sign (l : Layout) (negative : Bool) : Chars :=
  if negative then ['-'] else if l.plus then ['+'] else if l.space then [' '] else []

/-- Digits, at least as many as the precision says. Nothing is left of a zero that needs no digit. -/
def digits (l : Layout) (n : Nat) (ds : Chars) : Chars :=
  match l.precision with
  | none => ds
  | some p => if n = 0 && p = 0 then [] else List.replicate (p - ds.length) '0' ++ ds

/-- A whole number with a sign. -/
def signed (l : Layout) (n : Int) : Chars :=
  l.placeNumber l.precision.isNone (l.sign (n < 0)) (l.digits n.natAbs (decimal n.natAbs))

/-- A whole number without a sign, in the notation of a directive. -/
def unsigned (l : Layout) (directive : Char) (n : Nat) : Chars :=
  let upper (cs : Chars) : Chars := cs.map Char.toUpper
  let place := l.placeNumber l.precision.isNone
  match directive with
  | 'o' =>
    let ds := l.digits n (Nat.toDigits 8 n)
    place [] (if l.other && ds.head? ≠ some '0' then '0' :: ds else ds)
  | 'x' => place (if l.other && n ≠ 0 then "0x".toList else []) (l.digits n (Nat.toDigits 16 n))
  | 'X' =>
    place (if l.other && n ≠ 0 then "0X".toList else [])
      (l.digits n (upper (Nat.toDigits 16 n)))
  | _ => place [] (l.digits n (decimal n))

/-- The digits of a real number, in the notation of a directive. -/
def realDigits (l : Layout) (directive : Char) (m : Nat) (e : Int) : Chars :=
  match directive with
  | 'f' => Real.fixed m e (l.precision.getD 6) l.other
  | 'e' => Real.scientific m e (l.precision.getD 6) l.other
  | 'g' => Real.general m e (l.precision.getD 6) l.other
  | _ => Real.hexadecimal m e l.precision l.other

/-- A real number, in the notation of a directive. -/
def real (l : Layout) (directive : Char) (x : Real) : Chars :=
  let text := match x with
    | .finite negative m e =>
      let digits := l.realDigits directive.toLower m e
      match digits with
      | '0' :: 'x' :: rest => l.placeNumber true (l.sign negative ++ "0x".toList) rest
      | digits => l.placeNumber true (l.sign negative) digits
    | .infinite negative => l.place (l.sign negative ++ "inf".toList)
    | .notNumber negative => l.place (l.sign negative ++ "nan".toList)
  if directive.isUpper then text.map Char.toUpper else text

end Layout

/-! ### Directives -/

/-- What has been made so far. -/
structure Draft where
  /-- What is printed, last part first. -/
  out : List Chars := []
  /-- The values that are left. -/
  values : List Chars
  /-- The complaints, last one first. -/
  complaints : List Chars := []
  deriving DecidableEq, Repr

namespace Draft

/-- Print something more. -/
def put (d : Draft) (cs : Chars) : Draft := { d with out := cs :: d.out }

/-- The next value, and the draft without it. Where none is left it is empty. -/
def take (d : Draft) : Chars × Draft :=
  match d.values with
  | [] => ([], d)
  | v :: values => (v, { d with values })

/-- Complain about a value of which something was left, or that was out of range. -/
def check (d : Draft) (value rest : Chars) (isBeyond : Bool) : Draft :=
  let complain (text : String) : Draft :=
    { d with complaints := (value ++ text.toList) :: d.complaints }
  if ! rest.isEmpty then
    complain (if rest.length = value.length then ": expected numeric value"
      else ": not completely converted")
  else if isBeyond then complain ": Numerical result out of range"
  else d

/-- The number of the character after a quote. -/
def ofQuote? : Chars → Option Nat
  | '\x22' :: rest | '\x27' :: rest => some ((rest.head?.map Char.toNat).getD 0)
  | _ => none

/-- The next value as a whole number with a sign. -/
def takeSigned (d : Draft) : Int × Draft :=
  let (v, d) := d.take
  match ofQuote? v with
  | some n => (n, d)
  | none =>
    let n := Numeral.read 0 v
    (n.value, d.check v n.rest n.beyond)

/-- The number after the greatest one without a sign. -/
def wordLimit : Nat := 0x10000000000000000

/-- The next value as a whole number without a sign. A negative one is counted from the other end. -/
def takeUnsigned (d : Draft) : Nat × Draft :=
  let (v, d) := d.take
  match ofQuote? v with
  | some n => (n, d)
  | none =>
    let n := Numeral.read 0 v
    let cs := v.dropWhile isSpace
    let negative := cs.head? == some '-'
    let cs := if negative || cs.head? == some '+' then cs.drop 1 else cs
    let (base, cs) := baseOf cs
    let size := (cs.takeWhile (isDigitOf base)).foldl
      (fun n c => base * n + (digitValue c).getD 0) 0
    let isBeyond := wordLimit ≤ size
    let value := if isBeyond then wordLimit - 1
      else if negative then (wordLimit - size) % wordLimit else size
    (if n.found then value else 0, d.check v n.rest isBeyond)

/-- The next value as a real number. -/
def takeReal (d : Draft) : Real × Draft :=
  let (v, d) := d.take
  match ofQuote? v with
  | some n => ((Real.nearest false n 1).1, d)
  | none =>
    let (x, isBeyond, rest) := Real.read v
    (x, d.check v rest isBeyond)

end Draft

/-- How a pass through a format ended. -/
inductive Pass where
  /-- At the end of the format. -/
  | ended (draft : Draft)
  /-- A value asked to stop. -/
  | stopped (draft : Draft)
  /-- The format makes no sense. -/
  | failed (draft : Draft) (reason : Chars)

/-- A width or a precision: a star takes it from the next value. Gives the number, if there is one, its
text, and the rest. -/
def measure (d : Draft) (cs : Chars) : Option Int × Chars × Chars × Draft :=
  match cs with
  | '*' :: rest =>
    let (n, d) := d.takeSigned
    (some (Int.bmod n 0x100000000), ['*'], rest, d)
  | cs =>
    let digits := cs.takeWhile Char.isDigit
    let n := if digits.isEmpty then none else some (((number? 10 false digits).getD 0))
    (n, digits, cs.drop digits.length, d)

/-- The greatest width that is laid out. -/
def maxWidth : Nat := 0x7FFFFFFF

/-- What a directive makes of the next value. The text of a directive is kept for messages. -/
def direct (l : Layout) (directive : Char) (text : Chars) (d : Draft) : Pass :=
  if maxWidth ≤ l.width then .ended (d.take).2
  else if directive == 's' then
    let (v, d) := d.take
    .ended (d.put (l.place (match l.precision with
      | some p => v.take p
      | none => v)))
  else if directive == 'b' then
    let (v, d) := d.take
    let (cs, stops) := interpret v
    let d := d.put (l.place (match l.precision with
      | some p => cs.take p
      | none => cs))
    if stops then .stopped d else .ended d
  else if directive == 'c' then
    let (v, d) := d.take
    .ended (d.put (l.place [v.headD '\x00']))
  else if ['d', 'i'].contains directive then
    let (n, d) := d.takeSigned
    .ended (d.put (l.signed n))
  else if ['o', 'u', 'x', 'X'].contains directive then
    let (n, d) := d.takeUnsigned
    .ended (d.put (l.unsigned directive n))
  else if ['a', 'A', 'e', 'E', 'f', 'F', 'g', 'G'].contains directive then
    let (x, d) := d.takeReal
    .ended (d.put (l.real directive x))
  else .failed d (text ++ ": invalid directive".toList)

/-- A directive, given what comes after its percent sign, and the rest. -/
def directive (d : Draft) (cs : Chars) : Pass × Chars :=
  let flags := cs.takeWhile ['#', '-', '+', ' ', '0'].contains
  let l := flags.foldl Layout.withFlag {}
  let (width, widthText, cs, d) := measure d (cs.drop flags.length)
  let l := (width.map l.withWidth).getD l
  let (precision, precisionText, cs, d) := match cs with
    | '.' :: rest =>
      let (n, text, rest, d) := measure d rest
      (some (n.getD 0), '.' :: text, rest, d)
    | cs => (none, [], cs, d)
  let l := { l with precision := (precision.filter (0 ≤ ·)).map Int.toNat }
  match cs with
  | [] => (.failed d "missing format character".toList, [])
  | c :: rest => (direct l c ('%' :: flags ++ widthText ++ precisionText ++ [c]) d, rest)

/-- Go through a format once, in at most so many steps. -/
def pass : Nat → Chars → Draft → Pass
  | 0, _, d => .ended d
  | _, [], d => .ended d
  | bound + 1, '\x5c' :: rest, d =>
    let (c, rest) := escape rest
    pass bound rest (d.put [c])
  | bound + 1, '%' :: '%' :: rest, d => pass bound rest (d.put ['%'])
  | bound + 1, '%' :: rest, d =>
    match directive d rest with
    | (.ended d, rest) => pass bound rest d
    | (other, _) => other
  | bound + 1, c :: rest, d => pass bound rest (d.put [c])

/-- What a format makes of values. -/
structure Printed where
  /-- What is printed. -/
  text : Chars
  /-- The complaints about values. -/
  complaints : List Chars
  /-- Why printing failed, if it did. -/
  reason : Option Chars := none
  deriving DecidableEq, Repr

/-- What a draft comes to. -/
def Draft.printed (d : Draft) (reason : Option Chars) : Printed :=
  { text := d.out.reverse.flatten, complaints := d.complaints.reverse, reason }

/-- Go through a format until all values are used up, at most so many times. A format that uses none
is gone through once. -/
def repeated (format : Chars) : Nat → Draft → Printed
  | 0, d => d.printed none
  | bound + 1, d =>
    match pass (format.length + 1) format d with
    | .stopped d => d.printed none
    | .failed d reason => d.printed (some reason)
    | .ended after =>
      if after.values.isEmpty || after.values.length = d.values.length then after.printed none
      else repeated format bound after

/-- What a format makes of values. -/
def print (format : Chars) (values : List Chars) : Printed :=
  repeated format (values.length + 1) { values }

end LineShell.Script.Format
