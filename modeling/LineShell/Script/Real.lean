import LineShell.Script.Chars

/-!
# Real numbers

Numbers with a fraction, as a script reads and writes them.

## The model

A `Real` is one of the numbers that fit into 64 bits: a mantissa below 2⁵³ times a power of two, an
infinity, or no number. Reading rounds the number that is written to the nearest of them, and of two
to the even one; writing starts from its exact value. All arithmetic is on natural numbers.
-/

namespace LineShell.Script

/-- A real number. -/
inductive Real where
  /-- A mantissa times a power of two. -/
  | finite (negative : Bool) (mantissa : Nat) (exponent : Int)
  /-- An infinity. -/
  | infinite (negative : Bool)
  /-- No number. -/
  | notNumber (negative : Bool)
  deriving DecidableEq, Repr

namespace Real

/-- The quotient, rounded to the nearest number, and of two to the even one. -/
def roundDiv (num den : Nat) : Nat :=
  let q := num / den
  let twice := 2 * (num % den)
  if twice < den || (twice == den && q % 2 == 0) then q else q + 1

/-- A ratio times a power of two, as a ratio. -/
def scaled (num den : Nat) (power : Int) : Nat × Nat :=
  if power ≥ 0 then (num <<< power.toNat, den) else (num, den <<< (-power).toNat)

/-- The least exponent of a real number. -/
def minExponent : Int := -1074

/-- The number after the greatest mantissa. -/
def mantissaLimit : Nat := 0x20000000000000

/-- The real number nearest to a ratio, and whether it is out of range. -/
def nearest (negative : Bool) (num den : Nat) : Real × Bool :=
  if num = 0 then (.finite negative 0 0, false)
  else
    let low := max minExponent ((Nat.log2 num : Int) - Nat.log2 den - 53)
    let quotient (e : Int) : Nat × Nat := scaled num den (-e)
    let fits (e : Int) : Bool := (quotient e).1 / (quotient e).2 < mantissaLimit
    let e := if fits low then low else low + 1
    let (n, d) := quotient e
    let m := roundDiv n d
    if (Nat.log2 m : Int) + e ≥ 1024 then (.infinite negative, true)
    else if m = mantissaLimit then (.finite negative (m / 2) (e + 1), false)
    else (.finite negative m e, m < mantissaLimit / 2 && n % d ≠ 0)

/-! ### Reading -/

/-- The text without another one at its start, in capital letters or not. -/
def dropWord? (word : String) (cs : Chars) : Option Chars :=
  let n := word.length
  if (cs.take n).map Char.toLower == word.toList then some (cs.drop n) else none

/-- The exponent after its letter; nothing is used up if there is none. -/
def exponent (letters : List Char) (cs : Chars) : Int × Chars :=
  match cs with
  | c :: rest =>
    if ! letters.contains c then (0, cs)
    else
      let (negative, digits) := match rest with
        | '-' :: rest => (true, rest)
        | '+' :: rest => (false, rest)
        | rest => (false, rest)
      match digits.span Char.isDigit with
      | ([], _) => (0, cs)
      | (ds, rest) =>
        let n : Int := min 99999 (ds.foldl (fun n c => 10 * n + (digitValue c).getD 0) 0)
        (if negative then -n else n, rest)
  | [] => (0, cs)

/-- The digits of a number in a base, with a point among them: their value without the point, how
many stand after the point, and the rest; none if there are no digits. -/
def digits? (base : Nat) (cs : Chars) : Option (Nat × Nat × Chars) :=
  let (whole, rest) := cs.span (isDigitOf base)
  let (fraction, rest) := match rest with
    | '.' :: after => (after.takeWhile (isDigitOf base), after.dropWhile (isDigitOf base))
    | rest => ([], rest)
  if whole.isEmpty && fraction.isEmpty then none
  else
    let value := (whole ++ fraction).foldl (fun n c => base * n + (digitValue c).getD 0) 0
    some (value, fraction.length, rest)

/-- The number at the start of a text, after its sign. -/
def unsigned? (negative : Bool) (cs : Chars) : Option ((Real × Bool) × Chars) :=
  let decimal? : Option ((Real × Bool) × Chars) := do
    let (value, places, rest) ← digits? 10 cs
    let (e, rest) := exponent ['e', 'E'] rest
    let e := e - places
    -- beyond these powers every number is out of range
    let e := max (-20000 : Int) (min 20000 e)
    return (if e ≥ 0 then nearest negative (value * Nat.pow 10 e.toNat) 1
      else nearest negative value (Nat.pow 10 (-e).toNat), rest)
  let hex? : Option ((Real × Bool) × Chars) := do
    let after ← dropWord? "0x" cs
    let (value, places, rest) ← digits? 16 after
    let (e, rest) := exponent ['p', 'P'] rest
    let e := max (-20000 : Int) (min 20000 (e - 4 * places))
    let (n, d) := scaled value 1 e
    return (nearest negative n d, rest)
  let infinite? : Option ((Real × Bool) × Chars) := do
    let rest ← dropWord? "inf" cs
    return ((.infinite negative, false), (dropWord? "inity" rest).getD rest)
  let notNumber? : Option ((Real × Bool) × Chars) := do
    let rest ← dropWord? "nan" cs
    let rest := match rest with
      | '(' :: inner =>
        match inner.dropWhile isNameChar with
        | ')' :: after => after
        | _ => rest
      | _ => rest
    return ((.notNumber negative, false), rest)
  hex?.or (infinite?.or (notNumber?.or decimal?))

/-- Read a number at the start of a text: the number, whether it is out of range, and the rest. Where
there is no number the text is left as it is. -/
def read (text : Chars) : Real × Bool × Chars :=
  let cs := text.dropWhile isSpace
  let (negative, cs) := match cs with
    | '-' :: cs => (true, cs)
    | '+' :: cs => (false, cs)
    | cs => (false, cs)
  match unsigned? negative cs with
  | some ((value, isBeyond), rest) => (value, isBeyond, rest)
  | none => (.finite false 0 0, false, text)

/-! ### Writing -/

/-- The digits of a number in decimal notation, at least so many of them. -/
def digitsOf (n : Nat) (least : Nat) : Chars :=
  let ds := decimal n
  List.replicate (least - ds.length) '0' ++ ds

/-- Digits with a point before the last ones. -/
def pointed (n places : Nat) (keepPoint : Bool) : Chars :=
  let ds := digitsOf n (places + 1)
  let whole := ds.take (ds.length - places)
  let fraction := ds.drop (ds.length - places)
  whole ++ if places = 0 && ! keepPoint then [] else '.' :: fraction

/-- How many places after the point can have another digit than zero. -/
def maxPlaces : Nat := 1100

/-- The number without an exponent, with so many places after the point. -/
def fixed (m : Nat) (e : Int) (places : Nat) (keepPoint : Bool) : Chars :=
  let (n, d) := scaled m 1 e
  let exact := min places maxPlaces
  pointed (roundDiv (n * Nat.pow 10 exact) d) exact keepPoint ++ List.replicate (places - exact) '0'

/-- The power of ten of the first digit of a ratio. -/
def magnitude (n d : Nat) : Int :=
  if n ≥ d then ((decimal (n / d)).length : Int) - 1
  else
    let guess := ((decimal (d / n)).length : Int)
    -- the ratio is at least 10 ^ -guess, and below 10 ^ (1 - guess) unless it is that power
    if n * Nat.pow 10 (guess.toNat - 1) ≥ d then 1 - guess else -guess

/-- The digits of a number, one before the point and so many after it, and its power of ten. -/
def rounded (m : Nat) (e : Int) (places : Nat) : Nat × Int :=
  if m = 0 then (0, 0)
  else
    let (n, d) := scaled m 1 e
    let x := magnitude n d
    let shift := (places : Int) - x
    let q := if shift ≥ 0 then roundDiv (n * Nat.pow 10 shift.toNat) d
      else roundDiv n (d * Nat.pow 10 (-shift).toNat)
    if q ≥ Nat.pow 10 (places + 1) then (q / 10, x + 1) else (q, x)

/-- An exponent with its letter and its sign, and at least so many digits. -/
def exponentText (letter : Char) (x : Int) (least : Nat) : Chars :=
  letter :: (if x < 0 then '-' else '+') :: digitsOf x.natAbs least

/-- The number with an exponent, and so many places after the point. -/
def scientific (m : Nat) (e : Int) (places : Nat) (keepPoint : Bool) : Chars :=
  let exact := min places maxPlaces
  let (q, x) := rounded m e exact
  pointed q exact keepPoint ++ List.replicate (places - exact) '0' ++ exponentText 'e' x 2

/-- Digits without zeros after the point, and without a point at the end. -/
def stripZeros (cs : Chars) : Chars :=
  if cs.contains '.' then
    ((cs.reverse.dropWhile (· == '0')).dropWhile (· == '.')).reverse
  else cs

/-- The number with so many digits that count, in the shorter of the two ways. -/
def general (m : Nat) (e : Int) (precision : Nat) (keepZeros : Bool) : Chars :=
  let p := if precision = 0 then 1 else if keepZeros then precision else min precision maxPlaces
  let (q, x) := rounded m e (p - 1)
  let strip (cs : Chars) : Chars := if keepZeros then cs else stripZeros cs
  if x < -4 || x ≥ p then
    strip (pointed q (p - 1) keepZeros) ++ exponentText 'e' x 2
  else strip (fixed m e ((p : Int) - 1 - x).toNat keepZeros)

/-- The digits of a number to the base 16, at least so many. -/
def hexDigits (n : Nat) (least : Nat) : Chars :=
  let ds := Nat.toDigits 16 n
  List.replicate (least - ds.length) '0' ++ ds

/-- The number to the base 16, with a power of two; with so many places after the point, or as many as
it needs. -/
def hexadecimal (m : Nat) (e : Int) (places : Option Nat) (keepPoint : Bool) : Chars :=
  -- thirteen digits stand after the point of a whole mantissa
  let (m, e) := if m ≥ mantissaLimit / 2 || m = 0 then (m, e)
    else
      let shift := min (52 - Nat.log2 m) (e - minExponent).toNat
      (m <<< shift, e - shift)
  let x := if m = 0 then 0 else e + 52
  let (digits, n) := match places with
    | some p => if p ≥ 13 then (m <<< (4 * (p - 13)), p)
      else (roundDiv m (1 <<< (4 * (13 - p))), p)
    | none => (m, 13)
  let whole := digits >>> (4 * n)
  let fraction := hexDigits (digits - (whole <<< (4 * n))) n
  let fraction := if places.isSome then fraction.take n
    else (fraction.reverse.dropWhile (· == '0')).reverse
  let point := if fraction.isEmpty && ! keepPoint then [] else ['.']
  let fraction := if n = 0 then [] else fraction
  "0x".toList ++ decimal whole ++ point ++ fraction ++ exponentText 'p' x 1

end Real

end LineShell.Script
