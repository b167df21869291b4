/-!
# Decimal numbers

Reads whole numbers: an optional sign, then ASCII digits and nothing else, up to a limit. Shows them in
columns.
-/

namespace LineShell.Text

/-- Why a text is no number. -/
inductive NotNumber where
  /-- There is no text. -/
  | empty
  /-- Something other than a digit stands in it. -/
  | invalidDigit
  /-- The number exceeds the limit. -/
  | tooLarge
  /-- The number falls below the limit. -/
  | tooSmall
  deriving DecidableEq, Repr

/-- The reason in words. -/
def NotNumber.message : NotNumber → String
  | .empty => "cannot parse integer from empty string"
  | .invalidDigit => "invalid digit found in string"
  | .tooLarge => "number too large to fit in target type"
  | .tooSmall => "number too small to fit in target type"

/-- A number set to the right of a column of the given width. -/
def aligned (width n : Nat) : String := "".pushn ' ' (width - (toString n).length) ++ toString n

/-- The number whose first digits gave `n` and whose other digits are given. The first fault from the
left decides: a character that is no digit, or a digit that takes the number beyond the limit. -/
def digits (limit : Nat) (beyond : NotNumber) : Nat → List Char → Except NotNumber Nat
  | n, [] => .ok n
  | n, c :: cs =>
    if '0' ≤ c ∧ c ≤ '9' then
      let m := 10 * n + (c.toNat - '0'.toNat)
      if limit < m then .error beyond else digits limit beyond m cs
    else .error .invalidDigit

/-- At least one digit. -/
def someDigits (limit : Nat) (beyond : NotNumber) : List Char → Except NotNumber Nat
  | [] => .error .invalidDigit
  | cs => digits limit beyond 0 cs

/-- The number without a minus sign that a text spells, up to `limit`. -/
def natural (limit : Nat) (s : String) : Except NotNumber Nat :=
  match s.toList with
  | [] => .error .empty
  | '+' :: cs => someDigits limit .tooLarge cs
  | cs => someDigits limit .tooLarge cs

/-- The number that a text spells, from `-limit - 1` to `limit`. -/
def integer (limit : Nat) (s : String) : Except NotNumber Int :=
  match s.toList with
  | [] => .error .empty
  | '-' :: cs => (someDigits (limit + 1) .tooSmall cs).map fun n => -(n : Int)
  | '+' :: cs => (someDigits limit .tooLarge cs).map Int.ofNat
  | cs => (someDigits limit .tooLarge cs).map Int.ofNat

end LineShell.Text
