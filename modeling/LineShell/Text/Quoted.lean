import LineShell.Text.Extending
import LineShell.Text.Unprintable

/-!
# Quoted text

The form in which messages and log records show a text: between double quotes, with an escape for
every character that would not show as itself.
-/

namespace LineShell.Text

/-- The escape that gives a character by its code point. -/
def codePoint (c : Char) : String :=
  "\\u\x7b" ++ String.ofList (Nat.toDigits 16 c.toNat) ++ "\x7d"

/-- The character shows only upon the one before it. The halfwidth voicing marks extend a cluster
too, but have a picture of their own. -/
def attaches (c : Char) : Bool := isExtending c && c.toNat ≠ 0xFF9E && c.toNat ≠ 0xFF9F

/-- A character as quoted text shows it. -/
def quoteChar (c : Char) : String :=
  if c.toNat = 0 then "\\0"
  else if c = '\t' then "\\t"
  else if c = '\r' then "\\r"
  else if c = '\n' then "\\n"
  else if c = '\x22' ∨ c = '\x5c' then "\\" ++ String.singleton c
  else if attaches c || isUnprintable c then codePoint c
  else String.singleton c

/-- A text between double quotes. -/
def quote (s : String) : String := "\"" ++ String.join (s.toList.map quoteChar) ++ "\""

/-- A list of texts, each quoted. -/
def quoteList (ss : List String) : String := "[" ++ ", ".intercalate (ss.map quote) ++ "]"

end LineShell.Text
