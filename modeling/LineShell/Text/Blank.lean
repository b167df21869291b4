/-!
# Blank characters

Which characters separate words and make a line count as blank: those with Unicode's
`White_Space` property. `Char.isWhitespace` knows four of them and is not used here.
-/

namespace LineShell.Text

/-- The character has Unicode's `White_Space` property. -/
def isBlank (c : Char) : Bool :=
  let n := c.toNat
  (0x09 ≤ n && n ≤ 0x0D) || n == 0x20 || n == 0x85 || n == 0xA0 || n == 0x1680 ||
    (0x2000 ≤ n && n ≤ 0x200A) || n == 0x2028 || n == 0x2029 || n == 0x202F || n == 0x205F ||
    n == 0x3000

/-- A text with nothing but blanks in it; the empty text is one. -/
def isBlankText (s : String) : Bool := s.toList.all isBlank

/-- The text without the blanks at its end. -/
def trimEnd (s : String) : String :=
  String.ofList (s.toList.reverse.dropWhile isBlank).reverse

/-- The text without the blanks at either end. -/
def trim (s : String) : String :=
  trimEnd (String.ofList (s.toList.dropWhile isBlank))

end LineShell.Text
