import LineShell.Text.Blank

/-!
# Words

A command line is cut into words at blanks. Quotes and backslashes keep characters together, and an
unquoted pipe symbol is a word of its own. Cutting never fails: a quote that is still open at the
end of the line closes there.

## The model

`scan` reads the line character by character. Its state is a `Mode`, which says how the next
character is to be taken, and the word under way: `none` between words, otherwise the characters
collected so far, last one first. A pair of quotes starts a word even if nothing stands between
them, so `some []` and `none` differ. A word does not remember how it was written: a quoted pipe
symbol and a bare one give the same word.
-/

namespace LineShell

namespace Words

/-- The pipe symbol as a word. -/
def pipe : String := "|"

/-- The character that takes away the meaning of the next one. -/
def backslash : Char := '\x5c'

/-- The character that opens and closes text taken as it stands. -/
def singleQuote : Char := '\x27'

/-- The character that opens and closes text in which some escapes work. -/
def doubleQuote : Char := '\x22'

/-- The characters that a backslash escapes between double quotes. -/
def isSpecial (c : Char) : Bool :=
  c == backslash || c == doubleQuote || c == '$' || c == '\x60'

/-- How the next character is taken. -/
inductive Mode where
  /-- Outside quotes. -/
  | bare
  /-- After a backslash outside quotes: the next character stands for itself. -/
  | escaped
  /-- Between single quotes. -/
  | single
  /-- Between double quotes. -/
  | double
  /-- After a backslash between double quotes. -/
  | doubleEscaped
  deriving DecidableEq, Repr

/-- The word under way, last character first; `none` between words. -/
abbrev Pending := Option (List Char)

/-- The word under way with one more character. -/
def push (word : Pending) (c : Char) : Pending := some (c :: word.getD [])

/-- The word under way, as the words that end with it: one or none. -/
def finish (word : Pending) : List String :=
  (word.map fun cs => String.ofList cs.reverse).toList

/-- The words of the rest of a line. -/
def scan : Mode → Pending → List Char → List String
  | .doubleEscaped, word, [] => finish (push word backslash)
  | _, word, [] => finish word
  | .bare, word, c :: cs =>
    if Text.isBlank c then finish word ++ scan .bare none cs
    else if c = '|' then finish word ++ pipe :: scan .bare none cs
    else if c = backslash then scan .escaped word cs
    else if c = singleQuote then scan .single (some (word.getD [])) cs
    else if c = doubleQuote then scan .double (some (word.getD [])) cs
    else scan .bare (push word c) cs
  | .escaped, word, c :: cs => scan .bare (push word c) cs
  | .single, word, c :: cs =>
    if c = singleQuote then scan .bare word cs else scan .single (push word c) cs
  | .double, word, c :: cs =>
    if c = doubleQuote then scan .bare word cs
    else if c = backslash then scan .doubleEscaped word cs
    else scan .double (push word c) cs
  | .doubleEscaped, word, c :: cs =>
    if isSpecial c then scan .double (push word c) cs
    else scan .double (push (push word backslash) c) cs

end Words

/-- The words of a command line, pipe symbols among them. -/
def words (line : String) : List String := Words.scan .bare none line.toList

end LineShell
