import LineShell.Text.Blank
import LineShell.Trie

/-!
# Completion

What may stand in place of a beginning: the candidates that a `Completer` knows for it, the beginning
that candidates have in common, and the completion of the word before a position of a line.
-/

namespace LineShell

/-- The candidates for a beginning, in the order in which they are shown. -/
abbrev Completer := String → List String

namespace Completion

/-- The completer that knows a fixed list of words. -/
def ofWords (ws : List String) : Completer := (Trie.ofList ws).completions

/-- The longest beginning of both lists. -/
def sharedPrefix : List Char → List Char → List Char
  | a :: as, b :: bs => if a = b then a :: sharedPrefix as bs else []
  | _, _ => []

/-- The longest text that every word begins with; the empty text for no words. -/
def commonPrefix : List String → String
  | [] => ""
  | w :: ws => String.ofList (ws.foldl (fun p v => sharedPrefix p v.toList) w.toList)

/-- The characters of a line before a byte position; `none` if the line is shorter than that or the
position falls inside a character. -/
def before? : Nat → List Char → Option (List Char)
  | 0, _ => some []
  | _ + 1, [] => none
  | n + 1, c :: cs =>
    if c.utf8Size ≤ n + 1 then (before? (n + 1 - c.utf8Size) cs).map (c :: ·) else none
termination_by structural _ cs => cs

/-- The characters of a line from a byte position on; `none` if the line is shorter than that or the
position falls inside a character. -/
def from? : Nat → List Char → Option (List Char)
  | 0, cs => some cs
  | _ + 1, [] => none
  | n + 1, c :: cs => if c.utf8Size ≤ n + 1 then from? (n + 1 - c.utf8Size) cs else none
termination_by structural _ cs => cs

/-- The characters of a text that starts at a byte position, each with the position at which it starts. -/
def placed : Nat → List Char → List (Nat × Char)
  | _, [] => []
  | place, c :: cs => (place, c) :: placed (place + c.utf8Size) cs

/-- The byte position at which the word at the end of a text starts: behind the last blank. -/
def wordStart (text : List Char) : Nat :=
  ((placed 0 text).reverse.find? fun pair => Text.isBlank pair.2).elim 0 fun pair => pair.1 + pair.2.utf8Size

/-- What completing the word before a position of a line offers. -/
structure Offer where
  /-- The byte position at which the word starts. -/
  start : Nat
  /-- What the word may be replaced with. A single candidate ends with a space. -/
  candidates : List String
  deriving DecidableEq, Repr

/-- The candidates, with a space after the only one. -/
def spaced : List String → List String
  | [only] => [only ++ " "]
  | many => many

/-- Complete the word before byte position `pos` of a line; `none` where that is no position between
two characters. -/
def atPosition? (completer : Completer) (line : String) (pos : Nat) : Option Offer :=
  (before? pos line.toList).bind fun text =>
    (from? (wordStart text) text).map fun word =>
      { start := wordStart text, candidates := spaced (completer (String.ofList word)) }

end Completion

end LineShell
