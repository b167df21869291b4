import LineShell.Script.Chars

/-!
# Patterns

Patterns for texts: `*` stands for any text, `?` for any character, and brackets for one character
of a set.

## The model

A pattern comes as characters, each of which may be kept from having a meaning. `Item.ofMarked` finds
the items of a pattern and `Pattern.accepts` tells which texts it stands for.
-/

namespace LineShell.Script

/-- A character of a pattern. -/
structure Marked where
  /-- The character. -/
  char : Char
  /-- It has no meaning of its own. -/
  quoted : Bool
  deriving DecidableEq, Repr

/-- A member of a set of characters. -/
inductive Member where
  /-- The characters from one to another. -/
  | range (first last : Char)
  /-- The characters of a class. -/
  | ofClass (name : String)
  deriving DecidableEq, Repr

/-- The classes of characters, by name. -/
def charClasses : List (String × (Char → Bool)) :=
  let isPrint := fun (c : Char) => 0x20 ≤ c.toNat && c.toNat < 0x7F
  let isGraph := fun (c : Char) => 0x20 < c.toNat && c.toNat < 0x7F
  [("alnum", Char.isAlphanum), ("alpha", Char.isAlpha), ("blank", fun c => c == ' ' || c == '\t'),
    ("cntrl", fun c => c.toNat < 0x20 || c.toNat == 0x7F), ("digit", Char.isDigit),
    ("graph", isGraph), ("lower", Char.isLower), ("print", isPrint),
    ("punct", fun c => isGraph c && ! c.isAlphanum), ("space", isSpace), ("upper", Char.isUpper),
    ("xdigit", isDigitOf 16)]

namespace Member

/-- The member includes a character. -/
def accepts (m : Member) (c : Char) : Bool :=
  match m with
  | .range first last => first ≤ c && c ≤ last
  | .ofClass name => ((charClasses.lookup name).map (· c)).getD false

end Member

/-- An item of a pattern. -/
inductive Item where
  /-- The character itself. -/
  | char (c : Char)
  /-- Any character. -/
  | any
  /-- Any text. -/
  | star
  /-- One character of a set, or one that is not in it. -/
  | oneOf (inverted : Bool) (members : List Member)
  deriving DecidableEq, Repr

namespace Item

/-- The character has this meaning. -/
def means (m : Marked) (c : Char) : Bool := m.char == c && ! m.quoted

/-- The class at the start of a text that follows an opening bracket, and what comes after it. -/
def class? (cs : List Marked) : Option (String × List Marked) :=
  match cs with
  | m :: rest =>
    if m.char ≠ ':' then none
    else
      charClasses.findSome? fun (name, _) =>
        let ending := name.toList ++ [':', ']']
        if (rest.take ending.length).map (·.char) == ending
        then some (name, rest.drop ending.length) else none
  | [] => none

/-- The character at the start of a set's text, without a backslash that takes its meaning, and what
comes after it. -/
def literal (m : Marked) (rest : List Marked) : Marked × List Marked :=
  match rest with
  | next :: beyond => if means m '\x5c' then ({ next with quoted := true }, beyond) else (m, rest)
  | [] => (m, rest)

/-- The members of a set up to its closing bracket, at most so many, and what comes after it. The
first member may be a bracket itself. -/
def members : Nat → List Member → List Marked → Option (List Member × List Marked)
  | 0, _, _ => none
  | _, _, [] => none
  | bound + 1, found, m :: rest =>
    if means m ']' && ! found.isEmpty then some (found.reverse, rest)
    else
      match if means m '[' then class? rest else none with
      | some (name, rest) => members bound (.ofClass name :: found) rest
      | none =>
        let (first, rest) := literal m rest
        match rest with
        | dash :: last :: beyond =>
          if means dash '-' && ! means last ']' then
            let (last, beyond) := literal last beyond
            members bound (.range first.char last.char :: found) beyond
          else members bound (.range first.char first.char :: found) rest
        | _ => members bound (.range first.char first.char :: found) rest

/-- The set at the start of a text that follows an opening bracket, and what comes after it. -/
def set? (cs : List Marked) : Option (Item × List Marked) :=
  let (inverted, cs) := match cs with
    | m :: rest => if means m '!' then (true, rest) else (false, cs)
    | [] => (false, cs)
  (members (cs.length + 1) [] cs).map fun (ms, rest) => (.oneOf inverted ms, rest)

/-- The items of a pattern, of which there are at most so many. A backslash takes the meaning from
the character after it, and a bracket that nothing closes stands for itself. -/
def ofMarked : Nat → List Marked → List Item
  | 0, _ => []
  | _, [] => []
  | bound + 1, m :: rest =>
    if m.quoted then .char m.char :: ofMarked bound rest
    else match m.char, rest with
      | '\x5c', c :: rest => .char c.char :: ofMarked bound rest
      | '?', _ => .any :: ofMarked bound rest
      | '*', _ => .star :: ofMarked bound rest
      | '[', _ =>
        match set? rest with
        | some (item, rest) => item :: ofMarked bound rest
        | none => .char '[' :: ofMarked bound rest
      | c, _ => .char c :: ofMarked bound rest

/-- The item stands for a character. -/
def accepts (i : Item) (c : Char) : Bool :=
  match i with
  | .char d => d == c
  | .any => true
  | .star => false
  | .oneOf inverted ms => (ms.any (·.accepts c)) != inverted

end Item

/-- A pattern. -/
abbrev Pattern := List Item

namespace Pattern

/-- The pattern of marked characters. -/
def ofMarked (cs : List Marked) : Pattern := Item.ofMarked (cs.length + 1) cs

/-- The pattern in which every character has its meaning. -/
def ofChars (cs : Chars) : Pattern := ofMarked (cs.map ({ char := ·, quoted := false }))

/-- Some text that remains after dropping characters from the front is accepted. -/
def anyTail (accepts : Chars → Bool) : Chars → Bool
  | [] => accepts []
  | c :: cs => accepts (c :: cs) || anyTail accepts cs

/-- The pattern stands for a text. -/
def accepts : Pattern → Chars → Bool
  | [], cs => cs.isEmpty
  | .star :: items, cs => anyTail (accepts items) cs
  | item :: items, c :: cs => item.accepts c && accepts items cs
  | _ :: _, [] => false

/-- The pattern has a character with a meaning. -/
def isActive (p : Pattern) : Bool :=
  p.any fun
    | .char _ => false
    | _ => true

end Pattern

end LineShell.Script
