import LineShell.Script.Expansion

/-!
# Arguments of a script's built-in commands

What the built-in commands of a script have in common: options, numbers, and quoted values.
-/

namespace LineShell.Script

/-- A built-in command's work, given its arguments. -/
abbrev Action := List Chars → Eval Nat

/-- The letters of one argument. Gives the options found, each with its value if it takes one, and a
letter that waits for its value. -/
def optionLetters (plain valued : List Char) :
    Chars → Eval (List (Char × Chars) × Option Char)
  | [] => return ([], none)
  | c :: cs => do
    if plain.contains c then
      let (found, waiting) ← optionLetters plain valued cs
      return ((c, []) :: found, waiting)
    else if valued.contains c then
      return if cs.isEmpty then ([], some c) else ([(c, cs)], none)
    else fault ("Illegal option -".toList ++ [c])

/-- The options at the start of arguments, and the other arguments. -/
def takeOptions (plain valued : List Char) :
    List Chars → Eval (List (Char × Chars) × List Chars)
  | [] => return ([], [])
  | ('-' :: c :: cs) :: rest => do
    if c == '-' && cs.isEmpty then return ([], rest)
    else match ← optionLetters plain valued (c :: cs), rest with
      | (found, none), rest =>
        let (more, args) ← takeOptions plain valued rest
        return (found ++ more, args)
      | (_, some letter), [] => fault ("No arg for -".toList ++ letter :: " option".toList)
      | (found, some letter), value :: rest =>
        let (more, args) ← takeOptions plain valued rest
        return (found ++ (letter, value) :: more, args)
  | args => return ([], args)

/-- The arguments of a command that has no options. -/
def withoutOptions (args : List Chars) : Eval (List Chars) := return (← takeOptions [] [] args).2

/-- Fail because a text is no number. -/
def badNumber (text : Chars) : Eval α := fault ("Illegal number: ".toList ++ text)

/-- The greatest number that commands take. -/
def maxCount : Int := 0x7FFFFFFF

/-- The number that a text spells, which must not be negative. -/
def countOf (text : Chars) : Eval Nat := do
  match number? 10 false text with
  | some n => if n < 0 || maxCount < n then badNumber text else return n.toNat
  | none => badNumber text

/-- A text in quotes, as a script can read it. Single quotes stand in double quotes. -/
def singleQuoted (cs : Chars) : Chars := go (cs.length + 1) cs
where
  go : Nat → Chars → Chars
    | 0, _ => []
    | bound + 1, cs =>
      let (front, rest) := cs.span (· ≠ '\x27')
      let (quotes, rest) := rest.span (· == '\x27')
      '\x27' :: front ++ ['\x27'] ++
        (if quotes.isEmpty then [] else '\x22' :: quotes ++ ['\x22']) ++
        (if rest.isEmpty then [] else go bound rest)

/-- A line of output. -/
def sayLine (cs : Chars) : Eval Unit := say (cs ++ ['\n'])

end LineShell.Script
