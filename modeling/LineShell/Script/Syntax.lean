import LineShell.Script.Chars

/-!
# Commands of a script

The form of a script: commands, the words they are made of, and the redirections around them.

## The model

A word is a row of `Part`s: characters, and expansions that are replaced when the word is used. Each
part knows whether it stood in quotes, and a `Part.mark` stands where quotes began or ended, so that
empty quotes still make a word. The text of a here-document is read after the line that asks for it,
so it is kept in a table of its own, and the redirection holds its place there.
-/

namespace LineShell.Script

/-- What is asked of a parameter. -/
inductive Query where
  /-- Its value. -/
  | value
  /-- The length of its value. -/
  | length
  /-- Its value, or else a word. -/
  | orElse
  /-- A word, if it has a value. -/
  | andThen
  /-- Its value, or else a word, which it is given. -/
  | orAssign
  /-- Its value, or else a failure with a word as its message. -/
  | orFail
  /-- Its value without what a pattern matches at the start, as little or as much as possible. -/
  | dropFront (greedy : Bool)
  /-- Its value without what a pattern matches at the end, as little or as much as possible. -/
  | dropBack (greedy : Bool)
  /-- Something that makes no sense. -/
  | senseless
  deriving DecidableEq, Repr

/-- How a file is bound to a descriptor. -/
inductive Binding where
  /-- To read it. -/
  | input
  /-- To write to it; its contents are lost. -/
  | output
  /-- To write to it even where files are protected from that. -/
  | force
  /-- To write at its end. -/
  | append
  /-- To read it and write to it. -/
  | both
  deriving DecidableEq, Repr

mutual

/-- A part of a word. -/
inductive Part where
  /-- A character. -/
  | char (c : Char) (quoted : Bool)
  /-- The start or the end of quotes. -/
  | mark
  /-- The value of a parameter; `empty` says whether an empty value counts as none. -/
  | param (name : Chars) (query : Query) (empty : Bool) (word : List Part) (quoted : Bool)
  /-- What a command writes. -/
  | output (command : Option Command) (quoted : Bool)
  /-- The value of an expression. -/
  | arithmetic (text : List Part) (quoted : Bool)

/-- A redirection. -/
inductive Redirect where
  /-- Bind a descriptor to a file. -/
  | file (fd : Nat) (binding : Binding) (name : List Part)
  /-- Bind a descriptor to what another one is bound to. -/
  | copy (fd : Nat) (target : List Part)
  /-- Bind a descriptor to a here-document, by its place in the table, with or without expansions. -/
  | here (fd : Nat) (doc : Nat) (expand : Bool)

/-- A command. Numbers are those of the lines where commands stand. -/
inductive Command where
  /-- Assignments, words and redirections. -/
  | simple (line : Nat) (assignments words : List (List Part)) (redirects : List Redirect)
  /-- Commands of which each reads what the one before it writes. -/
  | pipe (stages : List Command) (background : Bool)
  /-- A command with redirections. -/
  | redirected (line : Nat) (body : Command) (redirects : List Redirect)
  /-- A command that nobody waits for. -/
  | background (line : Nat) (body : Command) (redirects : List Redirect)
  /-- A command in a process of its own. -/
  | subshell (line : Nat) (body : Command) (redirects : List Redirect)
  /-- One command after the other. -/
  | seq (first second : Command)
  /-- The second command runs if the first succeeds. -/
  | both (first second : Command)
  /-- The second command runs if the first fails. -/
  | either (first second : Command)
  /-- A command whose success counts as failure, and the other way round. -/
  | not (body : Command)
  /-- A choice. -/
  | cond (test yes : Command) (no : Option Command)
  /-- A loop that goes on as long as a test succeeds, or fails. -/
  | loop (succeeds : Bool) (test body : Command)
  /-- A loop over words. -/
  | each (line : Nat) (name : String) (words : List (List Part)) (body : Command)
  /-- A choice by patterns. -/
  | select (line : Nat) (subject : List Part) (arms : List (List (List Part) × Option Command))
  /-- The definition of a function. -/
  | define (line : Nat) (name : String) (body : Command)

end

/-- A word. -/
abbrev Word := List Part

namespace Word

/-- The characters of a word that has nothing but characters outside quotes. -/
def plain? : Word → Option Chars
  | [] => some []
  | .char c false :: rest => (plain? rest).map (c :: ·)
  | _ => none

/-- The characters outside quotes at the start of a word. -/
def front : Word → Chars
  | .char c false :: rest => c :: front rest
  | _ => []

/-- The word starts as an assignment does. -/
def isAssignment (word : Word) : Bool := (assignment? (front word)).isSome

end Word

end LineShell.Script
