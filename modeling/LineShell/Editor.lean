import LineShell.Completion
import LineShell.Failure
import LineShell.Key

/-!
# The line editor

Reads one line from a terminal that sends single keys and echoes nothing by itself. The editor shows
the prompt, echoes what is typed, recalls earlier lines and completes what has been entered.

## The model

`react` gives the answer to one key: the next state, what is done to the screen, and the end of the
line, if the key ends it. What is done to the screen is a list of `Action`s, each a piece of text
written as a whole, or a flush; `perform` carries them out on a `Screen`, which may be limited.
`readLine` puts these together with the decoder of keys and with the terminal's mode, and returns a
record of everything that happened, so that what the user sees is a value to reason about.
-/

namespace LineShell

namespace Editor

/-- Rings the bell. -/
def bell : String := "\x07"

/-- Wipes the character before the cursor. -/
def erase : String := "\x08 \x08"

/-- Goes to the start of the row and wipes it. -/
def clearRow : String := "\x0d\x1b[K"

/-- Something done to the screen. -/
inductive Action where
  /-- Write a piece of text, as a whole or not at all. -/
  | write (text : String)
  /-- Push out what was written. -/
  | flush
  deriving DecidableEq, Repr

/-- What stays the same while a line is read. -/
structure Setting where
  /-- The text before the line. -/
  prompt : String := "$ "
  /-- The earlier lines, oldest first. -/
  history : List String := []
  /-- The candidates for what has been entered. -/
  completer : Completer := fun _ => []

/-- The state of a line that is being read. -/
structure State where
  /-- What has been entered. -/
  buffer : String := ""
  /-- The place in the history; its length stands for the line that is being entered. -/
  cursor : Nat
  /-- The line being entered, kept while the history is browsed. -/
  saved : Option String := none
  /-- The buffer at the last Tab, while no other key was pressed since. -/
  lastTab : Option String := none
  /-- That Tab found several candidates and could not choose. -/
  undecided : Bool := false
  deriving DecidableEq, Repr

/-- The state in which no Tab is remembered. -/
def State.calm (state : State) : State := { state with lastTab := none, undecided := false }

/-- The state in which a Tab is remembered that could not choose. -/
def State.unsure (state : State) : State := { state with lastTab := some state.buffer, undecided := true }

/-- The buffer at the last key, if that was a Tab that found several candidates and could not choose. -/
def State.ambiguous (state : State) : Option String := if state.undecided then state.lastTab else none

@[simp] theorem State.buffer_calm (state : State) : state.calm.buffer = state.buffer := rfl
@[simp] theorem State.cursor_calm (state : State) : state.calm.cursor = state.cursor := rfl
@[simp] theorem State.saved_calm (state : State) : state.calm.saved = state.saved := rfl
@[simp] theorem State.ambiguous_calm (state : State) : state.calm.ambiguous = none := rfl
@[simp] theorem State.buffer_unsure (state : State) : state.unsure.buffer = state.buffer := rfl
@[simp] theorem State.cursor_unsure (state : State) : state.unsure.cursor = state.cursor := rfl
@[simp] theorem State.saved_unsure (state : State) : state.unsure.saved = state.saved := rfl
@[simp] theorem State.ambiguous_unsure (state : State) : state.unsure.ambiguous = some state.buffer := rfl

/-- How a line ends. -/
inductive Outcome where
  /-- A line was entered. -/
  | line (text : String)
  /-- There are no more lines. -/
  | ended
  deriving DecidableEq, Repr

/-- The answer to a key. -/
structure Reaction where
  /-- The state after it. -/
  state : State
  /-- What is done to the screen, in order. -/
  actions : List Action
  /-- How the line ended, if the key ended it. -/
  outcome : Option Outcome := none
  deriving DecidableEq, Repr

/-- Go on with the next key: what was written is pushed out first. -/
def goOn (state : State) (texts : List String) : Reaction :=
  { state, actions := texts.map .write ++ [.flush] }

/-- End the line. -/
def stop (state : State) (text : String) (outcome : Outcome) : Reaction :=
  { state, actions := [.write text, .flush], outcome := some outcome }

/-- The pieces that show a line afresh. -/
def redraw (setting : Setting) (line : String) : List String := [clearRow, setting.prompt, line]

/-- What stands after `start` in `text`; `none` if `text` does not begin so. -/
def rest? : List Char → List Char → Option (List Char)
  | [], text => some text
  | _ :: _, [] => none
  | c :: start, d :: text => if c = d then rest? start text else none

/-- Replace the buffer. Only what is new is written if the new text goes on from the old one. -/
def replaceWith (setting : Setting) (state : State) (text : String) : Reaction :=
  goOn { state with buffer := text } <|
    match rest? state.buffer.toList text.toList with
    | some rest => [String.ofList rest]
    | none => redraw setting text

/-- The pieces that list the candidates and show the line again below them. -/
def listing (setting : Setting) (candidates : List String) (line : String) : List String :=
  ["\n", "  ".intercalate candidates, "\n", setting.prompt, line]

/-- Complete what has been entered. A single candidate is taken, with a space after it. Of several
the common beginning is taken; where that is nothing new the first Tab rings the bell and the next
one lists them. -/
def complete (setting : Setting) (state : State) : Reaction :=
  match setting.completer state.buffer with
  | [] => goOn state.calm [bell]
  | [only] => replaceWith setting state.calm (only ++ " ")
  | candidates =>
    let common := Completion.commonPrefix candidates
    if common.utf8ByteSize > state.buffer.utf8ByteSize then replaceWith setting state.calm common
    else if state.undecided && state.lastTab == some state.buffer then
      goOn state.calm (listing setting candidates state.buffer)
    else goOn state.unsure [bell]

/-- Recall the line before the one shown. -/
def earlier (setting : Setting) (state : State) : Reaction :=
  let count := setting.history.length
  if count = 0 then goOn state []
  else
    let cursor := min state.cursor count - 1
    let line := setting.history.getD cursor ""
    let saved := if count ≤ state.cursor then some state.buffer else state.saved
    goOn { state with buffer := line, cursor, saved } (redraw setting line)

/-- Recall the line after the one shown; after the last one, the line that was being entered. -/
def later (setting : Setting) (state : State) : Reaction :=
  if setting.history.length ≤ state.cursor then goOn state []
  else
    let cursor := state.cursor + 1
    match setting.history[cursor]? with
    | some line => goOn { state with buffer := line, cursor } (redraw setting line)
    | none =>
      let line := state.saved.getD ""
      goOn { state with buffer := line, cursor, saved := none } (redraw setting line)

/-- The text without its last character. -/
def dropLast (s : String) : String := String.ofList s.toList.dropLast

/-- The answer to a key other than Tab. -/
def reactPlain (setting : Setting) (state : State) : Key → Reaction
  | .enter => stop state "\n" (.line state.buffer)
  | .endOfInput =>
    if state.buffer.isEmpty then { state, actions := [], outcome := some .ended }
    else stop state "\n" (.line state.buffer)
  | .interrupt => stop state "^C\n" (.line "")
  | .endOfText => if state.buffer.isEmpty then stop state "\n" .ended else goOn state []
  | .char c => goOn { state with buffer := state.buffer.push c } [String.singleton c]
  | .backspace =>
    if state.buffer.isEmpty then goOn state []
    else goOn { state with buffer := dropLast state.buffer } [erase]
  | .up => earlier setting state
  | .down => later setting state
  | .tab | .other => goOn state []

/-- The answer to a key. Every key but Tab forgets the Tab before it. -/
def react (setting : Setting) (state : State) (key : Key) : Reaction :=
  if key = .tab then complete setting state
  else reactPlain setting state.calm key

/-! ### The screen -/

/-- A screen that counts what it shows, and may have room for so many bytes only. -/
structure Screen where
  /-- How many bytes it takes; `none` for no limit. -/
  limit : Option Nat := none
  /-- How many bytes were written. -/
  shown : Nat := 0
  deriving DecidableEq, Repr

/-- Write a piece of text; `none` if there is no room for all of it. -/
def Screen.write? (screen : Screen) (text : String) : Option Screen :=
  let shown := screen.shown + text.utf8ByteSize
  if screen.limit.all (shown ≤ ·) then some { screen with shown } else none

/-- What came of a list of actions. -/
structure Effect where
  /-- The screen after it. -/
  screen : Screen
  /-- What was written. -/
  text : String := ""
  /-- How often the output was pushed out. -/
  flushes : Nat := 0
  /-- Whether a piece was refused; nothing is done after that. -/
  refused : Bool := false
  deriving DecidableEq, Repr

/-- Carry out actions in order, up to the first piece that is refused. -/
def perform : Screen → List Action → Effect
  | screen, [] => { screen }
  | screen, .flush :: rest =>
    let effect := perform screen rest
    { effect with flushes := effect.flushes + 1 }
  | screen, .write text :: rest =>
    match screen.write? text with
    | none => { screen, refused := true }
    | some next =>
      let effect := perform next rest
      { effect with text := text ++ effect.text }

/-! ### Reading lines -/

/-- A key and what was shown in answer to it. -/
structure Echo where
  /-- The key, or the read that failed. -/
  key : KeyRead
  /-- What was written until the next key was read. -/
  shown : String

/-- What became of a line: how it ended, or why it could not be read. -/
abbrev Result := Except Failure Outcome

/-- The course of reading a line, after the prompt. -/
structure Course where
  /-- The keys, in order, with the answer to each. -/
  echoes : List Echo
  /-- What became of the line. -/
  result : Result
  /-- How often the output was pushed out. -/
  flushes : Nat
  /-- The screen at the end. -/
  screen : Screen
  /-- The events that are left. -/
  rest : List Event

/-- The course that begins with one more key. -/
def Course.after (course : Course) (echo : Echo) (flushes : Nat) : Course :=
  { course with echoes := echo :: course.echoes, flushes := flushes + course.flushes }

/-- End of input ends the line. -/
theorem ne_endOfInput_of_outcome {setting : Setting} {state : State} {key : Key}
    (h : (react setting state key).outcome = none) : key ≠ .endOfInput := by
  rintro rfl
  revert h
  simp only [react, reactPlain, stop]
  split <;> simp_all
  split <;> simp

/-- Read keys until one of them ends the line. -/
def run (setting : Setting) (screen : Screen) (state : State) (events : List Event) : Course :=
  match _hread : Key.read events with
  | (.error message, rest) =>
    { echoes := [⟨.error message, ""⟩], result := .error ((Cause.other message).during .readingKey)
      flushes := 0, screen, rest }
  | (.ok key, rest) =>
    let effect := perform screen (react setting state key).actions
    let last (result : Result) : Course :=
      { echoes := [⟨.ok key, effect.text⟩], result, flushes := effect.flushes
        screen := effect.screen, rest }
    if effect.refused then last (.error { cause := .screenFull })
    else match _hout : (react setting state key).outcome with
      | some outcome => last (.ok outcome)
      | none =>
        (run setting effect.screen (react setting state key).state rest).after
          ⟨.ok key, effect.text⟩ effect.flushes
termination_by events.length
decreasing_by
  have hne := ne_endOfInput_of_outcome _hout
  have hlt := @Key.read_length_lt events
  rw [_hread] at hlt
  exact hlt (by cases key <;> simp_all [Key.isEnd])

/-- A call that switches the terminal's mode. -/
inductive ModeCall where
  /-- To single keystrokes. -/
  | enable
  /-- Back again. -/
  | disable
  deriving DecidableEq, Repr

/-- How a terminal takes the switching of its mode: with a cause where it refuses. -/
structure Terminal where
  /-- Why it does not switch to single keystrokes. -/
  enableFault : Option Cause := none
  /-- Why it does not switch back. -/
  disableFault : Option Cause := none
  deriving DecidableEq, Repr

/-- The record of reading one line. -/
structure Call where
  /-- How the terminal's mode was switched, in order. -/
  modeCalls : List ModeCall
  /-- What was written before the first key was read. -/
  promptShown : String := ""
  /-- The keys, in order, with the answer to each. -/
  echoes : List Echo := []
  /-- What became of the line. -/
  result : Result
  /-- How often the output was pushed out. -/
  flushes : Nat := 0
  /-- The screen at the end. -/
  screen : Screen
  /-- The events that are left. -/
  rest : List Event

/-- Read one line. The terminal is switched back whichever way the line ends, and a terminal that
refuses that changes nothing. -/
def readLine (terminal : Terminal) (setting : Setting) (screen : Screen) (events : List Event) :
    Call :=
  match terminal.enableFault with
  | some cause =>
    { modeCalls := [.enable], result := .error (cause.during .enteringRawMode), screen
      rest := events }
  | none =>
    let effect := perform screen [.write setting.prompt, .flush]
    if effect.refused then
      { modeCalls := [.enable, .disable], promptShown := effect.text
        result := .error { cause := .screenFull }, flushes := effect.flushes
        screen := effect.screen, rest := events }
    else
      let course := run setting effect.screen { cursor := setting.history.length } events
      { modeCalls := [.enable, .disable], promptShown := effect.text, echoes := course.echoes
        result := course.result, flushes := effect.flushes + course.flushes
        screen := course.screen, rest := course.rest }

/-- Read up to `count` lines, and stop early when there are no more or one cannot be read. With
`growing`, each line joins the history of the next one. -/
def readLines (terminal : Terminal) (growing : Bool) :
    Nat → Setting → Screen → List Event → List Call
  | 0, _, _, _ => []
  | count + 1, setting, screen, events =>
    let call := readLine terminal setting screen events
    call :: match call.result with
      | .ok (.line text) =>
        let history := if growing then setting.history ++ [text] else setting.history
        readLines terminal growing count { setting with history } call.screen call.rest
      | _ => []

end Editor

end LineShell
