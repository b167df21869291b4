import LineShell.Text.Bytes

/-!
# Keys

What a terminal sends, one byte at a time, and the keys that those bytes stand for.

## The model

A terminal is a finite list of `Event`s, followed by end of input for ever: a byte, a read that was
interrupted and is simply tried again, or a read that failed. `read` takes the events of one key off
the front of the list; `readAll` repeats it up to end of input.
-/

namespace LineShell

/-- What one read from the terminal brings. -/
inductive Event where
  /-- A byte. -/
  | byte (b : UInt8)
  /-- The read was interrupted before it brought anything. -/
  | interrupted
  /-- The read failed with this message. -/
  | failed (message : String)
  deriving DecidableEq, Repr

/-- The events of a run of bytes. -/
def Event.ofBytes (bs : Bytes) : List Event := bs.map .byte

/-- A keystroke. -/
inductive Key where
  /-- A character to be entered. -/
  | char (c : Char)
  /-- End of line. -/
  | enter
  /-- Completion. -/
  | tab
  /-- Erase the character before the cursor. -/
  | backspace
  /-- The earlier line. -/
  | up
  /-- The later line. -/
  | down
  /-- Control-D, the end of input as it is typed. -/
  | endOfText
  /-- Control-C, which drops the line. -/
  | interrupt
  /-- The input has ended. -/
  | endOfInput
  /-- A key without a meaning here. -/
  | other
  deriving DecidableEq, Repr

/-- A key, or the message of the read that failed. -/
abbrev KeyRead := Except String Key

namespace Key

/-- The next byte; `none` at end of input. Interrupted reads are tried again. -/
def nextByte : List Event → Except String (Option UInt8) × List Event
  | [] => (.ok none, [])
  | .byte b :: es => (.ok (some b), es)
  | .interrupted :: es => nextByte es
  | .failed message :: es => (.error message, es)

/-- The rest of a control sequence: parameter bytes up to a final byte. The arrows are those without
parameters, which `plain` tells. -/
def controlSequence : Bool → List Event → KeyRead × List Event
  | _, [] => (.ok .other, [])
  | plain, .interrupted :: es => controlSequence plain es
  | _, .failed message :: es => (.error message, es)
  | plain, .byte b :: es =>
    if 0x20 ≤ b ∧ b ≤ 0x3F then controlSequence false es
    else if plain ∧ b = 0x41 then (.ok .up, es)
    else if plain ∧ b = 0x42 then (.ok .down, es)
    else (.ok .other, es)

/-- The key after an escape byte and a capital O: an arrow, or nothing of a meaning here. -/
def singleShift (es : List Event) : KeyRead × List Event :=
  match nextByte es with
  | (.error message, es) => (.error message, es)
  | (.ok b, es) =>
    (.ok (if b = some 0x41 then .up else if b = some 0x42 then .down else .other), es)

/-- The key after an escape byte. -/
def escape (es : List Event) : KeyRead × List Event :=
  match nextByte es with
  | (.error message, es) => (.error message, es)
  | (.ok b, es) =>
    if b = some 0x4F then singleShift es
    else if b = some 0x5B then controlSequence true es
    else (.ok .other, es)

/-- The key that the bytes of one character stand for. -/
def ofBytes (bs : Bytes) : Key :=
  match Text.decodeChar? bs with
  | some c => .char c
  | none => .other

/-- The number of bytes of a character that begins with byte `b`; `none` if none begins so. -/
def width? (b : UInt8) : Option Nat :=
  if b < 0x80 then some 1
  else if b < 0xC0 then none
  else if b < 0xE0 then some 2
  else if b < 0xF0 then some 3
  else if b < 0xF8 then some 4
  else none

/-- The rest of a character: `missing` more bytes after those already `seen`. -/
def character : Bytes → Nat → List Event → KeyRead × List Event
  | seen, 0, es => (.ok (ofBytes seen), es)
  | seen, missing + 1, es =>
    match nextByte es with
    | (.error message, es) => (.error message, es)
    | (.ok none, es) => (.ok .other, es)
    | (.ok (some b), es) => character (seen ++ [b]) missing es

/-- The key that begins with byte `b`. -/
def startingWith (b : UInt8) (es : List Event) : KeyRead × List Event :=
  if b = 0x0D ∨ b = 0x0A then (.ok .enter, es)
  else if b = 0x09 then (.ok .tab, es)
  else if b = 0x7F ∨ b = 0x08 then (.ok .backspace, es)
  else if b = 0x03 then (.ok .interrupt, es)
  else if b = 0x04 then (.ok .endOfText, es)
  else if b = 0x1B then escape es
  else if b < 0x20 then (.ok .other, es)
  else match width? b with
    | none => (.ok .other, es)
    | some n => character [b] (n - 1) es

/-- The next key, and the events after it. -/
def read (es : List Event) : KeyRead × List Event :=
  match nextByte es with
  | (.error message, es) => (.error message, es)
  | (.ok none, es) => (.ok .endOfInput, es)
  | (.ok (some b), es) => startingWith b es

/-! ### Reading a key uses up events -/

theorem nextByte_length (es : List Event) : (nextByte es).2.length ≤ es.length := by
  fun_induction nextByte es <;> simp_all
  omega

theorem nextByte_length_lt {es : List Event} (h : (nextByte es).1 ≠ .ok none) :
    (nextByte es).2.length < es.length := by
  fun_induction nextByte es <;> simp_all
  omega

theorem controlSequence_length (plain : Bool) (es : List Event) :
    (controlSequence plain es).2.length ≤ es.length := by
  fun_induction controlSequence plain es <;> simp_all <;> omega

theorem singleShift_length (es : List Event) : (singleShift es).2.length ≤ es.length := by
  have h := nextByte_length es
  unfold singleShift
  split <;> simp_all

theorem escape_length (es : List Event) : (escape es).2.length ≤ es.length := by
  have h := nextByte_length es
  unfold escape
  split <;> rename_i heq <;> simp only [heq] at h
  · exact h
  · repeat' split
    · exact Nat.le_trans (singleShift_length _) h
    · exact Nat.le_trans (controlSequence_length _ _) h
    · exact h

theorem character_length (seen : Bytes) (missing : Nat) (es : List Event) :
    (character seen missing es).2.length ≤ es.length := by
  fun_induction character seen missing es with
  | case1 => simp
  | case2 _ _ es _ _ h => simpa [h] using nextByte_length es
  | case3 _ _ es _ h => simpa [h] using nextByte_length es
  | case4 _ _ es _ _ h ih => exact Nat.le_trans ih (by simpa [h] using nextByte_length es)

theorem startingWith_length (b : UInt8) (es : List Event) :
    (startingWith b es).2.length ≤ es.length := by
  unfold startingWith
  repeat' split
  all_goals first
    | exact Nat.le_refl _
    | exact escape_length es
    | exact character_length _ _ es

/-- The read says that the input has ended. -/
def isEnd : KeyRead → Bool
  | .ok .endOfInput => true
  | _ => false

/-- Every key but end of input uses up at least one event. -/
theorem read_length_lt {es : List Event} (h : isEnd (read es).1 = false) :
    (read es).2.length < es.length := by
  have hlt := @nextByte_length_lt es
  revert h
  unfold read
  split <;> rename_i heq <;> simp only [heq] at hlt
  · exact fun _ => hlt (by simp)
  · simp [isEnd]
  · exact fun _ => Nat.lt_of_le_of_lt (startingWith_length _ _) (hlt (by simp))

/-! ### Whole inputs -/

/-- All keys up to and with end of input, failed reads among them. -/
def readAll (es : List Event) : List KeyRead :=
  (read es).1 :: if _h : isEnd (read es).1 then [] else readAll (read es).2
termination_by es.length
decreasing_by exact read_length_lt (by simpa using _h)

end Key

end LineShell
