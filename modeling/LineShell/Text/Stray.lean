import LineShell.Text.Bytes

/-!
# Bytes that are no text

Names of files are bytes, and almost always text. Here they are held as text all the same, in which a
byte that belongs to no text is a character of its own, one of a row set aside for that. `ofRaw` reads
bytes in this way and `toRaw` gives them back; `plainly` is how such a name is shown.
-/

namespace LineShell.Text

/-- The character before the row that is set aside, less the number of the byte. -/
def strayBase : Nat := 0x10DC00

/-- The character that stands for a byte that belongs to no text. -/
def strayChar (b : UInt8) : Char := Char.ofNat (strayBase + b.toNat)

/-- The byte that a character stands for, if it is one of the row set aside. -/
def strayByte? (c : Char) : Option UInt8 :=
  if strayBase + 0x80 ≤ c.toNat && c.toNat ≤ strayBase + 0xFF then
    some (c.toNat - strayBase).toUInt8
  else none

/-- The bytes of a character. -/
def rawChar (c : Char) : Bytes :=
  match strayByte? c with
  | some b => [b]
  | none => String.utf8EncodeChar c

/-- The bytes of a text in which some characters stand for bytes. -/
def toRaw (s : String) : Bytes := s.toList.flatMap rawChar

/-- The number of bytes of such a text. -/
def rawLength (s : String) : Nat := s.toList.foldr (fun c n => (rawChar c).length + n) 0

/-- The character that bytes begin with, and the number of its bytes. What is no character is one byte
that stands for itself. -/
def nextRaw (b : UInt8) (bs : Bytes) : Char × Nat :=
  match decodeChar? (b :: bs.take 3) with
  | some c => if (strayByte? c).isSome then (strayChar b, 1) else (c, c.utf8Size)
  | none => (strayChar b, 1)

/-- The characters of bytes; the first `skip` of them belong to a character that was read. -/
def rawChars : Nat → Bytes → List Char
  | _, [] => []
  | skip + 1, _ :: bs => rawChars skip bs
  | 0, b :: bs =>
    let (c, n) := nextRaw b bs
    c :: rawChars (n - 1) bs

/-- The text of bytes, in which bytes that belong to no text are characters of their own. -/
def ofRaw (bs : Bytes) : String := String.ofList (rawChars 0 bs)

/-! ### Showing -/

/-- The least and the greatest second byte of a character that starts with a byte, and how many bytes
follow that one. -/
def secondRange (b : UInt8) : Option (UInt8 × UInt8 × Nat) :=
  if 0xC2 ≤ b && b ≤ 0xDF then some (0x80, 0xBF, 0)
  else if b = 0xE0 then some (0xA0, 0xBF, 1)
  else if b = 0xED then some (0x80, 0x9F, 1)
  else if 0xE1 ≤ b && b ≤ 0xEF then some (0x80, 0xBF, 1)
  else if b = 0xF0 then some (0x90, 0xBF, 2)
  else if 0xF1 ≤ b && b ≤ 0xF3 then some (0x80, 0xBF, 2)
  else if b = 0xF4 then some (0x80, 0x8F, 2)
  else none

/-- How many bytes at the start belong together, although they are no character: as many as a character
could start with. -/
def brokenLength : Bytes → Nat
  | [] => 0
  | b :: bs =>
    match secondRange b, bs with
    | some (least, greatest, more), c :: cs =>
      if least ≤ c && c ≤ greatest then
        2 + ((cs.take more).takeWhile fun d => 0x80 ≤ d && d ≤ 0xBF).length
      else 1
    | _, _ => 1

/-- The mark that stands for bytes that are no text. -/
def strayMark : Char := '\uFFFD'

/-- The characters of bytes as they are shown; the first `skip` of them were shown already. -/
def plainChars : Nat → Bytes → List Char
  | _, [] => []
  | skip + 1, _ :: bs => plainChars skip bs
  | 0, b :: bs =>
    match decodeChar? (b :: bs.take 3) with
    | some c => c :: plainChars (c.utf8Size - 1) bs
    | none => strayMark :: plainChars (brokenLength (b :: bs) - 1) bs

/-- A text in which bytes that belong to no text are shown as marks. -/
def plainly (s : String) : String :=
  if s.toList.any fun c => (strayByte? c).isSome then String.ofList (plainChars 0 (toRaw s)) else s

end LineShell.Text
