import LineShell.Key
import Mathlib.Data.List.Basic

/-!
# Keys that are characters

Which characters a terminal can bring as keys. A key that is a character comes from the bytes of its
UTF-8 form, and the first of these is no control byte, so the character is none of the control
characters below the space.
-/

namespace LineShell

namespace Text

/-- Bytes that a character can be decoded from begin with its UTF-8 form. -/
theorem exists_append_of_decodeChar? {bs : Bytes} {c : Char} (h : decodeChar? bs = some c) :
    ∃ rest, bs = String.utf8EncodeChar c ++ rest := by
  obtain ⟨tail, htail⟩ := ByteArray.exists_of_utf8DecodeChar?_eq_some h
  refine ⟨tail.data.toList, ?_⟩
  have hdata := congrArg (fun b : ByteArray => b.data.toList) htail
  simpa using hdata

/-- A control character is encoded as the one byte of its number. -/
theorem utf8EncodeChar_of_lt {c : Char} (h : c.toNat < 0x80) :
    String.utf8EncodeChar c = [c.toNat.toUInt8] := by
  have hle : c.toNat ≤ 127 := Nat.le_of_lt_succ h
  simp [String.utf8EncodeChar]
  omega

/-- A character whose first byte is no control byte is no control character. -/
theorem le_toNat_of_decodeChar? {b : UInt8} {bs : Bytes} {c : Char} (hb : 0x20 ≤ b)
    (h : decodeChar? (b :: bs) = some c) : 0x20 ≤ c.toNat := by
  by_contra hlt
  obtain ⟨rest, hrest⟩ := exists_append_of_decodeChar? h
  rw [utf8EncodeChar_of_lt (by omega), List.singleton_append, List.cons.injEq] at hrest
  have hbyte : b.toNat = c.toNat := by
    rw [hrest.1]
    simp
    omega
  have hle : (0x20 : UInt8).toNat ≤ b.toNat := hb
  simp at hle
  omega

end Text

namespace Key

/-- What was read is no control character. -/
def IsText : KeyRead → Prop
  | .ok (.char c) => 0x20 ≤ c.toNat
  | _ => True

theorem controlSequence_isText (plain : Bool) (es : List Event) :
    IsText (controlSequence plain es).1 := by
  fun_induction controlSequence plain es with
  | case2 _ _ ih => exact ih
  | case4 _ _ _ _ ih => exact ih
  | _ => trivial

theorem singleShift_isText (es : List Event) : IsText (singleShift es).1 := by
  unfold singleShift
  split
  · trivial
  · split_ifs <;> trivial

theorem escape_isText (es : List Event) : IsText (escape es).1 := by
  unfold escape
  split
  · trivial
  · split_ifs
    · exact singleShift_isText _
    · exact controlSequence_isText _ _
    · trivial

/-- The bytes of a character are read in the order in which they come, so the first one stays the
first. -/
theorem character_isText {b : UInt8} (hb : 0x20 ≤ b) (seen : Bytes) (missing : Nat)
    (es : List Event) : IsText (character (b :: seen) missing es).1 := by
  induction missing generalizing seen es with
  | zero =>
    rw [character, ofBytes]
    split
    · rename_i c hc
      exact Text.le_toNat_of_decodeChar? hb hc
    · trivial
  | succ missing ih =>
    rw [character]
    split
    · trivial
    · trivial
    · exact ih _ _

theorem startingWith_isText (b : UInt8) (es : List Event) : IsText (startingWith b es).1 := by
  unfold startingWith
  split_ifs with _ _ _ _ _ _ hb
  · trivial
  · trivial
  · trivial
  · trivial
  · trivial
  · exact escape_isText es
  · trivial
  · split
    · trivial
    · exact character_isText (UInt8.not_lt.1 hb) [] _ es

/-- A key that is read is no control character. -/
theorem read_isText (es : List Event) : IsText (read es).1 := by
  unfold read
  split
  · trivial
  · trivial
  · exact startingWith_isText _ _

end Key

end LineShell
