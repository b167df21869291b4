import LineShell.Text.Bytes
import Mathlib.Data.List.Lex

/-!
# The order of bytes

UTF-8 keeps the order of characters: of two texts the lesser one, character by character, is the lesser
one byte by byte.
-/

namespace LineShell.Text

/-- Of two characters the lesser one has the lesser byte at the first place at which their UTF-8 forms
differ, so what comes after them does not matter. -/
theorem utf8EncodeChar_append_lt {c d : Char} (h : c < d) (xs ys : Bytes) :
    String.utf8EncodeChar c ++ xs < String.utf8EncodeChar d ++ ys := by
  have hlt : c.val.toNat < d.val.toNat := h
  have hd : d.val.toNat < 0x110000 := by
    have hvalid := d.valid
    simp only [UInt32.isValidChar, Nat.isValidChar] at hvalid
    omega
  simp only [String.utf8EncodeChar]
  split_ifs <;>
    simp (disch := omega) only [List.cons_append, List.nil_append, List.cons_lt_cons_iff,
      UInt8.lt_iff_toNat_lt, ← UInt8.toNat_inj, UInt8.toNat_ofNat', Nat.mod_eq_of_lt] <;>
    omega

theorem utf8EncodeChar_ne_nil (c : Char) : String.utf8EncodeChar c ≠ [] := by
  intro h
  have hlength := String.length_utf8EncodeChar c
  rw [h] at hlength
  exact absurd hlength.symm (Nat.ne_of_gt c.utf8Size_pos)

theorem encodeChars_cons (c : Char) (cs : List Char) :
    encodeChars (c :: cs) = String.utf8EncodeChar c ++ encodeChars cs := List.flatMap_cons

theorem encodeChars_lt {as bs : List Char} (h : as < bs) : encodeChars as < encodeChars bs := by
  induction h with
  | nil =>
    rename_i b bs
    obtain ⟨x, xs, hx⟩ := List.exists_cons_of_ne_nil (utf8EncodeChar_ne_nil b)
    rw [encodeChars_cons, hx]
    exact List.nil_lt_cons ..
  | rel hlt =>
    rw [encodeChars_cons, encodeChars_cons]
    exact utf8EncodeChar_append_lt hlt _ _
  | cons _ ih =>
    rw [encodeChars_cons, encodeChars_cons]
    exact List.append_left_lt ih

end LineShell.Text
