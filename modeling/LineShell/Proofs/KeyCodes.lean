import LineShell.Proofs.Characters
import LineShell.Proofs.Encoding

/-!
# The bytes of keys

A terminal sends each key as one of several runs of bytes. Reading keys cuts the stream of bytes at the
borders between those runs, so that no key takes a byte of its neighbour, and a key that is a character
is read from the bytes of that character and from nothing else.

## The model

`Encodes` relates a key to the runs of bytes that a terminal may send for it, and `EncodesAll` a list of
keys to what it may send for all of them. Each reader of `Key` has a lemma that says what it makes of
bytes and where it stops; the reader of a whole character stops after as many bytes as the first of them
announces, which is the number of bytes of the character's UTF-8 form.
-/

namespace LineShell

namespace Text

theorem decodeChar?_utf8EncodeChar (c : Char) : decodeChar? (String.utf8EncodeChar c) = some c := by
  have h := ByteArray.utf8DecodeChar?_utf8EncodeChar_append (b := ByteArray.empty) (c := c)
  rw [decodeChar?]
  simpa using h

/-- The first byte of a character announces how many there are, and is a control byte only for a control
character. -/
theorem exists_cons_utf8EncodeChar (c : Char) :
    ∃ b bs, String.utf8EncodeChar c = b :: bs ∧ Key.width? b = some (bs.length + 1) ∧
      (b < 0x20 ↔ c.toNat < 0x20) ∧ (b = 0x7F ↔ c.toNat = 0x7F) := by
  have hc : c.toNat < 0x110000 := by
    have hvalid := c.valid
    simp only [UInt32.isValidChar, Nat.isValidChar] at hvalid
    show c.val.toNat < _
    omega
  have hval : c.val.toNat = c.toNat := rfl
  simp only [String.utf8EncodeChar, hval]
  split_ifs with h₁ h₂ h₃ <;> refine ⟨_, _, rfl, ?_, ?_, ?_⟩ <;>
    simp only [Key.width?, UInt8.lt_iff_toNat_lt, ← UInt8.toNat_inj, UInt8.toNat_ofNat',
      UInt8.reduceToNat, List.length_cons, List.length_nil] <;>
    grind

end Text

namespace Key

/-! ### What may be sent for a key -/

/-- A terminal may send these bytes for the key. -/
inductive Encodes : Key → Bytes → Prop where
  /-- A character that is no control character, in UTF-8. -/
  | char {c : Char} (hlow : 0x20 ≤ c.toNat) (hdel : c.toNat ≠ 0x7F) :
    Encodes (.char c) (String.utf8EncodeChar c)
  /-- A carriage return or a line feed. -/
  | enter {b : UInt8} (h : b = 0x0D ∨ b = 0x0A) : Encodes .enter [b]
  | tab : Encodes .tab [0x09]
  | backspace {b : UInt8} (h : b = 0x7F ∨ b = 0x08) : Encodes .backspace [b]
  | interrupt : Encodes .interrupt [0x03]
  | endOfText : Encodes .endOfText [0x04]
  /-- An escape, an opening bracket or a capital O, and an A. -/
  | up {b : UInt8} (h : b = 0x5B ∨ b = 0x4F) : Encodes .up [0x1B, b, 0x41]
  /-- An escape, an opening bracket or a capital O, and a B. -/
  | down {b : UInt8} (h : b = 0x5B ∨ b = 0x4F) : Encodes .down [0x1B, b, 0x42]
  /-- A control byte that has no meaning. -/
  | control {b : UInt8} (hlow : b < 0x20) (hfree : b ∉ [0x0D, 0x0A, 0x09, 0x08, 0x03, 0x04, 0x1B]) :
    Encodes .other [b]
  /-- A control sequence that is no arrow: parameter bytes and a final byte. -/
  | sequence {parameters : Bytes} {final : UInt8}
    (hparameters : ∀ b ∈ parameters, 0x20 ≤ b ∧ b ≤ 0x3F) (hfinal : 0x40 ≤ final ∧ final ≤ 0x7E)
    (harrow : ¬(parameters = [] ∧ (final = 0x41 ∨ final = 0x42))) :
    Encodes .other (0x1B :: 0x5B :: (parameters ++ [final]))
  /-- An escape, a capital O and a byte that is no arrow. -/
  | shifted {b : UInt8} (hup : b ≠ 0x41) (hdown : b ≠ 0x42) : Encodes .other [0x1B, 0x4F, b]
  /-- An escape and a byte that begins nothing longer. -/
  | escaped {b : UInt8} (hbracket : b ≠ 0x5B) (hshift : b ≠ 0x4F) : Encodes .other [0x1B, b]

/-- A terminal may send these bytes for the keys, one key after the other. -/
inductive EncodesAll : List Key → Bytes → Prop where
  | nil : EncodesAll [] []
  | cons {key : Key} {keys : List Key} {bs rest : Bytes} (hkey : Encodes key bs)
    (hkeys : EncodesAll keys rest) : EncodesAll (key :: keys) (bs ++ rest)

/-! ### What the readers make of bytes -/

theorem ofBytes_cons (b : UInt8) (bs : Bytes) :
    Event.ofBytes (b :: bs) = .byte b :: Event.ofBytes bs := rfl

theorem nextByte_ofBytes (bs : Bytes) :
    nextByte (Event.ofBytes bs) = (.ok bs.head?, Event.ofBytes bs.tail) := by
  cases bs <;> rfl

theorem read_ofBytes_cons (b : UInt8) (bs : Bytes) :
    read (Event.ofBytes (b :: bs)) = startingWith b (Event.ofBytes bs) := rfl

theorem escape_ofBytes_cons (b : UInt8) (bs : Bytes) :
    escape (Event.ofBytes (b :: bs)) =
      if b = 0x4F then singleShift (Event.ofBytes bs)
      else if b = 0x5B then controlSequence true (Event.ofBytes bs)
      else (.ok .other, Event.ofBytes bs) := by
  simp [escape, nextByte_ofBytes]

theorem singleShift_ofBytes_cons (b : UInt8) (bs : Bytes) :
    singleShift (Event.ofBytes (b :: bs)) =
      (.ok (if b = 0x41 then .up else if b = 0x42 then .down else .other), Event.ofBytes bs) := by
  simp [singleShift, nextByte_ofBytes]

/-- A control sequence is read through its final byte, and is an arrow only without parameters. -/
theorem controlSequence_ofBytes {parameters : Bytes} (hparameters : ∀ b ∈ parameters, 0x20 ≤ b ∧ b ≤ 0x3F)
    {final : UInt8} (hfinal : 0x40 ≤ final) (plain : Bool) (rest : Bytes) :
    controlSequence plain (Event.ofBytes (parameters ++ final :: rest)) =
      (.ok (if plain = true ∧ parameters = [] ∧ final = 0x41 then .up
        else if plain = true ∧ parameters = [] ∧ final = 0x42 then .down else .other),
        Event.ofBytes rest) := by
  induction parameters generalizing plain with
  | nil =>
    have hnot : ¬(0x20 ≤ final ∧ final ≤ 0x3F) := fun h =>
      absurd (UInt8.le_trans hfinal h.2) (by decide)
    rw [List.nil_append, ofBytes_cons, controlSequence, if_neg hnot]
    split_ifs <;> simp_all
  | cons b parameters ih =>
    rw [List.cons_append, ofBytes_cons, controlSequence, if_pos (hparameters b (by simp)),
      ih fun d hd => hparameters d (by simp [hd])]
    simp

/-- A character is read as far as its bytes go. -/
theorem character_ofBytes (seen bs rest : Bytes) :
    character seen bs.length (Event.ofBytes (bs ++ rest)) =
      (.ok (ofBytes (seen ++ bs)), Event.ofBytes rest) := by
  induction bs generalizing seen with
  | nil => simp [character]
  | cons b bs ih =>
    rw [List.length_cons, character, nextByte_ofBytes]
    simp [ih]

theorem startingWith_of_width {b : UInt8} (hlow : ¬ b < 0x20) (hdel : b ≠ 0x7F) {n : Nat}
    (hwidth : width? b = some n) (es : List Event) :
    startingWith b es = character [b] (n - 1) es := by
  have hne : ∀ d : UInt8, d < 0x20 → b ≠ d := fun d hd h => hlow (h ▸ hd)
  rw [startingWith, if_neg, if_neg (hne _ (by decide)), if_neg, if_neg (hne _ (by decide)),
    if_neg (hne _ (by decide)), if_neg (hne _ (by decide)), if_neg hlow, hwidth]
  · exact not_or.2 ⟨hdel, hne _ (by decide)⟩
  · exact not_or.2 ⟨hne _ (by decide), hne _ (by decide)⟩

/-- **One key is read from the bytes that were sent for it**, and all others are left. -/
theorem Encodes.read {key : Key} {bs : Bytes} (h : Encodes key bs) (rest : Bytes) :
    Key.read (Event.ofBytes (bs ++ rest)) = (.ok key, Event.ofBytes rest) := by
  cases h with
  | @char c hlow hdel =>
    obtain ⟨b, bs, hbs, hwidth, hcontrol, hdelete⟩ := Text.exists_cons_utf8EncodeChar c
    rw [hbs, List.cons_append, read_ofBytes_cons, startingWith_of_width
      (fun hb => absurd (hcontrol.1 hb) (by omega)) (fun hb => hdel (hdelete.1 hb)) hwidth,
      Nat.add_sub_cancel, character_ofBytes, List.singleton_append, ← hbs, Key.ofBytes,
      Text.decodeChar?_utf8EncodeChar]
  | enter h => rcases h with rfl | rfl <;> rfl
  | tab => rfl
  | backspace h => rcases h with rfl | rfl <;> rfl
  | interrupt => rfl
  | endOfText => rfl
  | up h => rcases h with rfl | rfl <;> rfl
  | down h => rcases h with rfl | rfl <;> rfl
  | @control b hlow hfree =>
    have hdel : b ≠ 0x7F := by
      rintro rfl
      exact absurd hlow (by decide)
    simp only [List.mem_cons, List.not_mem_nil, or_false, not_or] at hfree
    simp [read_ofBytes_cons, startingWith, hlow, hfree, hdel]
  | @sequence parameters final hparameters hfinal harrow =>
    have hsequence := controlSequence_ofBytes hparameters hfinal.1 true rest
    rw [if_neg fun h => harrow ⟨h.2.1, .inl h.2.2⟩, if_neg fun h => harrow ⟨h.2.1, .inr h.2.2⟩] at hsequence
    rw [List.cons_append, List.cons_append, List.append_assoc, List.singleton_append, ← hsequence]
    rfl
  | @shifted b hup hdown =>
    show singleShift (Event.ofBytes (b :: rest)) = _
    rw [singleShift_ofBytes_cons, if_neg hup, if_neg hdown]
  | @escaped b hbracket hshift =>
    show escape (Event.ofBytes (b :: rest)) = _
    rw [escape_ofBytes_cons, if_neg hshift, if_neg hbracket]

theorem Encodes.ne_endOfInput {key : Key} {bs : Bytes} (h : Encodes key bs) : key ≠ .endOfInput := by
  cases h <;> simp

/-- Keys are read up to the last one, and then end of input. -/
theorem EncodesAll.readAll {keys : List Key} {bs : Bytes} (h : EncodesAll keys bs) :
    Key.readAll (Event.ofBytes bs) = keys.map .ok ++ [.ok .endOfInput] := by
  induction h with
  | nil =>
    rw [Key.readAll]
    rfl
  | @cons key keys bs rest hkey hkeys ih =>
    have hend : isEnd (.ok key) = false := by
      have hne := hkey.ne_endOfInput
      cases key <;> simp_all [isEnd]
    rw [Key.readAll, hkey.read, dif_neg (by simp [hend]), ih]
    rfl

/-! ### Which bytes a key was read from -/

/-- The read brings a key that is no character, and leaves the last part of the bytes. -/
def Skips (bs : Bytes) (result : KeyRead × List Event) : Prop :=
  ∃ key rest, result = (.ok key, Event.ofBytes rest) ∧ rest <:+ bs ∧ ∀ c, key ≠ .char c

/-- The read brings a character from its own bytes, after those already seen. -/
def Spells (seen bs : Bytes) (result : KeyRead × List Event) : Prop :=
  ∃ c used rest, result = (.ok (.char c), Event.ofBytes rest) ∧ bs = used ++ rest ∧
    seen ++ used = String.utf8EncodeChar c

theorem Skips.mono {bs cs : Bytes} {result : KeyRead × List Event} (h : Skips bs result)
    (hsuffix : bs <:+ cs) : Skips cs result := by
  obtain ⟨key, rest, hresult, hrest, hkey⟩ := h
  exact ⟨key, rest, hresult, hrest.trans hsuffix, hkey⟩

theorem controlSequence_skips (plain : Bool) (bs : Bytes) :
    Skips bs (controlSequence plain (Event.ofBytes bs)) := by
  induction bs generalizing plain with
  | nil => exact ⟨.other, [], rfl, List.suffix_rfl, by simp⟩
  | cons b bs ih =>
    rw [ofBytes_cons, controlSequence]
    split_ifs
    · exact (ih false).mono (List.suffix_cons b bs)
    · exact ⟨.up, bs, rfl, List.suffix_cons b bs, by simp⟩
    · exact ⟨.down, bs, rfl, List.suffix_cons b bs, by simp⟩
    · exact ⟨.other, bs, rfl, List.suffix_cons b bs, by simp⟩

theorem singleShift_skips (bs : Bytes) : Skips bs (singleShift (Event.ofBytes bs)) := by
  cases bs with
  | nil => exact ⟨.other, [], rfl, List.suffix_rfl, by simp⟩
  | cons b bs =>
    rw [singleShift_ofBytes_cons]
    refine ⟨_, bs, rfl, List.suffix_cons b bs, fun c => ?_⟩
    split_ifs <;> simp

theorem escape_skips (bs : Bytes) : Skips bs (escape (Event.ofBytes bs)) := by
  cases bs with
  | nil => exact ⟨.other, [], rfl, List.suffix_rfl, by simp⟩
  | cons b bs =>
    rw [escape_ofBytes_cons]
    split_ifs
    · exact (singleShift_skips bs).mono (List.suffix_cons b bs)
    · exact (controlSequence_skips true bs).mono (List.suffix_cons b bs)
    · exact ⟨.other, bs, rfl, List.suffix_cons b bs, by simp⟩

/-- The bytes of a character are its UTF-8 form if there are as many as the first one announces. -/
theorem eq_utf8EncodeChar_of_decodeChar? {b : UInt8} {bs : Bytes} {c : Char}
    (hwidth : width? b = some (bs.length + 1)) (h : Text.decodeChar? (b :: bs) = some c) :
    b :: bs = String.utf8EncodeChar c := by
  obtain ⟨rest, hrest⟩ := Text.exists_append_of_decodeChar? h
  obtain ⟨d, ds, hds, hd, -⟩ := Text.exists_cons_utf8EncodeChar c
  rw [hds, List.cons_append, List.cons.injEq] at hrest
  obtain ⟨rfl, rfl⟩ := hrest
  rw [hd, Option.some.injEq, List.length_append] at hwidth
  obtain rfl : rest = [] := List.length_eq_zero_iff.1 (by omega)
  rw [hds, List.append_nil]

theorem character_takes {b : UInt8} (seen : Bytes) (missing : Nat)
    (hwidth : width? b = some (seen.length + missing + 1)) (bs : Bytes) :
    Skips bs (character (b :: seen) missing (Event.ofBytes bs)) ∨
      Spells (b :: seen) bs (character (b :: seen) missing (Event.ofBytes bs)) := by
  induction missing generalizing seen bs with
  | zero =>
    rw [character, ofBytes]
    split
    · rename_i c hc
      refine .inr ⟨c, [], bs, rfl, rfl, ?_⟩
      rw [List.append_nil, eq_utf8EncodeChar_of_decodeChar? hwidth hc]
    · exact .inl ⟨.other, bs, rfl, List.suffix_rfl, by simp⟩
  | succ missing ih =>
    rw [character, nextByte_ofBytes]
    cases bs with
    | nil => exact .inl ⟨.other, [], rfl, List.suffix_rfl, by simp⟩
    | cons d bs =>
      have hlength : (seen ++ [d]).length + missing + 1 = seen.length + (missing + 1) + 1 := by
        simp
        omega
      rcases ih (seen ++ [d]) (by rw [hlength, hwidth]) bs with h | ⟨c, used, rest, h, rfl, hc⟩
      · exact .inl (h.mono (List.suffix_cons d bs))
      · exact .inr ⟨c, d :: used, rest, h, rfl, by simpa using hc⟩

/-- A read from bytes takes some off their front; if it brings a character, then those of its UTF-8
form. -/
theorem read_takes (bs : Bytes) :
    Skips bs (read (Event.ofBytes bs)) ∨ Spells [] bs (read (Event.ofBytes bs)) := by
  cases bs with
  | nil => exact .inl ⟨.endOfInput, [], rfl, List.suffix_rfl, by simp⟩
  | cons b bs =>
    have hskip (key : Key) (hkey : ∀ c, key ≠ .char c) : Skips (b :: bs) (.ok key, Event.ofBytes bs) :=
      ⟨key, bs, rfl, List.suffix_cons b bs, hkey⟩
    rw [read_ofBytes_cons, startingWith]
    split_ifs
    · exact .inl (hskip .enter (by simp))
    · exact .inl (hskip .tab (by simp))
    · exact .inl (hskip .backspace (by simp))
    · exact .inl (hskip .interrupt (by simp))
    · exact .inl (hskip .endOfText (by simp))
    · exact .inl ((escape_skips bs).mono (List.suffix_cons b bs))
    · exact .inl (hskip .other (by simp))
    · split
      · exact .inl (hskip .other (by simp))
      · rename_i n hwidth
        have hn : n = n - 1 + 1 := by
          unfold width? at hwidth
          split_ifs at hwidth <;> simp at hwidth <;> omega
        rcases character_takes [] (n - 1) (by simpa [← hn] using hwidth) bs with
          h | ⟨c, used, rest, h, rfl, hc⟩
        · exact .inl (h.mono (List.suffix_cons b bs))
        · exact .inr ⟨c, b :: used, rest, h, rfl, by simpa using hc⟩

/-- A key that is a character is none that a control byte stands for. -/
theorem ne_delete_of_read {bs : Bytes} {c : Char} {es : List Event}
    (h : read (Event.ofBytes bs) = (.ok (.char c), es)) : c.toNat ≠ 0x7F := by
  intro hc
  rcases read_takes bs with ⟨key, rest, hread, -, hkey⟩ | ⟨d, used, rest, hread, rfl, hused⟩
  · rw [h, Prod.mk.injEq, Except.ok.injEq] at hread
    exact hkey c hread.1.symm
  · rw [h, Prod.mk.injEq, Except.ok.injEq, char.injEq] at hread
    obtain ⟨b, bs, hbs, -, -, hdelete⟩ := Text.exists_cons_utf8EncodeChar c
    rw [List.nil_append, ← hread.1, hbs] at hused
    rw [hused, hdelete.2 hc, List.cons_append, read_ofBytes_cons] at h
    cases h

/-- **Reading keys cuts the stream of bytes where the keys were put together.** Whatever a terminal sends
for a list of keys is read as these keys and then end of input. And whatever bytes there are, a read
takes some of them off the front and leaves the others; if it brings a character, then this is no control
character, and the bytes taken are its UTF-8 form. -/
theorem read_framed :
    (∀ (keys : List Key) (bs : Bytes), EncodesAll keys bs →
      readAll (Event.ofBytes bs) = keys.map .ok ++ [.ok .endOfInput]) ∧
    ∀ bs : Bytes, ∃ key used rest, read (Event.ofBytes bs) = (.ok key, Event.ofBytes rest) ∧
      bs = used ++ rest ∧
      ∀ c, key = .char c → 0x20 ≤ c.toNat ∧ c.toNat ≠ 0x7F ∧ used = String.utf8EncodeChar c := by
  refine ⟨fun keys bs h => h.readAll, fun bs => ?_⟩
  rcases read_takes bs with ⟨key, rest, hread, ⟨used, hused⟩, hkey⟩ | ⟨c, used, rest, hread, hbs, hused⟩
  · exact ⟨key, used, rest, hread, hused.symm, fun c hc => absurd hc (hkey c)⟩
  · have htext := read_isText (Event.ofBytes bs)
    rw [hread] at htext
    refine ⟨.char c, used, rest, hread, hbs, ?_⟩
    rintro d ⟨rfl⟩
    exact ⟨htext, ne_delete_of_read hread, by simpa using hused⟩

/-- Two characters of several bytes around an arrow, a control sequence with parameters, and a lone
escape before another one. -/
theorem read_framed_mixed :
    EncodesAll [.char 'é', .up, .other, .char '€', .other, .enter]
      [0xC3, 0xA9, 0x1B, 0x4F, 0x41, 0x1B, 0x5B, 0x33, 0x7E, 0xE2, 0x82, 0xAC, 0x1B, 0x1B, 0x0D] ∧
    readAll (Event.ofBytes
      [0xC3, 0xA9, 0x1B, 0x4F, 0x41, 0x1B, 0x5B, 0x33, 0x7E, 0xE2, 0x82, 0xAC, 0x1B, 0x1B, 0x0D]) =
      [.ok (.char 'é'), .ok .up, .ok .other, .ok (.char '€'), .ok .other, .ok .enter,
        .ok .endOfInput] := by
  have hone : Encodes (.char 'é') [0xC3, 0xA9] := .char (by decide) (by decide)
  have hthree : Encodes .other [0x1B, 0x5B, 0x33, 0x7E] :=
    @Encodes.sequence [0x33] 0x7E (List.forall_mem_singleton.2 (by decide)) (by decide) (by decide)
  have hfour : Encodes (.char '€') [0xE2, 0x82, 0xAC] := .char (by decide) (by decide)
  have hfive : Encodes .other [0x1B, 0x1B] := .escaped (by decide) (by decide)
  have h := EncodesAll.cons hone (.cons (.up (.inr rfl)) (.cons hthree (.cons hfour (.cons hfive
    (.cons (.enter (.inl rfl)) .nil)))))
  exact ⟨h, read_framed.1 _ _ h⟩

end Key

end LineShell
