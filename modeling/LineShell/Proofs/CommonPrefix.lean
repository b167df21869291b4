import LineShell.Completion
import Mathlib.Data.List.Infix

/-!
# The common beginning of words

The common beginning of words is the greatest of the texts that all of them begin with: whatever they all begin
with, it begins with. It is found by cutting the first word at a byte position (`commonPrefix_greatest`), and no
character is cut in two, not even where different characters begin with the same bytes.

## The model

`sharedPrefix` does this for two words, character by character, and `commonPrefix` takes it from word to word. A
text is the beginning of another one as a list of characters, so that no character is cut into its bytes. `parting`
finds the same place by counting bytes: it is the least of the positions at which the first word parts from another
one.
-/

namespace LineShell.Completion

/-! ### Positions -/

theorem utf8ByteSize_ofList_cons (c : Char) (cs : List Char) :
    (String.ofList (c :: cs)).utf8ByteSize = c.utf8Size + (String.ofList cs).utf8ByteSize := by
  have hcons : String.ofList (c :: cs) = String.singleton c ++ String.ofList cs := by
    rw [← String.toList_inj]
    simp
  rw [hcons, String.utf8ByteSize_append, String.utf8ByteSize_singleton]

/-- The text before a position is found by its size. -/
theorem before?_append (before after : List Char) :
    before? (String.ofList before).utf8ByteSize (before ++ after) = some before := by
  induction before with
  | nil => cases after <;> rfl
  | cons c before ih =>
    have hsize := utf8ByteSize_ofList_cons c before
    obtain ⟨n, hn⟩ : ∃ n, (String.ofList (c :: before)).utf8ByteSize = n + 1 :=
      Nat.exists_eq_succ_of_ne_zero (by have := c.utf8Size_pos; omega)
    have hrest : n + 1 - c.utf8Size = (String.ofList before).utf8ByteSize := by omega
    rw [hn, List.cons_append, before?, if_pos (by omega), hrest, ih]
    rfl

/-- So is the text from there on. -/
theorem from?_append (before after : List Char) :
    from? (String.ofList before).utf8ByteSize (before ++ after) = some after := by
  induction before with
  | nil => cases after <;> rfl
  | cons c before ih =>
    have hsize := utf8ByteSize_ofList_cons c before
    obtain ⟨n, hn⟩ : ∃ n, (String.ofList (c :: before)).utf8ByteSize = n + 1 :=
      Nat.exists_eq_succ_of_ne_zero (by have := c.utf8Size_pos; omega)
    have hrest : n + 1 - c.utf8Size = (String.ofList before).utf8ByteSize := by omega
    rw [hn, List.cons_append, from?, if_pos (by omega), hrest, ih]

/-- The byte position at which a text parts from another one: behind the last of the characters, from the first one
on, that are the same in both. -/
def partingOf (as bs : List Char) : Nat :=
  (((placed 0 as).zip bs).takeWhile fun pair => pair.1.2 == pair.2).getLast?.elim 0 fun pair =>
    pair.1.1 + pair.1.2.utf8Size

/-- The byte position at which a word parts from the first of the other words to part from it. -/
def parting (w : String) (ws : List String) : Nat :=
  ws.foldl (fun place v => min (partingOf w.toList v.toList) place) w.utf8ByteSize

/-! ### What words share -/

/-- What begins both lists begins what they share, and nothing else does. -/
theorem prefix_sharedPrefix_iff {p as bs : List Char} : p <+: sharedPrefix as bs ↔ p <+: as ∧ p <+: bs := by
  fun_induction sharedPrefix as bs generalizing p with
  | case1 a as bs ih =>
    cases p with
    | nil => simp
    | cons c p =>
      simp only [List.cons_prefix_cons, ih]
      tauto
  | case2 a as b bs hne =>
    cases p with
    | nil => simp
    | cons c p =>
      simp only [List.prefix_nil, List.cons_prefix_cons, reduceCtorEq, false_iff]
      rintro ⟨⟨rfl, -⟩, rfl, -⟩
      exact hne rfl
  | case3 as bs hne =>
    cases p with
    | nil => simp
    | cons c p =>
      simp only [List.prefix_nil, reduceCtorEq, false_iff]
      rintro ⟨⟨rest, rfl⟩, ⟨rest', rfl⟩⟩
      exact hne c (p ++ rest) c (p ++ rest') rfl rfl

theorem prefix_foldl_sharedPrefix_iff {ws : List String} {p q : List Char} :
    p <+: ws.foldl (fun q w => sharedPrefix q w.toList) q ↔ p <+: q ∧ ∀ w ∈ ws, p <+: w.toList := by
  induction ws generalizing q with
  | nil => simp
  | cons w ws ih => rw [List.foldl_cons, ih, prefix_sharedPrefix_iff, List.forall_mem_cons, and_assoc]

/-- **The common beginning is the greatest**: what begins it is what begins every word. -/
theorem prefix_commonPrefix_iff {ws : List String} (hne : ws ≠ []) {p : List Char} :
    p <+: (commonPrefix ws).toList ↔ ∀ w ∈ ws, p <+: w.toList := by
  cases ws with
  | nil => exact absurd rfl hne
  | cons w ws => rw [commonPrefix, String.toList_ofList, prefix_foldl_sharedPrefix_iff, List.forall_mem_cons]

theorem commonPrefix_prefix {ws : List String} {w : String} (h : w ∈ ws) :
    (commonPrefix ws).toList <+: w.toList :=
  (prefix_commonPrefix_iff (List.ne_nil_of_mem h)).1 List.prefix_rfl w h

/-- A text that begins another one is as long in bytes only if it is the same. -/
theorem eq_of_prefix_of_utf8ByteSize_le {s t : String} (h : s.toList <+: t.toList)
    (hle : t.utf8ByteSize ≤ s.utf8ByteSize) : t = s := by
  obtain ⟨rest, hrest⟩ := h
  have ht : t = s ++ String.ofList rest := by
    apply String.toList_inj.1
    rw [String.toList_append, String.toList_ofList, hrest]
  rw [ht, String.utf8ByteSize_append] at hle
  have hzero : (String.ofList rest).utf8ByteSize = 0 := by omega
  rw [ht, String.utf8ByteSize_eq_zero_iff.1 hzero, String.append_empty]

/-- Only which words there are tells what they have in common, not their order and not how often each of them comes. -/
theorem commonPrefix_congr {vs ws : List String} (hne : ws ≠ []) (h : ∀ v, v ∈ vs ↔ v ∈ ws) :
    commonPrefix vs = commonPrefix ws := by
  have hne' : vs ≠ [] := by
    obtain ⟨w, hw⟩ := List.exists_mem_of_ne_nil ws hne
    exact List.ne_nil_of_mem ((h w).2 hw)
  have hbegins : ∀ p, p <+: (commonPrefix vs).toList ↔ p <+: (commonPrefix ws).toList := by
    intro p
    simp only [prefix_commonPrefix_iff hne', prefix_commonPrefix_iff hne, h]
  exact String.toList_inj.1
    (antisymm ((hbegins _).1 List.prefix_rfl) ((hbegins _).2 List.prefix_rfl))

/-! ### Where words part -/

theorem utf8ByteSize_mono {p q : List Char} (h : p <+: q) :
    (String.ofList p).utf8ByteSize ≤ (String.ofList q).utf8ByteSize := by
  obtain ⟨rest, rfl⟩ := h
  rw [String.ofList_append, String.utf8ByteSize_append]
  exact Nat.le_add_right _ _

/-- Counted from any position, the last character that is shared ends where what is shared does. -/
theorem elim_getLast?_placed (place : Nat) (as bs : List Char) :
    ((((placed place as).zip bs).takeWhile fun pair => pair.1.2 == pair.2).getLast?.elim place fun pair =>
      pair.1.1 + pair.1.2.utf8Size) = place + (String.ofList (sharedPrefix as bs)).utf8ByteSize := by
  fun_induction sharedPrefix as bs generalizing place with
  | case1 as c bs ih =>
    rw [utf8ByteSize_ofList_cons, ← Nat.add_assoc, ← ih]
    simp only [placed, List.zip_cons_cons, List.takeWhile_cons, beq_self_eq_true, if_true, List.getLast?_cons,
      Option.elim_some]
    cases (((placed (place + c.utf8Size) as).zip bs).takeWhile fun pair => pair.1.2 == pair.2).getLast? <;> rfl
  | case2 a as b bs hne => simp [placed, hne]
  | case3 as bs hne =>
    cases as with
    | nil => simp [placed]
    | cons a as =>
      cases bs with
      | nil => simp [placed]
      | cons b bs => exact absurd rfl (hne a as b bs rfl)

theorem partingOf_eq (as bs : List Char) : partingOf as bs = (String.ofList (sharedPrefix as bs)).utf8ByteSize := by
  rw [partingOf, elim_getLast?_placed, Nat.zero_add]

/-- What a beginning of a text shares with a second text ends where the beginning does, or before that where the two
texts part. -/
theorem utf8ByteSize_sharedPrefix {p as : List Char} (h : p <+: as) (bs : List Char) :
    (String.ofList (sharedPrefix p bs)).utf8ByteSize =
      min (partingOf as bs) (String.ofList p).utf8ByteSize := by
  have hall : sharedPrefix as bs <+: as ∧ sharedPrefix as bs <+: bs := prefix_sharedPrefix_iff.1 List.prefix_rfl
  have hpart : sharedPrefix p bs <+: p ∧ sharedPrefix p bs <+: bs := prefix_sharedPrefix_iff.1 List.prefix_rfl
  rw [partingOf_eq]
  obtain hle | hle := List.prefix_or_prefix_of_prefix h hall.1
  · have hshared : sharedPrefix p bs = p :=
      antisymm hpart.1 (prefix_sharedPrefix_iff.2 ⟨List.prefix_rfl, hle.trans hall.2⟩)
    rw [hshared, Nat.min_eq_right (utf8ByteSize_mono hle)]
  · have hshared : sharedPrefix p bs = sharedPrefix as bs :=
      antisymm (prefix_sharedPrefix_iff.2 ⟨hpart.1.trans h, hpart.2⟩)
        (prefix_sharedPrefix_iff.2 ⟨hle, hall.2⟩)
    rw [hshared, Nat.min_eq_left (utf8ByteSize_mono hle)]

/-- From word to word, the position goes where the beginning does that is shared so far. -/
theorem foldl_partingOf {p as : List Char} (h : p <+: as) (ws : List String) :
    ws.foldl (fun place v => min (partingOf as v.toList) place) (String.ofList p).utf8ByteSize =
      (String.ofList (ws.foldl (fun q v => sharedPrefix q v.toList) p)).utf8ByteSize := by
  induction ws generalizing p with
  | nil => rfl
  | cons v ws ih =>
    rw [List.foldl_cons, List.foldl_cons, ← utf8ByteSize_sharedPrefix h]
    exact ih ((prefix_sharedPrefix_iff.1 List.prefix_rfl).1.trans h)

/-- The first word parts from the others where the common beginning ends. -/
theorem parting_eq (w : String) (ws : List String) : parting w ws = (commonPrefix (w :: ws)).utf8ByteSize := by
  have hfold := foldl_partingOf (List.prefix_rfl (l := w.toList)) ws
  rwa [String.ofList_toList] at hfold

/-- **The common beginning of words.** Every word begins with it, and whatever every word begins with, it begins with.
The position at which the first word is cut lies between two characters, and what stands before it is the common
beginning. The order of the words makes no difference, nor does how often each of them comes. -/
theorem commonPrefix_greatest (w : String) (ws : List String) :
    (∀ v ∈ w :: ws, (commonPrefix (w :: ws)).toList <+: v.toList) ∧
    (∀ p : String, (∀ v ∈ w :: ws, p.toList <+: v.toList) → p.toList <+: (commonPrefix (w :: ws)).toList) ∧
    before? (parting w ws) w.toList = some (commonPrefix (w :: ws)).toList ∧
    ∀ vs : List String, (∀ v, v ∈ vs ↔ v ∈ w :: ws) → commonPrefix vs = commonPrefix (w :: ws) := by
  have hne : w :: ws ≠ [] := List.cons_ne_nil w ws
  refine ⟨fun v => commonPrefix_prefix, fun p hp => (prefix_commonPrefix_iff hne).2 hp, ?_,
    fun vs => commonPrefix_congr hne⟩
  obtain ⟨rest, hrest⟩ := commonPrefix_prefix (List.mem_cons_self (a := w) (l := ws))
  rw [parting_eq, ← hrest]
  simpa using before?_append (commonPrefix (w :: ws)).toList rest

-- Two characters of two bytes, of which the first ones are the same.
example : commonPrefix ["né", "nê", "né"] = "n" ∧ parting "né" ["nê", "né"] = 1 := by
  decide

end LineShell.Completion
