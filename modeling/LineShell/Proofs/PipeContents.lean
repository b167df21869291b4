import LineShell.Files.Pipe
import Mathlib.Data.List.Basic

/-!
# What a pipe holds

Reading takes bytes from the front of a pipe and writing adds bytes at its end, whatever the pages are.
The pages matter for two things: a pipe that is full holds something, and one that is not full takes
something.
-/

namespace LineShell.Pipe

/-! ### Bytes -/

theorem bytes_eq (p : Pipe) : p.bytes = p.front ++ p.back.reverse := by
  unfold bytes
  split
  · next h => simp [h]
  · rfl

@[simp]
theorem bytes_unbounded (bs : Bytes) : (Pipe.unbounded bs).bytes = bs := rfl

theorem isEmpty_iff {p : Pipe} : p.isEmpty = true ↔ p.bytes = [] := by
  simp [isEmpty, bytes_eq]

/-- What can be read now is where the bytes of the pipe start. -/
theorem bytes_eq_peek_append (p : Pipe) : p.bytes = p.peek ++ p.bytes.drop p.peek.length := by
  unfold peek
  cases h : p.front <;> simp [h, bytes_eq]

theorem peek_eq_nil_iff {p : Pipe} : p.peek = [] ↔ p.bytes = [] := by
  unfold peek
  cases h : p.front <;> simp [h, bytes_eq]

theorem skip_eq (n : Nat) (bs : Bytes) : skip n bs = (n - bs.length, bs.drop n) := by
  induction bs generalizing n with
  | nil => cases n <;> simp [skip]
  | cons b bs ih =>
    cases n with
    | zero => simp [skip]
    | succ n => simp [skip, ih]

theorem bytes_advance (p : Pipe) (n : Nat) : (p.advance n).bytes = p.bytes.drop n := by
  unfold advance
  simp only [skip_eq, bytes_eq]
  split
  · next front h =>
    obtain ⟨hn, rfl⟩ := Prod.mk.inj h
    rw [List.drop_append_of_le_length (by omega)]
  · next more front hne h =>
    obtain ⟨rfl, -⟩ := Prod.mk.inj h
    have hlen : p.front.length ≤ n := by
      by_contra hlt
      exact hne (by omega)
    simp [List.drop_append, List.drop_eq_nil_of_le hlen]

@[simp]
theorem bounded_advance (p : Pipe) (n : Nat) : (p.advance n).bounded = p.bounded := by
  unfold advance
  dsimp only
  split <;> rfl

theorem length_turn_le (n : Nat) (pages : List Page) : (turn n pages).length ≤ pages.length := by
  induction pages generalizing n with
  | nil => exact Nat.le_refl _
  | cons page pages ih =>
    rw [turn]
    split
    · exact Nat.le_refl _
    · exact Nat.le_succ_of_le (ih _)

/-- Reading does not fill a pipe. -/
theorem isFull_advance {p : Pipe} (n : Nat) (h : p.isFull = false) : (p.advance n).isFull = false := by
  have hpages : (p.advance n).pages = turn n p.pages := by
    unfold advance
    dsimp only
    split <;> rfl
  have hle := length_turn_le n p.pages
  rw [isFull, bounded_advance, hpages]
  simp only [isFull, Bool.and_eq_false_iff, decide_eq_false_iff_not, Nat.not_le] at h ⊢
  exact h.imp_right fun hlt => by omega

theorem bytes_append (p : Pipe) (bs : Bytes) : (p.append bs).bytes = p.bytes ++ bs := by
  simp [append, bytes_eq]

/-! ### Pages -/

/-- How many bytes pages hold that have not been read. -/
def held : List Page → Nat
  | [] => 0
  | page :: pages => page.unread + held pages

/-- The pages of a pipe that can be full hold its bytes, and none is empty. -/
def Sound (p : Pipe) : Prop :=
  p.bounded = true → held p.pages = p.bytes.length ∧ ∀ page ∈ p.pages, 0 < page.unread

theorem sound_of_not_bounded {p : Pipe} (h : p.bounded = false) : p.Sound := by
  intro hb
  rw [h] at hb
  cases hb

theorem sound_empty : Sound {} := fun _ => ⟨rfl, by simp⟩

theorem held_append (ps qs : List Page) : held (ps ++ qs) = held ps + held qs := by
  induction ps with
  | nil => simp [held]
  | cons page ps ih => simp [held, ih, Nat.add_assoc]

theorem held_turn {n : Nat} {pages : List Page} (h : n ≤ held pages) :
    held (turn n pages) = held pages - n := by
  induction pages generalizing n with
  | nil => simp [turn, held]
  | cons page pages ih =>
    rw [turn]
    split
    · simp only [held]
      omega
    · rw [ih (by simp only [held] at h; omega)]
      simp only [held]
      omega

theorem unread_pos_of_mem_turn {n : Nat} {pages : List Page} (h : ∀ page ∈ pages, 0 < page.unread) :
    ∀ page ∈ turn n pages, 0 < page.unread := by
  induction pages generalizing n with
  | nil => simp [turn]
  | cons page pages ih =>
    intro q hq
    rw [turn] at hq
    split at hq
    · obtain rfl | hq := List.mem_cons.1 hq
      · simp only
        omega
      · exact h q (.tail _ hq)
    · exact ih (fun r hr => h r (.tail _ hr)) q hq

theorem Sound.advance {p : Pipe} (hp : p.Sound) {n : Nat} (hn : n ≤ p.bytes.length) :
    (p.advance n).Sound := by
  intro hb
  rw [bounded_advance] at hb
  obtain ⟨hheld, hpos⟩ := hp hb
  have hpages : (p.advance n).pages = turn n p.pages := by
    unfold Pipe.advance
    dsimp only
    split <;> rfl
  rw [bytes_advance, List.length_drop, hpages]
  exact ⟨by rw [held_turn (by omega), hheld], unread_pos_of_mem_turn hpos⟩

/-- New pages hold as many bytes as they were filled with, up to those that came. -/
theorem newPages_spec (count n : Nat) :
    held (newPages count n) = (newPages count n).foldr (·.filled + ·) 0 ∧
      held (newPages count n) ≤ n ∧ ∀ page ∈ newPages count n, 0 < page.unread := by
  induction count generalizing n with
  | zero => simp [newPages, held]
  | succ count ih =>
    obtain ⟨hfilled, hle, hpos⟩ := ih (n - pageSize)
    rw [newPages]
    split
    · simp [held]
    · have hsize : 0 < pageSize := by decide
      refine ⟨by simp [held, hfilled], by simp only [held]; omega, fun page hpage => ?_⟩
      obtain rfl | hpage := List.mem_cons.1 hpage
      · simp only
        omega
      · exact hpos page hpage

theorem held_newPages_pos {count n : Nat} (hcount : 0 < count) (hn : 0 < n) :
    0 < held (newPages count n) := by
  obtain ⟨count, rfl⟩ : ∃ c, count = c + 1 := ⟨count - 1, by omega⟩
  have hsize : 0 < pageSize := by decide
  rw [newPages, if_neg (by omega)]
  simp only [held]
  omega

theorem topUp_spec {n : Nat} {pages pages' : List Page} (h : topUp n pages = some pages')
    (hpos : ∀ page ∈ pages, 0 < page.unread) :
    held pages' = held pages + n ∧ ∀ page ∈ pages', 0 < page.unread := by
  induction pages generalizing pages' with
  | nil => simp [topUp] at h
  | cons page pages ih =>
    cases pages with
    | nil =>
      simp only [topUp, Option.ite_none_right_eq_some, Option.some.injEq] at h
      obtain ⟨-, rfl⟩ := h
      have := hpos page (.head _)
      refine ⟨by simp [held], fun q hq => ?_⟩
      rw [List.mem_singleton.1 hq]
      simp only
      omega
    | cons next pages =>
      simp only [topUp, Option.map_eq_some_iff] at h
      obtain ⟨rest, hrest, rfl⟩ := h
      obtain ⟨hheld, hrestPos⟩ := ih hrest fun q hq => hpos q (.tail _ hq)
      refine ⟨by simp only [held] at hheld ⊢; omega, fun q hq => ?_⟩
      obtain rfl | hq := List.mem_cons.1 hq
      · exact hpos _ (.head _)
      · exact hrestPos q hq

theorem topUp_zero (pages : List Page) : topUp 0 pages = none := by
  induction pages with
  | nil => rfl
  | cons page pages ih =>
    cases pages with
    | nil => simp [topUp]
    | cons next pages => simp [topUp, ih]

/-- The pages after a write hold what they held and what was taken. -/
theorem takes_spec {p : Pipe} (hpos : ∀ page ∈ p.pages, 0 < page.unread) (starting : Bool) (n : Nat) :
    (p.takes starting n).1 ≤ n ∧ held (p.takes starting n).2 = held p.pages + (p.takes starting n).1 ∧
      ∀ page ∈ (p.takes starting n).2, 0 < page.unread := by
  unfold takes
  have hspare : (if starting then n % pageSize else 0) ≤ n := by
    split
    · exact Nat.mod_le _ _
    · exact Nat.zero_le _
  generalize (if starting then n % pageSize else 0) = spare at hspare ⊢
  cases htop : topUp spare p.pages with
  | none =>
    obtain ⟨hfilled, hle, hnew⟩ := newPages_spec (pageCount - p.pages.length) (n - 0)
    simp only [htop, Nat.sub_zero] at hfilled hle hnew ⊢
    simp only [← hfilled, held_append, List.mem_append, Nat.zero_add]
    exact ⟨by omega, trivial, fun page h => h.elim (hpos page) (hnew page)⟩
  | some pages =>
    obtain ⟨hheld, hpages⟩ := topUp_spec htop hpos
    obtain ⟨hfilled, hle, hnew⟩ := newPages_spec (pageCount - pages.length) (n - spare)
    simp only [htop, ← hfilled, held_append, List.mem_append]
    exact ⟨by omega, by omega, fun page h => h.elim (hpages page) (hnew page)⟩

/-! ### Writing -/

@[simp]
theorem bounded_push (p : Pipe) (starting : Bool) (bs : Bytes) :
    (p.push starting bs).2.bounded = p.bounded := by
  unfold push
  split <;> rfl

theorem push_of_not_bounded {p : Pipe} (h : p.bounded = false) (starting : Bool) (bs : Bytes) :
    p.push starting bs = (bs.length, p.append bs) := by
  simp [push, h]

/-- A write adds the bytes that it tells of. -/
theorem bytes_push (p : Pipe) (starting : Bool) (bs : Bytes) :
    (p.push starting bs).2.bytes = p.bytes ++ bs.take (p.push starting bs).1 := by
  unfold push
  split
  · simp [bytes_eq]
  · rw [bytes_append, List.take_length]

theorem Sound.push {p : Pipe} (hp : p.Sound) (starting : Bool) (bs : Bytes) :
    (p.push starting bs).1 ≤ bs.length ∧ (p.push starting bs).2.Sound := by
  cases hb : p.bounded with
  | false =>
    rw [push_of_not_bounded hb]
    exact ⟨Nat.le_refl _, sound_of_not_bounded hb⟩
  | true =>
    obtain ⟨hheld, hpos⟩ := hp hb
    obtain ⟨hle, htaken, hpages⟩ := takes_spec hpos starting bs.length
    have hn : (p.push starting bs).1 = (p.takes starting bs.length).1 := by simp [Pipe.push, hb]
    have hps : (p.push starting bs).2.pages = (p.takes starting bs.length).2 := by simp [Pipe.push, hb]
    refine ⟨by omega, fun _ => ⟨?_, ?_⟩⟩
    · rw [bytes_push, List.length_append, List.length_take, hn, hps]
      omega
    · rwa [hps]

/-- A pipe that is not full takes something of a write that goes on. -/
theorem push_pos {p : Pipe} (hfull : p.isFull = false) {bs : Bytes} (hne : bs ≠ []) :
    0 < (p.push false bs).1 := by
  have hlen : 0 < bs.length := List.length_pos_of_ne_nil hne
  cases hb : p.bounded with
  | false => rwa [push_of_not_bounded hb]
  | true =>
    simp only [isFull, hb, Bool.true_and, decide_eq_false_iff_not, Nat.not_le] at hfull
    have hpos : 0 < held (newPages (pageCount - p.pages.length) bs.length) := held_newPages_pos (by omega) hlen
    obtain ⟨hfilled, -⟩ := newPages_spec (pageCount - p.pages.length) bs.length
    simp only [push, hb, if_true, takes, Bool.false_eq_true, if_false, topUp_zero, Nat.sub_zero,
      Nat.zero_add]
    omega

/-- A pipe that is full holds something. -/
theorem Sound.bytes_ne_nil {p : Pipe} (hp : p.Sound) (hfull : p.isFull = true) : p.bytes ≠ [] := by
  simp only [isFull, Bool.and_eq_true, decide_eq_true_eq] at hfull
  obtain ⟨hheld, hpos⟩ := hp hfull.1
  intro hnil
  rw [hnil] at hheld
  cases hpages : p.pages with
  | nil =>
    rw [hpages] at hfull
    exact absurd hfull.2 (by decide)
  | cons page pages =>
    have := hpos page (by simp [hpages])
    simp only [hpages, held, List.length_nil] at hheld
    omega

end LineShell.Pipe
