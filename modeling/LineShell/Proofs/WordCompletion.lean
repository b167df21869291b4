import LineShell.Proofs.TabCompletion
import Mathlib.Data.List.TakeWhile

/-!
# Completion of the word before a position

Completing at a position of a line replaces the word that ends there. The word starts after the last blank before the
position, however many bytes that blank has, and what it may be replaced with are the words of a list that begin with
it. So a replacement only puts text in at the position. At the end of a line that is a single word, with one word of
the list to go on with, it makes the same of the line as a Tab does.

## The model

A position between two characters is given by the texts before and after it, and `before?` finds the former by its
size in bytes. It is cut in two after its last blank (`exists_append_word`), and that is where the word starts that is
found by counting bytes (`wordStart_append`). The empty word is in no prefix tree, so it is offered by no list that has
it.
-/

namespace LineShell.Completion

/-! ### The word -/

/-- A line is cut in two after its last blank. -/
theorem exists_append_word (line : List Char) :
    ∃ head word, line = head ++ word ∧ (∀ c ∈ word, Text.isBlank c = false) ∧
      ∀ c, head.getLast? = some c → Text.isBlank c = true := by
  refine ⟨(line.reverse.dropWhile fun c => ! Text.isBlank c).reverse,
    (line.reverse.takeWhile fun c => ! Text.isBlank c).reverse, ?_, ?_, ?_⟩
  · rw [← List.reverse_append, List.takeWhile_append_dropWhile, List.reverse_reverse]
  · intro c hc
    simpa using List.mem_takeWhile_imp (List.mem_reverse.1 hc)
  · intro c hc
    rw [List.getLast?_reverse] at hc
    have hblank := List.head?_dropWhile_not (fun c => ! Text.isBlank c) line.reverse
    rw [hc] at hblank
    simpa using hblank

theorem placed_append (place : Nat) (as bs : List Char) :
    placed place (as ++ bs) = placed place as ++ placed (place + (String.ofList as).utf8ByteSize) bs := by
  induction as generalizing place with
  | nil => rfl
  | cons c as ih =>
    rw [List.cons_append, placed, placed, ih, utf8ByteSize_ofList_cons, Nat.add_assoc, List.cons_append]

theorem map_snd_placed (place : Nat) (cs : List Char) : (placed place cs).map (·.2) = cs := by
  induction cs generalizing place with
  | nil => rfl
  | cons c cs ih => rw [placed, List.map_cons, ih]

/-- The word starts where the last blank ends. -/
theorem wordStart_append {head word : List Char} (hword : ∀ c ∈ word, Text.isBlank c = false)
    (hhead : ∀ c, head.getLast? = some c → Text.isBlank c = true) :
    wordStart (head ++ word) = (String.ofList head).utf8ByteSize := by
  have hnone : (placed (0 + (String.ofList head).utf8ByteSize) word).reverse.find? (fun pair => Text.isBlank pair.2) =
      none := by
    rw [List.find?_eq_none]
    intro pair hpair
    have hmem := List.mem_map_of_mem (f := Prod.snd) (List.mem_reverse.1 hpair)
    rw [map_snd_placed] at hmem
    simp [hword _ hmem]
  rw [wordStart, placed_append, List.reverse_append, List.find?_append, hnone, Option.none_or]
  obtain rfl | ⟨init, c, rfl⟩ := List.eq_nil_or_concat' head
  · rfl
  · have hblank := hhead c (by simp)
    simp [placed_append, placed, hblank]

/-- What is offered at a position between two texts, if a word stands before it. -/
theorem atPosition?_append (completer : Completer) {head word : List Char} {before : String}
    (hbefore : before.toList = head ++ word) (hword : ∀ c ∈ word, Text.isBlank c = false)
    (hhead : ∀ c, head.getLast? = some c → Text.isBlank c = true) (after : String) :
    atPosition? completer (before ++ after) before.utf8ByteSize =
      some { start := (String.ofList head).utf8ByteSize
             candidates := spaced (completer (String.ofList word)) } := by
  have hfound : before? before.utf8ByteSize (before ++ after).toList = some before.toList := by
    simpa using before?_append before.toList after.toList
  rw [atPosition?, hfound, Option.bind_some, hbefore, wordStart_append hword hhead, from?_append]
  rfl

/-! ### The offer -/

/-- The words of a list that go on from a beginning, with what is offered in place of the word that ends at a position
of a line, where `head` is the line up to that word. -/
structure Completes (ws : List String) (before after head word : String) (found : List String) (offer : Offer) :
    Prop where
  /-- The word ends at the position. -/
  ends : before = head ++ word
  /-- There is no blank in it. -/
  unbroken : ∀ c ∈ word.toList, Text.isBlank c = false
  /-- It starts the line or follows a blank. -/
  starts : head = "" ∨ ∃ c, head.toList.getLast? = some c ∧ Text.isBlank c = true
  /-- The offer tells at which byte it starts. -/
  start : offer.start = head.utf8ByteSize
  /-- The words found are those of the list that begin with it, but for the empty one. -/
  found_iff (w : String) : w ∈ found ↔ w ∈ ws ∧ w ≠ "" ∧ word.toList <+: w.toList
  /-- They are in order, and none comes twice. -/
  sorted : found.Pairwise fun v w => Text.encode v < Text.encode w
  /-- They are offered, with one space after the only one. -/
  candidates : offer.candidates = if found.length = 1 then found.map (· ++ " ") else found
  /-- Whichever is taken in place of the word, text is put in at the position. -/
  inserts : ∀ c ∈ offer.candidates, ∃ added, head ++ c ++ after = before ++ added ++ after
  /-- If the line is one word, the position at its end, and one word was found, a Tab does the same to the line. -/
  agrees : after = "" → (∀ c ∈ before.toList, Text.isBlank c = false) → found.length = 1 →
    ∀ c ∈ offer.candidates, ∀ (setting : Editor.Setting) (state : Editor.State), state.buffer = before →
      (Editor.tabAmong ws setting state).state.buffer = head ++ c ++ after

theorem spaced_eq (words : List String) :
    spaced words = if words.length = 1 then words.map (· ++ " ") else words := by
  match words with
  | [] => rfl
  | [only] => rfl
  | a :: b :: rest => simp [spaced]

/-- A word that is offered goes on from the beginning it was offered for. -/
theorem exists_append_of_mem_spaced {ws : List String} {word c : String} (h : c ∈ spaced (ofWords ws word)) :
    ∃ added, c = word ++ added := by
  obtain ⟨w, hw, suffix, rfl⟩ : ∃ w ∈ ofWords ws word, ∃ suffix, c = w ++ suffix := by
    rw [spaced_eq] at h
    split at h
    · obtain ⟨w, hw, rfl⟩ := List.mem_map.1 h
      exact ⟨w, hw, " ", rfl⟩
    · exact ⟨c, h, "", (String.append_empty).symm⟩
  obtain ⟨-, -, rest, hrest⟩ := Editor.mem_ofWords.1 hw
  refine ⟨String.ofList rest ++ suffix, String.toList_inj.1 ?_⟩
  simp [← hrest]

/-- With one word to go on with, a Tab at the end of the line takes that word and a space. -/
theorem buffer_tabAmong_of_length_one {ws : List String} {word : String} (hone : (ofWords ws word).length = 1)
    {c : String} (hc : c ∈ spaced (ofWords ws word)) (setting : Editor.Setting) {state : Editor.State}
    (hbuffer : state.buffer = word) : (Editor.tabAmong ws setting state).state.buffer = c := by
  obtain ⟨w, hw⟩ := List.length_eq_one_iff.1 hone
  have hc : c = w ++ " " := by simpa [hw, spaced] using hc
  have hwords : Editor.wordsFrom ws state.buffer = {w} := by
    rw [hbuffer]
    exact Editor.wordsFrom_of_singleton hw
  obtain ⟨hempty, -⟩ | ⟨v, -, hv, hnew, -⟩ | ⟨hmany, -⟩ := Editor.tabAmong_cases ws setting state
  · exact absurd (hwords.symm.trans hempty) (Set.singleton_ne_empty w)
  · rw [hnew, hc, Set.singleton_eq_singleton_iff.1 (hv.symm.trans hwords)]
  · exact absurd hmany (hwords ▸ Set.not_nontrivial_singleton)

/-- **The word before a position is completed.** At every position of every line there is an offer, for the word
between the last blank before the position and the position itself: the words of the list that begin with it, each
once and in order. Taking one of them only puts text in, and at the end of a line of one word, with one word to go on
with, that is what a Tab does. -/
theorem completes_atPosition (ws : List String) (before after : String) :
    ∃ head word found offer, atPosition? (ofWords ws) (before ++ after) before.utf8ByteSize = some offer ∧
      Completes ws before after head word found offer := by
  obtain ⟨head, chars, hends, hunbroken, hblank⟩ := exists_append_word before.toList
  obtain ⟨word, hword⟩ : ∃ word, word = String.ofList chars := ⟨_, rfl⟩
  have hoffer := atPosition?_append (ofWords ws) hends hunbroken hblank after
  rw [← hword] at hoffer
  have hbefore : before = String.ofList head ++ word := by
    rw [← String.toList_inj, hword]
    simpa using hends
  refine ⟨String.ofList head, word, ofWords ws word, _, hoffer, {
    ends := hbefore
    unbroken := by simpa [hword] using hunbroken
    starts := ?_
    start := rfl
    found_iff := fun w => Editor.mem_ofWords
    sorted := Trie.pairwise_completions _ word
    candidates := spaced_eq _
    inserts := ?_
    agrees := ?_ }⟩
  · cases hlast : head.getLast? with
    | none => exact .inl (by simp [List.getLast?_eq_none_iff.1 hlast])
    | some c => exact .inr ⟨c, by simpa using hlast, hblank c hlast⟩
  · intro c hc
    obtain ⟨added, rfl⟩ := exists_append_of_mem_spaced hc
    refine ⟨added, ?_⟩
    rw [← String.append_assoc, ← hbefore]
  · intro hafter hone hlength c hc setting state hbuffer
    -- The word starts the line, since there is no blank that it could follow.
    have hhead : head = [] := by
      rw [← List.getLast?_eq_none_iff, Option.eq_none_iff_forall_ne_some]
      intro b hb
      have hmem : b ∈ before.toList := by
        rw [hends]
        exact List.mem_append_left _ (List.mem_of_getLast? hb)
      have hnot := hone b hmem
      rw [hblank b hb] at hnot
      cases hnot
    have hsame : before = word := by simpa [hhead] using hbefore
    rw [buffer_tabAmong_of_length_one hlength hc setting (hbuffer.trans hsame), hhead, hafter]
    simp

/-- The empty word begins as every word does, but is not offered, and does not count among those that are. -/
theorem completes_atPosition_empty :
    (∀ w ∈ ["", "a"], "".toList <+: w.toList) ∧
      atPosition? (ofWords ["", "a"]) "" 0 = some { start := 0, candidates := ["a "] } := by
  decide +kernel

example :
    atPosition? (ofWords ["exit", "echo", "éa"]) "ls\u3000ex" 7 = some { start := 5, candidates := ["exit "] } := by
  decide +kernel

end LineShell.Completion
