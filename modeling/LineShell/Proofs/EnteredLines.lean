import LineShell.Proofs.Display
import LineShell.Proofs.HistoryFile

/-!
# Entered lines are unbroken

Whatever keys come, the line that is entered holds no carriage return and no line feed, provided that none
of the earlier lines and of the candidates for completion does: no key stands for one of these characters,
and all else in a line was typed, recalled or completed.

## The model

`State.IsUnbroken` is kept by `react`, key by key, and so holds when a key ends the line.
-/

namespace LineShell

open Text (IsUnbroken)

namespace Text

theorem isUnbroken_empty : IsUnbroken "" := by
  simp [IsUnbroken]

theorem isUnbroken_append {s t : String} (hs : IsUnbroken s) (ht : IsUnbroken t) : IsUnbroken (s ++ t) := by
  intro c hc
  rw [String.toList_append, List.mem_append] at hc
  exact hc.elim (hs c) (ht c)

/-- A text made of characters of an unbroken one. -/
theorem IsUnbroken.of_subset {s t : String} (hs : IsUnbroken s) (h : t.toList ⊆ s.toList) : IsUnbroken t :=
  fun c hc => hs c (h hc)

theorem isUnbroken_push {s : String} (hs : IsUnbroken s) {c : Char} (hc : 0x20 ≤ c.toNat) :
    IsUnbroken (s.push c) := by
  intro d hd
  rw [String.toList_push, List.mem_append, List.mem_singleton] at hd
  obtain hd | rfl := hd
  · exact hs d hd
  · constructor <;> rintro rfl <;> revert hc <;> decide

end Text

namespace Editor

/-- The texts of which a line can be made are unbroken. -/
structure Setting.IsUnbroken (setting : Setting) : Prop where
  history : ∀ line ∈ setting.history, Text.IsUnbroken line
  completer : ∀ buffer, ∀ candidate ∈ setting.completer buffer, Text.IsUnbroken candidate

/-- The texts of the line that is being entered are unbroken. -/
structure State.IsUnbroken (state : State) : Prop where
  buffer : Text.IsUnbroken state.buffer
  saved : ∀ line, state.saved = some line → Text.IsUnbroken line

section

variable {setting : Setting} {state : State}

theorem isUnbroken_commonPrefix {ws : List String} (h : ∀ w ∈ ws, Text.IsUnbroken w) :
    Text.IsUnbroken (Completion.commonPrefix ws) := by
  cases ws with
  | nil => exact Text.isUnbroken_empty
  | cons w ws =>
    have hw : w ∈ w :: ws := List.mem_cons_self ..
    exact (h w hw).of_subset (Completion.commonPrefix_prefix hw).subset

theorem isUnbroken_complete (hset : setting.IsUnbroken) (hstate : state.IsUnbroken) :
    (complete setting state).state.IsUnbroken := by
  have hcs := hset.completer state.buffer
  obtain ⟨-, h⟩ | ⟨only, honly, h⟩ | ⟨-, -, h⟩ | ⟨-, -, h⟩ | ⟨-, -, h⟩ := complete_cases setting state
  · rw [h]
    exact ⟨hstate.buffer, hstate.saved⟩
  · rw [h]
    rw [honly] at hcs
    have hspace : Text.IsUnbroken " " := by simp [Text.IsUnbroken]
    exact ⟨Text.isUnbroken_append (hcs only (List.mem_cons_self ..)) hspace, hstate.saved⟩
  · rw [h]
    exact ⟨isUnbroken_commonPrefix hcs, hstate.saved⟩
  · rw [h]
    exact ⟨hstate.buffer, hstate.saved⟩
  · rw [h]
    exact ⟨hstate.buffer, hstate.saved⟩

theorem isUnbroken_earlier (hset : setting.IsUnbroken) (hstate : state.IsUnbroken) :
    (earlier setting state).state.IsUnbroken := by
  unfold earlier
  dsimp only
  split
  · exact hstate
  · refine ⟨?_, fun line hline => ?_⟩
    · rw [goOn_state, List.getD_eq_getElem?_getD]
      cases h : setting.history[min state.cursor setting.history.length - 1]? with
      | none => exact Text.isUnbroken_empty
      | some line => exact hset.history line (List.mem_of_getElem? h)
    · rw [goOn_state] at hline
      dsimp only at hline
      split at hline
      · cases hline
        exact hstate.buffer
      · exact hstate.saved line hline

theorem isUnbroken_later (hset : setting.IsUnbroken) (hstate : state.IsUnbroken) :
    (later setting state).state.IsUnbroken := by
  unfold later
  dsimp only
  split
  · exact hstate
  · split
    · next line hline => exact ⟨hset.history line (List.mem_of_getElem? hline), hstate.saved⟩
    · refine ⟨?_, by simp⟩
      cases h : state.saved with
      | none => exact Text.isUnbroken_empty
      | some line => exact hstate.saved line h

/-- No key brings a character that breaks the line. -/
theorem isUnbroken_react (hset : setting.IsUnbroken) (hstate : state.IsUnbroken) {key : Key}
    (hkey : Key.IsText (.ok key)) : (react setting state key).state.IsUnbroken := by
  have hcalm : state.calm.IsUnbroken := ⟨hstate.buffer, hstate.saved⟩
  unfold react
  split_ifs
  · exact isUnbroken_complete hset hstate
  · cases key with
    | enter | interrupt | tab | other => exact hcalm
    | endOfInput | endOfText =>
      unfold reactPlain
      split_ifs <;> exact hcalm
    | char c => exact ⟨Text.isUnbroken_push hstate.buffer hkey, hstate.saved⟩
    | backspace =>
      unfold reactPlain
      split_ifs
      · exact hcalm
      · refine ⟨hstate.buffer.of_subset ?_, hstate.saved⟩
        simpa [dropLast] using List.dropLast_subset state.buffer.toList
    | up => exact isUnbroken_earlier hset hcalm
    | down => exact isUnbroken_later hset hcalm

/-- A line that a key ends is what was in the buffer, or empty. -/
theorem isUnbroken_of_outcome (hstate : state.IsUnbroken) {key : Key} {line : String}
    (h : (react setting state key).outcome = some (.line line)) : Text.IsUnbroken line := by
  unfold react at h
  split_ifs at h
  · rw [outcome_complete] at h
    cases h
  · cases key with
    | enter =>
      obtain rfl : state.buffer = line := by simpa [reactPlain, stop] using h
      exact hstate.buffer
    | endOfInput =>
      simp only [reactPlain] at h
      split_ifs at h
      · cases h
      · obtain rfl : state.buffer = line := by simpa [stop] using h
        exact hstate.buffer
    | interrupt =>
      obtain rfl : "" = line := by simpa [reactPlain, stop] using h
      exact Text.isUnbroken_empty
    | endOfText | backspace =>
      simp only [reactPlain] at h
      split_ifs at h <;> cases h
    | up =>
      simp only [reactPlain, earlier] at h
      split_ifs at h <;> cases h
    | down =>
      simp only [reactPlain, later] at h
      split at h
      · cases h
      · split at h <;> cases h
    | char | tab | other => cases h

/-- A line that was entered is unbroken. -/
theorem isUnbroken_run {screen : Screen} {events : List Event} (hset : setting.IsUnbroken)
    (hstate : state.IsUnbroken) {line : String}
    (h : (run setting screen state events).result = .ok (.line line)) : Text.IsUnbroken line := by
  fun_induction run setting screen state events with
  | case1 | case2 => cases h
  | case3 screen state events key rest hread effect last hrefused outcome hout =>
    obtain rfl : outcome = .line line := Except.ok.inj h
    exact isUnbroken_of_outcome hstate hout
  | case4 screen state events key rest hread effect hrefused hout ih =>
    have htext := Key.read_isText events
    rw [hread] at htext
    exact ih (isUnbroken_react hset hstate htext) h

end

/-- **A line that was entered is unbroken** if the earlier lines and the candidates are. -/
theorem isUnbroken_readLine {terminal : Terminal} {setting : Setting} {screen : Screen}
    {events : List Event} (hset : setting.IsUnbroken) {line : String}
    (h : (readLine terminal setting screen events).result = .ok (.line line)) : Text.IsUnbroken line := by
  unfold readLine at h
  split at h
  · cases h
  · dsimp only at h
    split_ifs at h
    exact isUnbroken_run hset ⟨Text.isUnbroken_empty, by simp⟩ h

end Editor

end LineShell
