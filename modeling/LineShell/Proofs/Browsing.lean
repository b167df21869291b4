import LineShell.Proofs.Display
import Mathlib.Data.List.Induction
import Mathlib.Order.Nat

/-!
# Browsing the history

The line that is being entered is never lost while earlier ones are recalled: it is put away when the first of
them is shown, and comes back as it was, whatever became of those that were shown in between. The place in the
history never leaves it.

## The model

`stateOf` is the state after keys, from the beginning of a call; a key that ends the line leaves the state as it
is. The keys that browse move the cursor, and no other key does (`react_of_ne`), so what was put away stays until
the cursor is back (`LastLeft`). `Browses` says what comes of it, key by key and for a way there and back.
-/

namespace LineShell.Editor

/-- The state after keys, from the beginning of a call. -/
def stateOf (setting : Setting) (keys : List Key) : State :=
  stateAfter setting { cursor := setting.history.length } keys

section

variable {setting : Setting} {state : State} {key : Key} {keys before after between : List Key} {n : Nat}

theorem stateOf_append (setting : Setting) (keys more : List Key) :
    stateOf setting (keys ++ more) = stateAfter setting (stateOf setting keys) more :=
  List.foldl_append

theorem stateOf_snoc (setting : Setting) (keys : List Key) (key : Key) :
    stateOf setting (keys ++ [key]) = (react setting (stateOf setting keys) key).state :=
  stateOf_append setting keys [key]

/-! ### One key -/

theorem cursor_saved_complete (setting : Setting) (state : State) :
    (complete setting state).state.cursor = state.cursor ∧ (complete setting state).state.saved = state.saved := by
  obtain ⟨-, h⟩ | ⟨_, -, h⟩ | ⟨-, -, h⟩ | ⟨-, -, h⟩ | ⟨-, -, h⟩ := complete_cases setting state <;> rw [h] <;>
    exact ⟨rfl, rfl⟩

/-- Keys that do not browse leave the place in the history alone, and what was put away. -/
theorem react_of_ne (setting : Setting) (state : State) (hup : key ≠ .up) (hdown : key ≠ .down) :
    (react setting state key).state.cursor = state.cursor ∧
      (react setting state key).state.saved = state.saved := by
  cases key with
  | up => exact absurd rfl hup
  | down => exact absurd rfl hdown
  | tab => exact cursor_saved_complete setting state
  | enter | interrupt | char | other => exact ⟨rfl, rfl⟩
  | backspace | endOfText | endOfInput =>
    simp only [react, reactPlain, reduceCtorEq, if_false]
    split_ifs <;> exact ⟨rfl, rfl⟩

theorem react_up_of_nil (h : setting.history = []) :
    react setting state .up = goOn state.calm [] := by
  simp [react, reactPlain, earlier, h]

/-- The earlier line is recalled, and the line that was being entered is put away. -/
theorem react_up (state : State) (h : setting.history ≠ []) :
    (react setting state .up).state.cursor = min state.cursor setting.history.length - 1 ∧
      setting.history[min state.cursor setting.history.length - 1]? =
        some (react setting state .up).state.buffer ∧
      (react setting state .up).state.saved =
        if setting.history.length ≤ state.cursor then some state.buffer else state.saved := by
  have hne : setting.history.length ≠ 0 := mt List.length_eq_zero_iff.1 h
  have hlt : min state.cursor setting.history.length - 1 < setting.history.length := by omega
  have hreact : react setting state .up = earlier setting state.calm := rfl
  rw [hreact, earlier, if_neg hne]
  refine ⟨rfl, ?_, rfl⟩
  simp [goOn_state, List.getD_eq_getElem?_getD, List.getElem?_eq_getElem hlt]

theorem react_down_of_le (h : setting.history.length ≤ state.cursor) :
    react setting state .down = goOn state.calm [] := by
  simp [react, reactPlain, later, h]

/-- A later line is recalled while there is one. -/
theorem react_down_of_lt (h : state.cursor + 1 < setting.history.length) :
    (react setting state .down).state.cursor = state.cursor + 1 ∧
      setting.history[state.cursor + 1]? = some (react setting state .down).state.buffer ∧
      (react setting state .down).state.saved = state.saved := by
  have hle : ¬ setting.history.length ≤ state.cursor := by omega
  simp [react, reactPlain, later, hle, List.getElem?_eq_getElem h, goOn_state]

/-- After the last line that was put away comes back. -/
theorem react_down_of_eq (h : state.cursor + 1 = setting.history.length) :
    (react setting state .down).state.cursor = setting.history.length ∧
      (react setting state .down).state.buffer = state.saved.getD "" := by
  have hle : ¬ setting.history.length ≤ state.cursor := by omega
  simp [react, reactPlain, later, hle, h, goOn_state]

/-! ### Away from the line that is being entered -/

/-- A key that ends up at an earlier line either came from one, and then leaves alone what was put away, or it
puts away the line that was being entered. -/
theorem react_away (hle : state.cursor ≤ setting.history.length)
    (h : (react setting state key).state.cursor < setting.history.length) :
    state.cursor < setting.history.length ∧ (react setting state key).state.saved = state.saved ∨
      state.cursor = setting.history.length ∧ key = .up ∧
        (react setting state key).state.saved = some state.buffer := by
  by_cases hup : key = .up
  · subst hup
    have hne : setting.history ≠ [] := fun hnil => by simp [hnil] at h
    obtain ⟨-, -, hsaved⟩ := react_up state hne
    obtain hlt | heq := Nat.lt_or_eq_of_le hle
    · exact .inl ⟨hlt, by rw [hsaved, if_neg (Nat.not_le.2 hlt)]⟩
    · exact .inr ⟨heq, rfl, by rw [hsaved, if_pos heq.ge]⟩
  · by_cases hdown : key = .down
    · subst hdown
      obtain hlt | heq | hge : state.cursor + 1 < setting.history.length ∨
          state.cursor + 1 = setting.history.length ∨ setting.history.length ≤ state.cursor := by omega
      · exact .inl ⟨Nat.lt_of_succ_lt hlt, (react_down_of_lt hlt).2.2⟩
      · exact absurd (react_down_of_eq heq).1 h.ne
      · rw [react_down_of_le hge, goOn_state] at h
        exact absurd hge (Nat.not_le.2 h)
    · obtain ⟨hcursor, hsaved⟩ := react_of_ne setting state hup hdown
      exact .inl ⟨hcursor ▸ h, hsaved⟩

theorem cursor_react_le (h : state.cursor ≤ setting.history.length) :
    (react setting state key).state.cursor ≤ setting.history.length := by
  by_cases hup : key = .up
  · subst hup
    by_cases hnil : setting.history = []
    · rw [react_up_of_nil hnil]
      exact h
    · rw [(react_up state hnil).1]
      omega
  · by_cases hdown : key = .down
    · subst hdown
      obtain hlt | heq | hge : state.cursor + 1 < setting.history.length ∨
          state.cursor + 1 = setting.history.length ∨ setting.history.length ≤ state.cursor := by omega
      · exact (react_down_of_lt hlt).1 ▸ hlt.le
      · exact (react_down_of_eq heq).1.le
      · rw [react_down_of_le hge]
        exact h
    · exact (react_of_ne setting state hup hdown).1 ▸ h

/-- The place in the history never leaves it. -/
theorem cursor_stateOf_le (setting : Setting) (keys : List Key) :
    (stateOf setting keys).cursor ≤ setting.history.length := by
  induction keys using List.reverseRecOn with
  | nil => exact Nat.le_refl _
  | append_singleton keys key ih =>
    rw [stateOf_snoc]
    exact cursor_react_le ih

/-- After the keys `before` the line that was being entered is left for an earlier one, and it has not come back
during the keys `after`. -/
structure LastLeft (setting : Setting) (before after : List Key) : Prop where
  /-- Until then the line is the one that is being entered. -/
  live : (stateOf setting before).cursor = setting.history.length
  /-- From then on it is an earlier one. -/
  away : ∀ part, part <+: after → (stateOf setting (before ++ .up :: part)).cursor < setting.history.length

theorem LastLeft.snoc (h : LastLeft setting before after)
    (hcursor : (stateOf setting (before ++ .up :: (after ++ [key]))).cursor < setting.history.length) :
    LastLeft setting before (after ++ [key]) where
  live := h.live
  away part hpart := by
    obtain rfl | hafter := List.prefix_concat_iff.1 hpart
    · exact hcursor
    · exact h.away part hafter

/-- While an earlier line is shown, the line that was being entered is put away as it was when it was left. -/
theorem exists_lastLeft (h : (stateOf setting keys).cursor < setting.history.length) :
    ∃ before after, keys = before ++ .up :: after ∧ LastLeft setting before after ∧
      (stateOf setting keys).saved = some (stateOf setting before).buffer := by
  induction keys using List.reverseRecOn with
  | nil => exact absurd h (Nat.lt_irrefl _)
  | append_singleton keys key ih =>
    have hreact := stateOf_snoc setting keys key
    rw [hreact] at h
    obtain ⟨hlt, hsaved⟩ | ⟨heq, rfl, hsaved⟩ := react_away (cursor_stateOf_le setting keys) h
    · obtain ⟨before, after, rfl, hleft, hstash⟩ := ih hlt
      refine ⟨before, after ++ [key], by simp, hleft.snoc ?_, ?_⟩
      · rwa [← List.cons_append, ← List.append_assoc, hreact]
      · rw [hreact, hsaved, hstash]
    · refine ⟨keys, [], rfl, ⟨heq, fun part hpart => ?_⟩, hreact ▸ hsaved⟩
      rw [List.prefix_nil.1 hpart, hreact]
      exact h

/-! ### There and back -/

/-- Keys that turn to earlier lines only, and others that do not browse: as far back as the earlier lines are turned
to, and with the same line put away. -/
theorem stateAfter_of_notMem_down (hdown : .down ∉ between) (hcursor : state.cursor < setting.history.length) :
    (stateAfter setting state between).cursor = state.cursor - between.count .up ∧
      (stateAfter setting state between).saved = state.saved := by
  induction between generalizing state with
  | nil => exact ⟨rfl, rfl⟩
  | cons key between ih =>
    obtain ⟨hkey, hbetween⟩ := not_or.1 (mt List.mem_cons.2 hdown)
    have hstep : (react setting state key).state.cursor = state.cursor - [key].count .up ∧
        (react setting state key).state.saved = state.saved := by
      by_cases hup : key = .up
      · subst hup
        have hne : setting.history ≠ [] := fun hnil => by simp [hnil] at hcursor
        obtain ⟨hto, -, hsaved⟩ := react_up state hne
        refine ⟨?_, by rw [hsaved, if_neg (Nat.not_le.2 hcursor)]⟩
        rw [hto, Nat.min_eq_left hcursor.le, List.count_singleton_self]
      · rw [List.count_singleton, if_neg (by simpa using hup)]
        exact react_of_ne _ _ hup (Ne.symm hkey)
    obtain ⟨hto, hsaved⟩ := ih hbetween (hstep.1.trans_lt (Nat.lt_of_le_of_lt (Nat.sub_le _ _) hcursor))
    refine ⟨?_, hsaved.trans hstep.2⟩
    change (stateAfter setting (react setting state key).state between).cursor = _
    rw [hto, hstep.1, Nat.sub_sub, ← List.count_append, List.singleton_append]

theorem stateAfter_downs_of_eq (hcursor : state.cursor = setting.history.length) (n : Nat) :
    (stateAfter setting state (List.replicate n .down)).cursor = setting.history.length ∧
      (stateAfter setting state (List.replicate n .down)).buffer = state.buffer := by
  induction n generalizing state with
  | zero => exact ⟨hcursor, rfl⟩
  | succ n ih =>
    change (stateAfter setting (react setting state .down).state (List.replicate n .down)).cursor = _ ∧
      (stateAfter setting (react setting state .down).state (List.replicate n .down)).buffer = _
    rw [react_down_of_le hcursor.ge]
    exact ih hcursor

/-- Far enough down, the line that was put away comes back and stays. -/
theorem stateAfter_downs (hcursor : state.cursor < setting.history.length)
    (hn : setting.history.length ≤ state.cursor + n) :
    (stateAfter setting state (List.replicate n .down)).cursor = setting.history.length ∧
      (stateAfter setting state (List.replicate n .down)).buffer = state.saved.getD "" := by
  induction n generalizing state with
  | zero => exact absurd hn (Nat.not_le.2 hcursor)
  | succ n ih =>
    change (stateAfter setting (react setting state .down).state (List.replicate n .down)).cursor = _ ∧
      (stateAfter setting (react setting state .down).state (List.replicate n .down)).buffer = _
    obtain hlt | heq := Nat.lt_or_eq_of_le (Nat.succ_le_of_lt hcursor)
    · obtain ⟨hto, -, hsaved⟩ := react_down_of_lt hlt
      rw [← hsaved]
      exact ih (hto ▸ hlt) (by omega)
    · obtain ⟨hto, hbuffer⟩ := react_down_of_eq heq
      rw [← hbuffer]
      exact stateAfter_downs_of_eq hto n

/-- However far back the earlier lines are turned to, and whatever is made of them, enough steps down lead back to
the line that was being entered, as it was. -/
theorem stateOf_there_and_back (hne : setting.history ≠ [])
    (hlive : (stateOf setting before).cursor = setting.history.length) (hdown : .down ∉ between)
    (hn : min ((.up :: between).count .up) setting.history.length ≤ n) :
    (stateOf setting (before ++ .up :: between ++ List.replicate n .down)).cursor = setting.history.length ∧
      (stateOf setting (before ++ .up :: between ++ List.replicate n .down)).buffer =
        (stateOf setting before).buffer := by
  have hpos : 0 < setting.history.length := List.length_pos_iff.2 hne
  obtain ⟨hto, -, hsaved⟩ := react_up (stateOf setting before) hne
  rw [hlive, Nat.min_self] at hto
  rw [hlive, if_pos (Nat.le_refl _)] at hsaved
  have haway : (react setting (stateOf setting before) .up).state.cursor < setting.history.length := by omega
  obtain ⟨hfar, hstash⟩ := stateAfter_of_notMem_down hdown haway
  rw [List.count_cons_self] at hn
  obtain ⟨hcursor, hbuffer⟩ := stateAfter_downs (n := n) (by omega : (stateAfter setting
    (react setting (stateOf setting before) .up).state between).cursor < setting.history.length) (by omega)
  have hkeys : stateOf setting (before ++ .up :: between ++ List.replicate n .down) =
      stateAfter setting (stateAfter setting (react setting (stateOf setting before) .up).state between)
        (List.replicate n .down) := by
    rw [stateOf_append, stateOf_append]
    rfl
  rw [hkeys, hcursor, hbuffer, hstash, hsaved]
  exact ⟨rfl, rfl⟩

/-- A call ends as its last key says in the state before it. -/
theorem readLine_result {terminal : Terminal} {screen : Screen} {events : List Event}
    (hkeys : (readLine terminal setting screen events).echoes.map (·.key) = (keys ++ [key]).map .ok)
    (hfull : (readLine terminal setting screen events).result ≠ .error { cause := .screenFull }) :
    ∃ outcome, (react setting (stateOf setting keys) key).outcome = some outcome ∧
      (readLine terminal setting screen events).result = .ok outcome := by
  unfold readLine at hkeys hfull ⊢
  cases hfault : terminal.enableFault with
  | some cause => simp [hfault] at hkeys
  | none =>
    simp only [hfault] at hkeys hfull ⊢
    split_ifs at hkeys hfull ⊢
    · simp at hkeys
    · exact run_result hkeys hfull

/-- What browsing the history does, key by key and in the long run. -/
structure Browses (setting : Setting) : Prop where
  /-- The cursor stays in the history, or right after it at the line that is being entered. -/
  within (keys : List Key) : (stateOf setting keys).cursor ≤ setting.history.length
  /-- While an earlier line is shown, the line that was being entered is put away as it was when the cursor last left
  it. -/
  stashed (keys : List Key) : (stateOf setting keys).cursor < setting.history.length →
    ∃ before after, keys = before ++ .up :: after ∧ LastLeft setting before after ∧
      (stateOf setting keys).saved = some (stateOf setting before).buffer
  /-- Up recalls the line before, and the first one again where there is none. -/
  up (keys : List Key) : setting.history ≠ [] →
    let later := stateOf setting (keys ++ [.up])
    later.cursor = (stateOf setting keys).cursor - 1 ∧ setting.history[later.cursor]? = some later.buffer
  /-- Down recalls the line after, and after the last one the line that was put away. -/
  down (keys : List Key) : (stateOf setting keys).cursor < setting.history.length →
    let later := stateOf setting (keys ++ [.down])
    later.cursor = (stateOf setting keys).cursor + 1 ∧
      if later.cursor < setting.history.length then setting.history[later.cursor]? = some later.buffer
      else (stateOf setting keys).saved = some later.buffer
  /-- Where there is no line before or after, nothing is done but what every key but Tab does: a Tab before it is
  forgotten. -/
  idle (keys : List Key) (key : Key) : key = .up ∧ setting.history = [] ∨
      key = .down ∧ (stateOf setting keys).cursor = setting.history.length →
    react setting (stateOf setting keys) key = goOn (stateOf setting keys).calm []
  /-- Having turned to earlier lines, whatever is made of them, one gets back to the line that was being entered by
  as many steps down, as far as there are earlier lines. -/
  back (before between : List Key) (n : Nat) : setting.history ≠ [] →
    (stateOf setting before).cursor = setting.history.length → .down ∉ between →
    min ((.up :: between).count .up) setting.history.length ≤ n →
    let later := stateOf setting (before ++ .up :: between ++ List.replicate n .down)
    later.cursor = setting.history.length ∧ later.buffer = (stateOf setting before).buffer
  /-- A call that enters its line after these keys gives the buffer they lead to. -/
  entered (keys : List Key) (terminal : Terminal) (screen : Screen) (events : List Event) :
    let call := readLine terminal setting screen events
    call.echoes.map (·.key) = (keys ++ [Key.enter]).map .ok → call.result ≠ .error { cause := .screenFull } →
    call.result = .ok (.line (stateOf setting keys).buffer)

/-- **Browsing the history never loses the line that is being entered**, and never leaves the history. -/
theorem browses (setting : Setting) : Browses setting where
  within := cursor_stateOf_le setting
  stashed _ := exists_lastLeft
  up keys hne := by
    obtain ⟨hto, hline, -⟩ := react_up (stateOf setting keys) hne
    rw [Nat.min_eq_left (cursor_stateOf_le setting keys)] at hto hline
    dsimp only
    rw [stateOf_snoc, hto]
    exact ⟨rfl, hline⟩
  down keys hlt := by
    dsimp only
    rw [stateOf_snoc]
    obtain hnext | hnext := Nat.lt_or_eq_of_le (Nat.succ_le_of_lt hlt)
    · obtain ⟨hto, hline, -⟩ := react_down_of_lt hnext
      rw [hto, if_pos hnext]
      exact ⟨rfl, hline⟩
    · obtain ⟨hto, hbuffer⟩ := react_down_of_eq hnext
      obtain ⟨before, after, -, -, hsaved⟩ := exists_lastLeft hlt
      rw [hto, if_neg (Nat.lt_irrefl _), hbuffer, hsaved, Option.getD_some]
      exact ⟨hnext.symm, rfl⟩
  idle keys key hkey := by
    obtain ⟨rfl, hnil⟩ | ⟨rfl, heq⟩ := hkey
    · exact react_up_of_nil hnil
    · exact react_down_of_le heq.ge
  back _ _ _ := stateOf_there_and_back
  entered keys terminal screen events := by
    intro call hkeys hfull
    obtain ⟨outcome, hout, hresult⟩ := readLine_result hkeys hfull
    rw [react_enter, Option.some.injEq] at hout
    rw [hresult, hout]

example : (stateOf { history := ["ls", "cd"] } [.char 'x', .up, .up, .backspace, .up, .down, .down]).buffer = "x" := by
  decide +kernel

end

end LineShell.Editor
