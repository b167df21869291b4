import LineShell.Editor
import LineShell.Proofs.Characters
import LineShell.Proofs.CommonPrefix
import Mathlib.Data.List.GetD

/-!
# What the screen shows

A line that is being edited stands on the screen as it is: after every key the row shows the prompt
and then the buffer, with the cursor right after it and nothing else on the row. So what is entered is
what was seen.

## The model

`Row` is a row of cells without an end and the place of the cursor; `Row.feed` shows characters on it
as a terminal does. A line feed starts a fresh row, and the rows above are not looked at.
`Row.showing text` is the row with `text` on it and nothing else, and the cursor at its end. Every
piece of text that the editor writes takes such a row to another one, and the row that shows the
prompt and the buffer before a key is taken to the one that shows them after it (`feed_react`). The
editor's own texts are made of control characters, so the prompt, the earlier lines and the
candidates must not hold any (`IsPrintable`).
-/

namespace LineShell.Editor

/-! ### Rows -/

/-- A row of the screen. -/
@[ext]
structure Row where
  /-- What each cell shows; a space where there is nothing. -/
  cells : Nat → Char
  /-- The cell that the next character goes to. -/
  cursor : Nat

namespace Row

/-- The row with a text at its start, and the cursor right after it. All other cells are blank. -/
def showing (text : List Char) : Row := { cells := fun i => text.getD i ' ', cursor := text.length }

/-- The row with nothing on it. -/
def blank : Row := { cells := fun _ => ' ', cursor := 0 }

/-- Show a character in the cell of the cursor, and go on to the next cell. -/
def put (row : Row) (c : Char) : Row :=
  { cells := fun i => if i = row.cursor then c else row.cells i, cursor := row.cursor + 1 }

/-- Wipe the row from the cursor on. -/
def wipe (row : Row) : Row := { row with cells := fun i => if i < row.cursor then row.cells i else ' ' }

/-- What one character does to the row. -/
def act (row : Row) (c : Char) : Row :=
  if c = '\x07' then row
  else if c = '\x08' then { row with cursor := row.cursor - 1 }
  else if c = '\x0d' then { row with cursor := 0 }
  else if c = '\n' then blank
  else row.put c

/-- What characters do to the row. -/
def feed : Row → List Char → Row
  | row, [] => row
  | row, '\x1b' :: '[' :: 'K' :: cs => feed row.wipe cs
  | row, c :: cs => feed (row.act c) cs

end Row

/-- A character that a terminal shows: none of the bell, the backspace, the carriage return, the line
feed and the escape. -/
def IsPrintable (c : Char) : Prop :=
  c ≠ '\x07' ∧ c ≠ '\x08' ∧ c ≠ '\x0d' ∧ c ≠ '\n' ∧ c ≠ '\x1b'

instance : DecidablePred IsPrintable := fun _ => inferInstanceAs (Decidable (_ ∧ _))

/-- Every character of the text is shown. -/
def IsPrintableText (s : String) : Prop := ∀ c ∈ s.toList, IsPrintable c

namespace Row

theorem showing_nil : showing [] = blank := rfl

theorem getD_append_singleton (text : List Char) (c : Char) (i : Nat) :
    (text ++ [c]).getD i ' ' = if i = text.length then c else text.getD i ' ' := by
  rcases Nat.lt_trichotomy i text.length with hlt | rfl | hgt
  · rw [if_neg (Nat.ne_of_lt hlt), List.getD_append _ _ _ _ hlt]
  · simp
  · rw [if_neg (Nat.ne_of_gt hgt), List.getD_eq_default _ _ (Nat.le_of_lt hgt),
      List.getD_eq_default _ _ (by simp; omega)]

/-- A character that is shown joins what stands before the cursor. -/
theorem showing_put (text : List Char) (c : Char) : (showing text).put c = showing (text ++ [c]) := by
  refine Row.ext (funext fun i => ?_) ?_
  · exact (getD_append_singleton text c i).symm
  · simp [put, showing]

/-- Overwriting the last character with a space wipes it. -/
theorem showing_rubOut (text : List Char) (c : Char) :
    ({ showing (text ++ [c]) with cursor := text.length } : Row).put ' ' =
      { showing text with cursor := text.length + 1 } := by
  refine Row.ext (funext fun i => ?_) rfl
  show (if i = text.length then ' ' else (text ++ [c]).getD i ' ') = text.getD i ' '
  rw [getD_append_singleton]
  by_cases hi : i = text.length
  · rw [if_pos hi, List.getD_eq_default _ _ (Nat.le_of_eq hi.symm)]
  · rw [if_neg hi, if_neg hi]

theorem wipe_of_cursor_eq_zero (cells : Nat → Char) : ({ cells, cursor := 0 } : Row).wipe = blank := by
  refine Row.ext (funext fun i => ?_) rfl
  simp [wipe, blank]

theorem feed_cons {c : Char} (hc : c ≠ '\x1b') (row : Row) (cs : List Char) :
    row.feed (c :: cs) = (row.act c).feed cs := by
  rw [feed.eq_def]
  split <;> simp_all

theorem act_of_isPrintable {c : Char} (hc : IsPrintable c) (row : Row) : row.act c = row.put c := by
  obtain ⟨h₁, h₂, h₃, h₄, -⟩ := hc
  simp [act, h₁, h₂, h₃, h₄]

/-! ### What the editor's pieces of text do -/

theorem feed_printable {s : List Char} (hs : ∀ c ∈ s, IsPrintable c) (text rest : List Char) :
    (showing text).feed (s ++ rest) = (showing (text ++ s)).feed rest := by
  induction s generalizing text with
  | nil => simp
  | cons c s ih =>
    have hc : IsPrintable c := hs c (List.mem_cons_self ..)
    rw [List.cons_append, feed_cons hc.2.2.2.2, act_of_isPrintable hc, showing_put,
      ih fun d hd => hs d (List.mem_cons_of_mem _ hd)]
    simp

theorem feed_bell (row : Row) (rest : List Char) : row.feed (bell.toList ++ rest) = row.feed rest :=
  feed_cons (by decide) row rest

theorem feed_newline (row : Row) (rest : List Char) :
    row.feed ("\n".toList ++ rest) = (showing []).feed rest :=
  feed_cons (by decide) row rest

theorem feed_clearRow (row : Row) (rest : List Char) :
    row.feed (clearRow.toList ++ rest) = (showing []).feed rest := by
  have hreturn : row.feed (clearRow.toList ++ rest) =
      ({ row with cursor := 0 } : Row).feed ("\x1b[K".toList ++ rest) :=
    feed_cons (by decide) row _
  have hwipe : ({ row with cursor := 0 } : Row).feed ("\x1b[K".toList ++ rest) =
      ({ row with cursor := 0 } : Row).wipe.feed rest := rfl
  rw [hreturn, hwipe, wipe_of_cursor_eq_zero, showing_nil]

theorem feed_erase (text : List Char) (c : Char) (rest : List Char) :
    (showing (text ++ [c])).feed (erase.toList ++ rest) = (showing text).feed rest := by
  have hback : (showing (text ++ [c])).act '\x08' =
      { showing (text ++ [c]) with cursor := text.length } := by
    refine Row.ext rfl ?_
    simp [act, showing]
  have hstep : (showing (text ++ [c])).feed (erase.toList ++ rest) =
      ((((showing (text ++ [c])).act '\x08').act ' ').act '\x08').feed rest := by
    show (showing (text ++ [c])).feed ('\x08' :: ' ' :: '\x08' :: rest) = _
    rw [feed_cons (by decide), feed_cons (by decide), feed_cons (by decide)]
  have hspace : IsPrintable ' ' := by unfold IsPrintable; decide
  rw [hstep, hback, act_of_isPrintable hspace, showing_rubOut]
  congr 1

end Row

/-! ### What a key does -/

/-- The characters that an action writes. -/
def Action.chars : Action → List Char
  | .write text => text.toList
  | .flush => []

/-- The characters that a reaction writes. -/
def Reaction.chars (r : Reaction) : List Char := r.actions.flatMap Action.chars

/-- The text that an action writes. -/
def Action.text? : Action → Option String
  | .write text => some text
  | .flush => none

/-- The pieces of text that a reaction writes, in order. -/
def Reaction.texts (r : Reaction) : List String := r.actions.filterMap Action.text?

@[simp] theorem goOn_state (state : State) (texts : List String) : (goOn state texts).state = state := rfl

theorem chars_goOn (state : State) (texts : List String) :
    (goOn state texts).chars = texts.flatMap String.toList := by
  simp [goOn, Reaction.chars, Action.chars, List.flatMap_map]

@[simp] theorem texts_goOn (state : State) (texts : List String) : (goOn state texts).texts = texts := by
  simp [goOn, Reaction.texts, List.filterMap_append, List.filterMap_map, Function.comp_def, Action.text?]

theorem toList_texts (r : Reaction) : r.texts.flatMap String.toList = r.chars := by
  rw [Reaction.texts, Reaction.chars]
  induction r.actions with
  | nil => rfl
  | cons action actions ih =>
    cases action with
    | write text => exact congrArg (text.toList ++ ·) ih
    | flush => exact ih

/-- All texts that a line can be made of are shown. -/
structure Setting.IsPrintable (setting : Setting) : Prop where
  prompt : IsPrintableText setting.prompt
  history : ∀ line ∈ setting.history, IsPrintableText line
  completer : ∀ buffer, ∀ candidate ∈ setting.completer buffer, IsPrintableText candidate

/-- The texts of the line that is being entered are shown. -/
structure State.IsPrintable (state : State) : Prop where
  buffer : IsPrintableText state.buffer
  saved : ∀ line, state.saved = some line → IsPrintableText line

/-- The row that shows the prompt and a line. -/
def Setting.row (setting : Setting) (line : String) : Row :=
  .showing (setting.prompt.toList ++ line.toList)

/-- The reaction keeps the screen in step with the buffer, which held `line` before. -/
structure Reaction.Shows (setting : Setting) (line : String) (r : Reaction) : Prop where
  state : r.state.IsPrintable
  feed : ∀ rest, (setting.row line).feed (r.chars ++ rest) = (setting.row r.state.buffer).feed rest

section

variable {setting : Setting} {state : State}

theorem isPrintableText_empty : IsPrintableText "" := by
  simp [IsPrintableText]

theorem feed_redraw (hset : setting.IsPrintable) {line : String} (hline : IsPrintableText line)
    (row : Row) (rest : List Char) :
    row.feed ((redraw setting line).flatMap String.toList ++ rest) = (setting.row line).feed rest := by
  simp only [redraw, List.flatMap_cons, List.flatMap_nil, List.append_nil, List.append_assoc]
  rw [Row.feed_clearRow, Row.feed_printable hset.prompt, Row.feed_printable hline]
  rfl

/-- Nothing is written, and the buffer stays. -/
theorem shows_goOn_nil (hstate : state.IsPrintable) : (goOn state []).Shows setting state.buffer :=
  ⟨hstate, fun rest => by rw [chars_goOn]; rfl⟩

theorem shows_goOn_bell (hstate : state.IsPrintable) {line : String} (hline : line = state.buffer) :
    (goOn state [bell]).Shows setting line := by
  refine ⟨hstate, fun rest => ?_⟩
  rw [chars_goOn, hline]
  simpa using Row.feed_bell (setting.row state.buffer) rest

theorem shows_goOn_redraw (hset : setting.IsPrintable) (hstate : state.IsPrintable) (line : String) :
    (goOn state (redraw setting state.buffer)).Shows setting line := by
  refine ⟨hstate, fun rest => ?_⟩
  rw [chars_goOn]
  exact feed_redraw hset hstate.buffer _ rest

theorem eq_append_of_rest? {start text rest : List Char} (h : rest? start text = some rest) :
    text = start ++ rest := by
  fun_induction rest? start text with
  | case1 => simpa using h
  | case2 => cases h
  | case3 c start text ih => rw [ih h, List.cons_append]
  | case4 => cases h

/-- Only the new part of the buffer is written if the rest of it is on the screen. -/
theorem shows_replaceWith (hset : setting.IsPrintable) (hstate : state.IsPrintable) {text : String}
    (htext : IsPrintableText text) :
    (replaceWith setting state text).Shows setting state.buffer := by
  have hnew : ({ state with buffer := text } : State).IsPrintable := ⟨htext, hstate.saved⟩
  unfold replaceWith
  split
  · rename_i rest hrest
    have happ : text.toList = state.buffer.toList ++ rest := eq_append_of_rest? hrest
    have hprint : ∀ c ∈ rest, IsPrintable c := fun c hc =>
      htext c (by rw [happ]; exact List.mem_append_right _ hc)
    refine ⟨hnew, fun tail => ?_⟩
    rw [chars_goOn]
    simp only [List.flatMap_cons, List.flatMap_nil, List.append_nil, String.toList_ofList]
    rw [Setting.row, Row.feed_printable hprint]
    simp [goOn, Setting.row, happ]
  · exact shows_goOn_redraw hset hnew state.buffer

/-! #### Completion -/

/-- There are several candidates for what was entered, and what they share is nothing new. -/
def Undecided (setting : Setting) (buffer : String) : Prop :=
  2 ≤ (setting.completer buffer).length ∧
    (Completion.commonPrefix (setting.completer buffer)).utf8ByteSize ≤ buffer.utf8ByteSize

theorem State.ambiguous_eq_some_iff {text : String} :
    state.ambiguous = some text ↔ (state.undecided && state.lastTab == some text) = true := by
  cases h : state.undecided <;> simp [State.ambiguous, h]

/-- The ways in which completion ends. -/
theorem complete_cases (setting : Setting) (state : State) :
    (setting.completer state.buffer = [] ∧
      complete setting state = goOn state.calm [bell]) ∨
    (∃ only, setting.completer state.buffer = [only] ∧
      complete setting state = replaceWith setting state.calm (only ++ " ")) ∨
    (2 ≤ (setting.completer state.buffer).length ∧
      state.buffer.utf8ByteSize < (Completion.commonPrefix (setting.completer state.buffer)).utf8ByteSize ∧
      complete setting state = replaceWith setting state.calm
        (Completion.commonPrefix (setting.completer state.buffer))) ∨
    (Undecided setting state.buffer ∧ state.ambiguous = some state.buffer ∧
      complete setting state = goOn state.calm
        (listing setting (setting.completer state.buffer) state.buffer)) ∨
    (Undecided setting state.buffer ∧ state.ambiguous ≠ some state.buffer ∧
      complete setting state = goOn state.unsure [bell]) := by
  match h : setting.completer state.buffer with
  | [] => exact .inl ⟨rfl, by simp only [complete, h]⟩
  | [only] => exact .inr (.inl ⟨only, rfl, by simp only [complete, h]⟩)
  | first :: second :: rest =>
    have hmany : 2 ≤ (first :: second :: rest).length := by simp
    simp only [complete, Undecided, h]
    split_ifs with hlong hagain
    · exact .inr (.inr (.inl ⟨hmany, hlong, rfl⟩))
    · exact .inr (.inr (.inr (.inl ⟨⟨hmany, Nat.le_of_not_lt hlong⟩, State.ambiguous_eq_some_iff.2 hagain, rfl⟩)))
    · exact .inr (.inr (.inr (.inr ⟨⟨hmany, Nat.le_of_not_lt hlong⟩, mt State.ambiguous_eq_some_iff.1 hagain, rfl⟩)))

/-- Completion does not end the line. -/
theorem outcome_complete (setting : Setting) (state : State) : (complete setting state).outcome = none := by
  obtain ⟨-, h⟩ | ⟨_, -, h⟩ | ⟨-, -, h⟩ | ⟨-, -, h⟩ | ⟨-, -, h⟩ := complete_cases setting state <;> rw [h] <;> rfl

theorem isPrintableText_commonPrefix {ws : List String} (h : ∀ w ∈ ws, IsPrintableText w) :
    IsPrintableText (Completion.commonPrefix ws) := by
  cases ws with
  | nil => exact isPrintableText_empty
  | cons w ws =>
    have hw : w ∈ w :: ws := List.mem_cons_self ..
    exact fun c hc => h w hw c ((Completion.commonPrefix_prefix hw).subset hc)

theorem isPrintableText_append {s t : String} (hs : IsPrintableText s) (ht : IsPrintableText t) :
    IsPrintableText (s ++ t) := by
  intro c hc
  rw [String.toList_append, List.mem_append] at hc
  exact hc.elim (hs c) (ht c)

theorem isPrintableText_iff_all {s : String} :
    IsPrintableText s ↔ s.toList.all (fun c => decide (IsPrintable c)) = true := by
  simp [IsPrintableText]

theorem isPrintableText_space : IsPrintableText " " := isPrintableText_iff_all.2 (by decide)

theorem isPrintableText_intercalate {ws : List String} (h : ∀ w ∈ ws, IsPrintableText w) :
    IsPrintableText ("  ".intercalate ws) := by
  induction ws with
  | nil => simpa using isPrintableText_empty
  | cons w ws ih =>
    have hw : IsPrintableText w := h w (List.mem_cons_self ..)
    have hws := ih fun v hv => h v (List.mem_cons_of_mem _ hv)
    by_cases hne : ws = []
    · subst hne
      simpa using hw
    · have hgap := isPrintableText_append isPrintableText_space isPrintableText_space
      rw [String.intercalate_cons_of_ne_nil hne]
      exact isPrintableText_append (isPrintableText_append hw hgap) hws

/-- The candidates are listed on a row of their own, and the line is shown again below them. -/
theorem shows_goOn_listing (hset : setting.IsPrintable) (hstate : state.IsPrintable)
    {candidates : List String} (hcs : ∀ w ∈ candidates, IsPrintableText w) (line : String) :
    (goOn state (listing setting candidates state.buffer)).Shows setting line := by
  refine ⟨hstate, fun rest => ?_⟩
  rw [chars_goOn]
  simp only [listing, List.flatMap_cons, List.flatMap_nil, List.append_nil, List.append_assoc]
  rw [Row.feed_newline, Row.feed_printable (isPrintableText_intercalate hcs), Row.feed_newline,
    Row.feed_printable hset.prompt, Row.feed_printable hstate.buffer]
  rfl

theorem shows_complete (hset : setting.IsPrintable) (hstate : state.IsPrintable) :
    (complete setting state).Shows setting state.buffer := by
  have hcalm : state.calm.IsPrintable := ⟨hstate.buffer, hstate.saved⟩
  have hcs := hset.completer state.buffer
  obtain ⟨-, h⟩ | ⟨only, honly, h⟩ | ⟨-, -, h⟩ | ⟨-, -, h⟩ | ⟨-, -, h⟩ := complete_cases setting state
  · rw [h]
    exact shows_goOn_bell hcalm rfl
  · rw [h]
    rw [honly] at hcs
    have hnew := isPrintableText_append (hcs only (List.mem_cons_self ..)) isPrintableText_space
    exact shows_replaceWith hset hcalm hnew
  · rw [h]
    exact shows_replaceWith hset hcalm (isPrintableText_commonPrefix hcs)
  · rw [h]
    exact shows_goOn_listing hset hcalm hcs state.buffer
  · rw [h]
    have hunsure : state.unsure.IsPrintable :=
      ⟨hstate.buffer, hstate.saved⟩
    exact shows_goOn_bell hunsure rfl

/-! #### History -/

theorem isPrintableText_getD (hset : setting.IsPrintable) (i : Nat) :
    IsPrintableText (setting.history.getD i "") := by
  rw [List.getD_eq_getElem?_getD]
  cases h : setting.history[i]? with
  | none => exact isPrintableText_empty
  | some line => exact hset.history line (List.mem_of_getElem? h)

theorem shows_earlier (hset : setting.IsPrintable) (hstate : state.IsPrintable) :
    (earlier setting state).Shows setting state.buffer := by
  unfold earlier
  dsimp only
  split
  · exact shows_goOn_nil hstate
  · refine shows_goOn_redraw hset ⟨isPrintableText_getD hset _, fun line hline => ?_⟩ state.buffer
    dsimp only at hline
    split at hline
    · cases hline
      exact hstate.buffer
    · exact hstate.saved line hline

theorem shows_later (hset : setting.IsPrintable) (hstate : state.IsPrintable) :
    (later setting state).Shows setting state.buffer := by
  unfold later
  dsimp only
  split
  · exact shows_goOn_nil hstate
  · split
    · rename_i line hline
      have hprint := hset.history line (List.mem_of_getElem? hline)
      have hnew : ({ state with buffer := line, cursor := state.cursor + 1 } : State).IsPrintable :=
        ⟨hprint, hstate.saved⟩
      exact shows_goOn_redraw hset hnew state.buffer
    · have hprint : IsPrintableText (state.saved.getD "") := by
        cases h : state.saved with
        | none => exact isPrintableText_empty
        | some line => exact hstate.saved line h
      exact shows_goOn_redraw hset ⟨hprint, by simp⟩ state.buffer

/-! #### Typing -/

theorem isPrintable_of_le {c : Char} (h : 0x20 ≤ c.toNat) : IsPrintable c := by
  refine ⟨?_, ?_, ?_, ?_, ?_⟩ <;> rintro rfl <;> revert h <;> decide

theorem shows_char (hstate : state.IsPrintable) {c : Char} (hc : 0x20 ≤ c.toNat) :
    (goOn { state with buffer := state.buffer.push c } [String.singleton c]).Shows setting
      state.buffer := by
  have hprint : IsPrintable c := isPrintable_of_le hc
  refine ⟨⟨?_, hstate.saved⟩, fun rest => ?_⟩
  · intro d hd
    rw [goOn_state, String.toList_push, List.mem_append, List.mem_singleton] at hd
    rcases hd with hd | rfl
    · exact hstate.buffer d hd
    · exact hprint
  · have hone : ∀ d ∈ [c], IsPrintable d := by simpa using hprint
    rw [chars_goOn, Setting.row, List.flatMap_singleton, String.toList_singleton,
      Row.feed_printable hone]
    simp [Setting.row]

theorem shows_erase (hstate : state.IsPrintable) (hne : state.buffer.isEmpty = false) :
    (goOn { state with buffer := dropLast state.buffer } [erase]).Shows setting state.buffer := by
  have hlist : state.buffer.toList ≠ [] := by
    intro h
    rw [String.toList_eq_nil_iff] at h
    simp [h] at hne
  obtain ⟨cs, c, hcs⟩ : ∃ cs c, state.buffer.toList = cs ++ [c] :=
    ⟨_, _, (List.dropLast_append_getLast hlist).symm⟩
  have hdrop : (dropLast state.buffer).toList = cs := by simp [dropLast, hcs]
  refine ⟨⟨?_, hstate.saved⟩, fun rest => ?_⟩
  · intro d hd
    rw [goOn_state, hdrop] at hd
    exact hstate.buffer d (by rw [hcs]; exact List.mem_append_left _ hd)
  · rw [chars_goOn, Setting.row, Setting.row, List.flatMap_singleton, hcs, ← List.append_assoc,
      Row.feed_erase, goOn_state, hdrop]

/-- **A key that does not end the line keeps the screen in step with the buffer.** -/
theorem shows_react (hset : setting.IsPrintable) (hstate : state.IsPrintable) {key : Key}
    (hkey : Key.IsText (.ok key)) (hout : (react setting state key).outcome = none) :
    (react setting state key).Shows setting state.buffer := by
  have hcalm : state.calm.IsPrintable := ⟨hstate.buffer, hstate.saved⟩
  unfold react at hout ⊢
  split_ifs at hout ⊢ with htab
  · exact shows_complete hset hstate
  · cases key with
    | enter => simp [reactPlain, stop] at hout
    | interrupt => simp [reactPlain, stop] at hout
    | endOfInput =>
      simp only [reactPlain] at hout
      split_ifs at hout
      simp [stop] at hout
    | endOfText =>
      simp only [reactPlain] at hout ⊢
      split_ifs at hout ⊢
      · simp [stop] at hout
      · exact shows_goOn_nil hcalm
    | char c => exact shows_char hcalm hkey
    | backspace =>
      simp only [reactPlain]
      split_ifs with hempty
      · exact shows_goOn_nil hcalm
      · exact shows_erase hcalm (by simpa using hempty)
    | up => exact shows_earlier hset hcalm
    | down => exact shows_later hset hcalm
    | tab => exact absurd rfl htab
    | other => exact shows_goOn_nil hcalm

end

/-! ### What a call does -/

theorem text_perform {screen : Screen} {actions : List Action}
    (h : (perform screen actions).refused = false) :
    (perform screen actions).text.toList = actions.flatMap Action.chars := by
  induction actions generalizing screen with
  | nil => rfl
  | cons action actions ih =>
    cases action with
    | flush => simpa [perform, Action.chars] using ih h
    | write text =>
      simp only [perform] at h ⊢
      split at h
      · cases h
      · rename_i next hnext
        simp [Action.chars, ih h]

section

variable {setting : Setting} {screen : Screen} {state : State} {events rest : List Event} {key : Key}

theorem run_of_error {message : String} (hread : Key.read events = (.error message, rest)) :
    run setting screen state events =
      { echoes := [⟨.error message, ""⟩], result := .error ((Cause.other message).during .readingKey)
        flushes := 0, screen, rest } := by
  rw [run]
  split <;> simp_all

theorem run_of_refused (hread : Key.read events = (.ok key, rest))
    (hrefused : (perform screen (react setting state key).actions).refused = true) :
    run setting screen state events =
      { echoes := [⟨.ok key, (perform screen (react setting state key).actions).text⟩]
        result := .error { cause := .screenFull }
        flushes := (perform screen (react setting state key).actions).flushes
        screen := (perform screen (react setting state key).actions).screen, rest } := by
  rw [run]
  split
  · simp_all
  · rename_i key' rest' hread'
    obtain ⟨rfl, rfl⟩ : key = key' ∧ rest = rest' := by simpa using hread.symm.trans hread'
    simp [hrefused]

theorem run_of_outcome {outcome : Outcome} (hread : Key.read events = (.ok key, rest))
    (hrefused : (perform screen (react setting state key).actions).refused = false)
    (hout : (react setting state key).outcome = some outcome) :
    run setting screen state events =
      { echoes := [⟨.ok key, (perform screen (react setting state key).actions).text⟩], result := .ok outcome
        flushes := (perform screen (react setting state key).actions).flushes
        screen := (perform screen (react setting state key).actions).screen, rest } := by
  rw [run]
  split
  · simp_all
  · rename_i key' rest' hread'
    obtain ⟨rfl, rfl⟩ : key = key' ∧ rest = rest' := by simpa using hread.symm.trans hread'
    simp only [hrefused]
    split
    · simp_all
    · split <;> simp_all

theorem run_of_none (hread : Key.read events = (.ok key, rest))
    (hrefused : (perform screen (react setting state key).actions).refused = false)
    (hout : (react setting state key).outcome = none) :
    run setting screen state events =
      (run setting (perform screen (react setting state key).actions).screen
        (react setting state key).state rest).after
        ⟨.ok key, (perform screen (react setting state key).actions).text⟩
        (perform screen (react setting state key).actions).flushes := by
  rw [run]
  split
  · simp_all
  · rename_i key' rest' hread'
    obtain ⟨rfl, rfl⟩ : key = key' ∧ rest = rest' := by simpa using hread.symm.trans hread'
    simp only [hrefused]
    split
    · simp_all
    · split <;> simp_all

/-- One more key, or the end: the ways in which a line goes on. -/
theorem run_cases (setting : Setting) (screen : Screen) (state : State) (events : List Event) :
    (∃ message, (run setting screen state events).echoes = [⟨.error message, ""⟩]) ∨
    (∃ key shown, (run setting screen state events).echoes = [⟨.ok key, shown⟩] ∧
      ((run setting screen state events).result = .error { cause := .screenFull } ∨
        ∃ outcome, (react setting state key).outcome = some outcome ∧
          (run setting screen state events).result = .ok outcome)) ∨
    (∃ key screen' rest, Key.IsText (.ok key) ∧ (react setting state key).outcome = none ∧
      (run setting screen state events).echoes =
        ⟨.ok key, String.ofList (react setting state key).chars⟩ ::
          (run setting screen' (react setting state key).state rest).echoes ∧
      (run setting screen state events).result =
        (run setting screen' (react setting state key).state rest).result) := by
  have htext := Key.read_isText events
  match hread : Key.read events with
  | (.error message, rest) => exact .inl ⟨message, by rw [run_of_error hread]⟩
  | (.ok key, rest) =>
    rw [hread] at htext
    by_cases hrefused : (perform screen (react setting state key).actions).refused = true
    · rw [run_of_refused hread hrefused]
      exact .inr (.inl ⟨key, _, rfl, .inl rfl⟩)
    · rw [Bool.not_eq_true] at hrefused
      cases hout : (react setting state key).outcome with
      | some outcome =>
        rw [run_of_outcome hread hrefused hout]
        exact .inr (.inl ⟨key, _, rfl, .inr ⟨outcome, hout, rfl⟩⟩)
      | none =>
        refine .inr (.inr ⟨key, (perform screen (react setting state key).actions).screen, rest, htext,
          hout, ?_, ?_⟩)
        · rw [run_of_none hread hrefused hout, Reaction.chars, ← text_perform hrefused,
            String.ofList_toList]
          rfl
        · rw [run_of_none hread hrefused hout]
          rfl

/-- The state after keys that do not end the line. -/
def stateAfter (setting : Setting) (state : State) (keys : List Key) : State :=
  keys.foldl (fun state key => (react setting state key).state) state

theorem run_shows (hset : setting.IsPrintable) (hstate : state.IsPrintable) {n : Nat}
    (hn : n < (run setting screen state events).echoes.length) :
    ∃ keys : List Key,
      ((run setting screen state events).echoes.take n).map (·.key) = keys.map .ok ∧
      (setting.row state.buffer).feed
          (((run setting screen state events).echoes.take n).flatMap (·.shown.toList)) =
        setting.row (stateAfter setting state keys).buffer := by
  induction n generalizing screen state events with
  | zero => exact ⟨[], rfl, rfl⟩
  | succ n ih =>
    obtain ⟨_, hechoes⟩ | ⟨_, _, hechoes, -⟩ | ⟨key, screen', rest, htext, hout, hechoes, -⟩ :=
      run_cases setting screen state events
    · rw [hechoes] at hn
      simp at hn
    · rw [hechoes] at hn
      simp at hn
    · have hshows := shows_react hset hstate htext hout
      rw [hechoes, List.length_cons, Nat.add_lt_add_iff_right] at hn
      obtain ⟨keys, hkeys, hfeed⟩ := ih hshows.state hn
      refine ⟨key :: keys, ?_, ?_⟩
      · rw [hechoes, List.take_succ_cons, List.map_cons, hkeys]
        rfl
      · rw [hechoes, List.take_succ_cons, List.flatMap_cons, String.toList_ofList, hshows.feed, hfeed]
        rfl

theorem run_echoes_ne_nil : (run setting screen state events).echoes ≠ [] := by
  obtain ⟨_, hechoes⟩ | ⟨_, _, hechoes, -⟩ | ⟨_, _, _, -, -, hechoes, -⟩ :=
    run_cases setting screen state events <;> simp [hechoes]

/-- The line ends as the last key says in the state before it. -/
theorem run_result {keys : List Key}
    (hkeys : (run setting screen state events).echoes.map (·.key) = (keys ++ [key]).map .ok)
    (hfull : (run setting screen state events).result ≠ .error { cause := .screenFull }) :
    ∃ outcome, (react setting (stateAfter setting state keys) key).outcome = some outcome ∧
      (run setting screen state events).result = .ok outcome := by
  induction keys generalizing screen state events with
  | nil =>
    obtain ⟨_, hechoes⟩ | ⟨key', _, hechoes, hresult⟩ | ⟨key', screen', rest, -, -, hechoes, -⟩ :=
      run_cases setting screen state events
    · simp [hechoes] at hkeys
    · obtain rfl : key' = key := by simpa [hechoes] using hkeys
      exact hresult.resolve_left hfull
    · simp [hechoes, run_echoes_ne_nil] at hkeys
  | cons key' keys ih =>
    obtain ⟨_, hechoes⟩ | ⟨_, _, hechoes, -⟩ | ⟨key'', screen', rest, -, -, hechoes, hresult⟩ :=
      run_cases setting screen state events
    · simp [hechoes] at hkeys
    · simp [hechoes] at hkeys
    · rw [hechoes, List.map_cons, List.cons_append, List.map_cons, List.cons.injEq] at hkeys
      obtain rfl : key'' = key' := by simpa using hkeys.1
      rw [hresult] at hfull ⊢
      exact ih hkeys.2 hfull

end

/-- What was shown before key number `n` was read. -/
def Call.shownBefore (call : Call) (n : Nat) : List Char :=
  call.promptShown.toList ++ (call.echoes.take n).flatMap (·.shown.toList)

/-- What the user sees while a line is read: the prompt and the buffer, before every key; and the line
that is entered is the one that was seen last. -/
structure Call.Faithful (setting : Setting) (call : Call) : Prop where
  /-- Unless it could not be written, the prompt is shown, and then keys are read. -/
  reads : call.modeCalls = [.enable, .disable] → call.result ≠ .error { cause := .screenFull } →
    0 < call.echoes.length
  /-- Before each key the row shows the prompt and the buffer, and nothing else. -/
  shows : ∀ n < call.echoes.length, ∃ keys : List Key,
    (call.echoes.take n).map (·.key) = keys.map .ok ∧
    Row.blank.feed (call.shownBefore n) =
      setting.row (stateAfter setting { cursor := setting.history.length } keys).buffer
  /-- The line that is entered is the buffer. -/
  line : ∀ (keys : List Key) (key : Key), call.echoes.map (·.key) = (keys ++ [key]).map .ok →
    call.result ≠ .error { cause := .screenFull } →
    let buffer := (stateAfter setting { cursor := setting.history.length } keys).buffer
    (key = .enter → call.result = .ok (.line buffer)) ∧
    (key = .endOfInput → call.result = .ok (if buffer = "" then .ended else .line buffer))

theorem react_enter (setting : Setting) (state : State) :
    (react setting state .enter).outcome = some (.line state.buffer) := rfl

theorem react_endOfInput (setting : Setting) (state : State) :
    (react setting state .endOfInput).outcome =
      some (if state.buffer = "" then .ended else .line state.buffer) := by
  by_cases h : state.buffer = "" <;> simp [react, reactPlain, stop, h]

/-- **What you see is what you get**: while a line is read, the row shows the prompt and the buffer and
nothing else, and the line that is entered is the buffer that it shows. -/
theorem readLine_faithful {setting : Setting} (hset : setting.IsPrintable) (terminal : Terminal)
    (screen : Screen) (events : List Event) :
    (readLine terminal setting screen events).Faithful setting := by
  unfold readLine
  split
  · constructor <;> simp
  · dsimp only
    split_ifs with hrefused
    · constructor <;> simp
    · rw [Bool.not_eq_true] at hrefused
      have hstart : ({ cursor := setting.history.length } : State).IsPrintable :=
        ⟨isPrintableText_empty, by simp⟩
      have hprompt : (perform screen [.write setting.prompt, .flush]).text.toList =
          setting.prompt.toList := by
        simpa [Action.chars] using text_perform hrefused
      constructor
      · intro _ _
        exact List.length_pos_iff.2 run_echoes_ne_nil
      · intro n hn
        obtain ⟨keys, hkeys, hfeed⟩ := run_shows hset hstart hn
        refine ⟨keys, hkeys, ?_⟩
        rw [Call.shownBefore, hprompt, ← Row.showing_nil, Row.feed_printable hset.prompt]
        simpa [Setting.row] using hfeed
      · intro keys key hkeys hfull
        obtain ⟨outcome, hout, hresult⟩ := run_result hkeys hfull
        refine ⟨?_, ?_⟩
        · rintro rfl
          rw [react_enter, Option.some.injEq] at hout
          rw [hresult, hout]
        · rintro rfl
          rw [react_endOfInput, Option.some.injEq] at hout
          rw [hresult, hout]

/-- A line with an earlier one to recall and candidates that do not go on from what was entered. -/
theorem readLine_faithful_recalled :
    ∃ setting : Setting, setting.history = ["ls"] ∧ setting.completer "e" = ["ls", "lsof"] ∧
      setting.IsPrintable ∧
      (readLine {} setting {} (Event.ofBytes [0x65, 0x09, 0x1B, 0x5B, 0x41, 0x7F, 0x0D])).Faithful
        setting := by
  have hset : ({ history := ["ls"], completer := fun _ => ["ls", "lsof"] } : Setting).IsPrintable := by
    have hls : IsPrintableText "ls" := isPrintableText_iff_all.2 (by decide)
    have hlsof : IsPrintableText "lsof" := isPrintableText_iff_all.2 (by decide)
    refine ⟨isPrintableText_iff_all.2 (by decide), ?_, fun _ => ?_⟩
    · simpa using hls
    · simpa using ⟨hls, hlsof⟩
  exact ⟨_, rfl, rfl, hset, readLine_faithful hset _ _ _⟩

end LineShell.Editor
