import LineShell.Proofs.Browsing
import LineShell.Proofs.CommonPrefix
import LineShell.Proofs.PrefixTree
import Mathlib.Data.Set.Subsingleton

/-!
# Completion by Tab

What a Tab does to the line that is being entered. Where the candidates come from a list of words, a Tab only
adds to the line, and what it adds rules out none of the words that could still be meant (`narrows`). Whatever
the candidates come from, they are listed by the second of two Tabs that can add nothing, and not by the first
(`lists_on_second`).

## The model

A Tab ends in one of five ways (`complete_cases`): no candidate, one, several that share more than was entered,
and two more where several do not (`Undecided`), since the first such Tab rings the bell and the next one lists
them. What is remembered from the one to the other is that the last key was such a Tab that rang
(`Rings`), and the buffer that it found.
-/

namespace LineShell.Editor

section

variable {setting : Setting} {state : State} {key : Key} {keys : List Key} {text : String}

/-! ### What a Tab writes -/

theorem rest?_append (start rest : List Char) : rest? start (start ++ rest) = some rest := by
  induction start with
  | nil => rfl
  | cons c start ih => simpa [rest?] using ih

/-- A text that goes on from the buffer takes its place, and only what is new is written. -/
theorem replaceWith_of_prefix (setting : Setting) (state : State) (h : state.buffer.toList <+: text.toList) :
    ∃ suffix, text = state.buffer ++ suffix ∧
      replaceWith setting state text = goOn { state with buffer := text } [suffix] := by
  obtain ⟨rest, hrest⟩ := h
  refine ⟨String.ofList rest, ?_, ?_⟩
  · apply String.toList_inj.1
    rw [String.toList_append, String.toList_ofList, hrest]
  · rw [replaceWith, ← hrest, rest?_append]

/-! ### Candidates from a list of words -/

/-- The words that are not empty and begin with a text. -/
def wordsFrom (ws : List String) (start : String) : Set String :=
  {w | w ∈ ws ∧ w ≠ "" ∧ start.toList <+: w.toList}

/-- The text is the longest one that all of the words begin with: it begins with whatever they all begin with. -/
def IsCommonBeginning (words : Set String) (text : String) : Prop :=
  ∀ start : List Char, start <+: text.toList ↔ ∀ w ∈ words, start <+: w.toList

theorem IsCommonBeginning.prefix {words : Set String} (h : IsCommonBeginning words text) {w : String}
    (hw : w ∈ words) : text.toList <+: w.toList :=
  (h text.toList).1 List.prefix_rfl w hw

theorem IsCommonBeginning.unique {words : Set String} {other : String} (h : IsCommonBeginning words text)
    (hother : IsCommonBeginning words other) : text = other := by
  have hto : text.toList <+: other.toList := (hother text.toList).2 fun _ => h.prefix
  have hfrom : other.toList <+: text.toList := (h other.toList).2 fun _ => hother.prefix
  exact String.toList_inj.1 (hto.eq_of_length (hto.length_le.antisymm hfrom.length_le))

variable {ws : List String} {start : String}

theorem mem_ofWords {w : String} : w ∈ Completion.ofWords ws start ↔ w ∈ wordsFrom ws start :=
  (Trie.holds_ofList ws).mem_completions

theorem wordsFrom_of_nil (h : Completion.ofWords ws start = []) : wordsFrom ws start = ∅ := by
  refine Set.eq_empty_of_forall_notMem fun w hw => ?_
  rw [← mem_ofWords, h] at hw
  exact List.not_mem_nil hw

theorem wordsFrom_of_singleton {w : String} (h : Completion.ofWords ws start = [w]) : wordsFrom ws start = {w} := by
  ext v
  rw [← mem_ofWords, h, List.mem_singleton, Set.mem_singleton_iff]

/-- No word is named twice, so several candidates are several words. -/
theorem wordsFrom_nontrivial (h : 2 ≤ (Completion.ofWords ws start).length) : (wordsFrom ws start).Nontrivial := by
  have hnodup : (Completion.ofWords ws start).Nodup := Trie.nodup_completions _ start
  match hwords : Completion.ofWords ws start with
  | [] | [_] => simp [hwords] at h
  | v :: w :: rest =>
    rw [hwords] at hnodup
    refine ⟨v, mem_ofWords.1 (by simp [hwords]), w, mem_ofWords.1 (by simp [hwords]), ?_⟩
    exact fun heq => (List.nodup_cons.1 hnodup).1 (heq ▸ List.mem_cons_self ..)

theorem isCommonBeginning_commonPrefix (h : (wordsFrom ws start).Nontrivial) :
    IsCommonBeginning (wordsFrom ws start) (Completion.commonPrefix (Completion.ofWords ws start)) := by
  intro p
  obtain ⟨w, hw⟩ := h.nonempty
  rw [Completion.prefix_commonPrefix_iff (List.ne_nil_of_mem (mem_ofWords.2 hw))]
  simp only [mem_ofWords]

/-- What the words have in common goes on from where they begin. -/
theorem IsCommonBeginning.goesOn (h : IsCommonBeginning (wordsFrom ws start) text) :
    start.toList <+: text.toList :=
  (h start.toList).2 fun _ hw => hw.2.2

/-- Going on to what they have in common rules out none of the words. -/
theorem IsCommonBeginning.wordsFrom_eq (h : IsCommonBeginning (wordsFrom ws start) text) :
    wordsFrom ws text = wordsFrom ws start := by
  ext w
  constructor
  · rintro ⟨hmem, hne, hprefix⟩
    exact ⟨hmem, hne, h.goesOn.trans hprefix⟩
  · intro hw
    exact ⟨hw.1, hw.2.1, h.prefix hw⟩

/-- The answer to a Tab where the candidates are words of a list. -/
def tabAmong (ws : List String) (setting : Setting) (state : State) : Reaction :=
  react { setting with completer := Completion.ofWords ws } state .tab

/-- A Tab that finds no word, one word, or several. -/
theorem tabAmong_cases (ws : List String) (setting : Setting) (state : State) :
    (wordsFrom ws state.buffer = ∅ ∧ (tabAmong ws setting state).state.buffer = state.buffer ∧
      (tabAmong ws setting state).texts = [bell]) ∨
    (∃ w suffix, wordsFrom ws state.buffer = {w} ∧ (tabAmong ws setting state).state.buffer = w ++ " " ∧
      w ++ " " = state.buffer ++ suffix ∧ (tabAmong ws setting state).texts = [suffix]) ∨
    ((wordsFrom ws state.buffer).Nontrivial ∧
      IsCommonBeginning (wordsFrom ws state.buffer) (tabAmong ws setting state).state.buffer ∧
      ((tabAmong ws setting state).state.buffer = state.buffer ∨
        ∃ suffix, (tabAmong ws setting state).state.buffer = state.buffer ++ suffix ∧
          (tabAmong ws setting state).texts = [suffix])) := by
  have hreact : tabAmong ws setting state =
      complete { setting with completer := Completion.ofWords ws } state := rfl
  obtain ⟨hnil, h⟩ | ⟨only, honly, h⟩ | ⟨hmany, hlonger, h⟩ | ⟨hundecided, -, h⟩ | ⟨hundecided, -, h⟩ :=
    complete_cases { setting with completer := Completion.ofWords ws } state
  · refine .inl ⟨wordsFrom_of_nil hnil, ?_⟩
    rw [hreact, h]
    exact ⟨rfl, texts_goOn ..⟩
  · have hwords := wordsFrom_of_singleton honly
    have hprefix : state.buffer.toList <+: (only ++ " ").toList := by
      have hmem : only ∈ wordsFrom ws state.buffer := hwords ▸ rfl
      rw [String.toList_append]
      exact hmem.2.2.trans (List.prefix_append ..)
    obtain ⟨suffix, htext, hnew⟩ := replaceWith_of_prefix { setting with completer := Completion.ofWords ws }
      state.calm hprefix
    refine .inr (.inl ⟨only, suffix, hwords, ?_⟩)
    rw [hreact, h, hnew]
    exact ⟨rfl, htext, texts_goOn ..⟩
  · have hwords := wordsFrom_nontrivial hmany
    have hcommon := isCommonBeginning_commonPrefix hwords
    obtain ⟨suffix, htext, hnew⟩ := replaceWith_of_prefix { setting with completer := Completion.ofWords ws }
      state.calm hcommon.goesOn
    refine .inr (.inr ⟨hwords, ?_⟩)
    rw [hreact, h, hnew]
    exact ⟨hcommon, .inr ⟨suffix, htext, texts_goOn ..⟩⟩
  all_goals
    have hwords := wordsFrom_nontrivial hundecided.1
    have hcommon := isCommonBeginning_commonPrefix hwords
    refine .inr (.inr ⟨hwords, ?_⟩)
    rw [hreact, h]
    rw [Completion.eq_of_prefix_of_utf8ByteSize_le hcommon.goesOn hundecided.2] at hcommon
    exact ⟨hcommon, .inl rfl⟩

/-- What a Tab does to the buffer, where the candidates are words of a list. -/
structure Narrows (ws : List String) (setting : Setting) (state : State) : Prop where
  /-- Where no word goes on from the buffer, the buffer stays and the bell rings. -/
  nothing : wordsFrom ws state.buffer = ∅ → (tabAmong ws setting state).state.buffer = state.buffer ∧
    (tabAmong ws setting state).texts = [bell]
  /-- The only word that does is taken, with a space after it. -/
  single (w : String) : wordsFrom ws state.buffer = {w} → (tabAmong ws setting state).state.buffer = w ++ " "
  /-- Of several words the longest text is taken that they all begin with. -/
  several : (wordsFrom ws state.buffer).Nontrivial →
    IsCommonBeginning (wordsFrom ws state.buffer) (tabAmong ws setting state).state.buffer
  /-- That rules out none of them, and is the longest text that does not. -/
  kept : (wordsFrom ws state.buffer).Nontrivial →
    wordsFrom ws (tabAmong ws setting state).state.buffer = wordsFrom ws state.buffer ∧
      ∀ text, wordsFrom ws text = wordsFrom ws state.buffer →
        text.toList <+: (tabAmong ws setting state).state.buffer.toList
  /-- Another Tab does not change the buffer again. -/
  stays : (wordsFrom ws state.buffer).Nontrivial →
    (tabAmong ws setting (tabAmong ws setting state).state).state.buffer =
      (tabAmong ws setting state).state.buffer
  /-- The buffer stays at the beginning of what it becomes. -/
  goesOn : state.buffer.toList <+: (tabAmong ws setting state).state.buffer.toList
  /-- If it changes, what is written is what was added to it. -/
  written : (tabAmong ws setting state).state.buffer ≠ state.buffer →
    ∃ suffix, (tabAmong ws setting state).state.buffer = state.buffer ++ suffix ∧
      (tabAmong ws setting state).texts = [suffix]

theorem several_of_tabAmong (setting : Setting) (h : (wordsFrom ws state.buffer).Nontrivial) :
    IsCommonBeginning (wordsFrom ws state.buffer) (tabAmong ws setting state).state.buffer := by
  obtain ⟨hempty, -⟩ | ⟨w, -, hsingle, -⟩ | ⟨-, hcommon, -⟩ := tabAmong_cases ws setting state
  · exact absurd h (hempty ▸ Set.not_nontrivial_empty)
  · exact absurd h (hsingle ▸ Set.not_nontrivial_singleton)
  · exact hcommon

/-- **A Tab only narrows what may be meant, and never discards any of it.** Where the candidates are words of a
list, it takes the only word that goes on from the buffer, or else what all those words begin with, and in any
case only adds to the buffer. -/
theorem narrows (ws : List String) (setting : Setting) (state : State) : Narrows ws setting state where
  nothing hempty := by
    obtain ⟨-, h⟩ | ⟨w, -, hsingle, -⟩ | ⟨hmany, -⟩ := tabAmong_cases ws setting state
    · exact h
    · exact absurd (hsingle.symm.trans hempty) (Set.singleton_ne_empty w)
    · exact absurd hempty hmany.nonempty.ne_empty
  single w hsingle := by
    obtain ⟨hempty, -⟩ | ⟨v, -, hv, h, -⟩ | ⟨hmany, -⟩ := tabAmong_cases ws setting state
    · exact absurd (hsingle.symm.trans hempty) (Set.singleton_ne_empty w)
    · rw [h, Set.singleton_eq_singleton_iff.1 (hv.symm.trans hsingle)]
    · exact absurd hmany (hsingle ▸ Set.not_nontrivial_singleton)
  several := several_of_tabAmong setting
  kept hmany := by
    have hcommon := several_of_tabAmong setting hmany
    refine ⟨hcommon.wordsFrom_eq, fun text htext => (hcommon text.toList).2 fun w hw => ?_⟩
    rw [← htext] at hw
    exact hw.2.2
  stays hmany := by
    have hcommon := several_of_tabAmong setting hmany
    have hsame := hcommon.wordsFrom_eq
    have hagain := several_of_tabAmong setting (hsame ▸ hmany)
    rw [hsame] at hagain
    exact hagain.unique hcommon
  goesOn := by
    obtain ⟨-, h, -⟩ | ⟨w, suffix, -, h, htext, -⟩ | ⟨-, h, -⟩ := tabAmong_cases ws setting state
    · rw [h]
    · rw [h, htext, String.toList_append]
      exact List.prefix_append ..
    · exact h.goesOn
  written hne := by
    obtain ⟨-, h, -⟩ | ⟨w, suffix, -, h, htext, hwritten⟩ | ⟨-, -, h | h⟩ := tabAmong_cases ws setting state
    · exact absurd h hne
    · exact ⟨suffix, h.trans htext, hwritten⟩
    · exact absurd h hne
    · exact h

example : (tabAmong ["éa", "éb", ""] {} { buffer := "", cursor := 0 }).state.buffer = "é" := by decide +kernel

/-! ### Two Tabs in a row -/

/-- The Tab after these keys rings the bell, since it cannot decide. -/
def Rings (setting : Setting) (keys : List Key) : Prop :=
  Undecided setting (stateOf setting keys).buffer ∧ (react setting (stateOf setting keys) .tab).texts = [bell]

/-- The Tab after these keys lists the candidates, and shows the line again below them. -/
def Lists (setting : Setting) (keys : List Key) : Prop :=
  (react setting (stateOf setting keys) .tab).texts =
    listing setting (setting.completer (stateOf setting keys).buffer) (stateOf setting keys).buffer

/-- The last key was a Tab that rang the bell, since it could not decide. -/
def RangLast (setting : Setting) (keys : List Key) : Prop :=
  ∃ before, keys = before ++ [.tab] ∧ Rings setting before

theorem rangLast_snoc_tab : RangLast setting (keys ++ [.tab]) ↔ Rings setting keys := by
  constructor
  · rintro ⟨before, hkeys, hrings⟩
    rwa [List.append_cancel_right hkeys]
  · exact fun hrings => ⟨keys, rfl, hrings⟩

theorem not_rangLast_snoc (hkey : key ≠ .tab) : ¬ RangLast setting (keys ++ [key]) := by
  rintro ⟨before, hkeys, -⟩
  exact hkey (List.singleton_inj.1 (List.append_inj_right' hkeys rfl))

theorem listing_ne_singleton {candidates : List String} {line piece : String} :
    listing setting candidates line ≠ [piece] := by
  simp [listing]

/-- What replaces the buffer is written in one piece, or else the row is shown afresh. -/
theorem texts_replaceWith_ne_listing {candidates : List String} {line : String} :
    (replaceWith setting state text).texts ≠ listing setting candidates line := by
  rw [replaceWith]
  split
  · rw [texts_goOn]
    exact listing_ne_singleton.symm
  · simp [redraw, listing]

/-- Every key but Tab forgets the Tab before it. -/
theorem ambiguous_react_of_ne (setting : Setting) (state : State) (hkey : key ≠ .tab) :
    (react setting state key).state.ambiguous = none := by
  rw [react, if_neg hkey]
  cases key with
  | tab => exact absurd rfl hkey
  | enter | interrupt | char | other => rfl
  | backspace | endOfText | endOfInput =>
    simp only [reactPlain]
    split_ifs <;> rfl
  | up =>
    simp only [reactPlain, earlier]
    split_ifs <;> rfl
  | down =>
    simp only [reactPlain, later]
    split
    · rfl
    · split <;> rfl

/-- A Tab that can add nothing lists the candidates if the buffer is remembered, and rings and remembers it if
not. Any other Tab neither lists nor remembers. -/
theorem tab_cases (setting : Setting) (state : State) :
    (¬ Undecided setting state.buffer ∧ (react setting state .tab).state.ambiguous = none ∧
      (react setting state .tab).texts ≠ listing setting (setting.completer state.buffer) state.buffer) ∨
    (Undecided setting state.buffer ∧ state.ambiguous = some state.buffer ∧
      (react setting state .tab).state = state.calm ∧
      (react setting state .tab).texts = listing setting (setting.completer state.buffer) state.buffer) ∨
    (Undecided setting state.buffer ∧ state.ambiguous ≠ some state.buffer ∧
      (react setting state .tab).state = state.unsure ∧
      (react setting state .tab).texts = [bell]) := by
  have hreact : react setting state .tab = complete setting state := rfl
  rw [hreact]
  obtain ⟨hnil, h⟩ | ⟨only, honly, h⟩ | ⟨-, hlonger, h⟩ | ⟨hundecided, hagain, h⟩ | ⟨hundecided, hfirst, h⟩ :=
    complete_cases setting state
  · refine .inl ⟨fun hundecided => ?_, ?_, ?_⟩
    · simpa [hnil] using hundecided.1
    · rw [h, goOn_state, State.ambiguous_calm]
    · rw [h, texts_goOn]
      exact listing_ne_singleton.symm
  · refine .inl ⟨fun hundecided => ?_, ?_, ?_⟩
    · simpa [honly] using hundecided.1
    · rw [h, replaceWith, goOn_state]
      rfl
    · rw [h]
      exact texts_replaceWith_ne_listing
  · refine .inl ⟨fun hundecided => absurd hundecided.2 (Nat.not_le.2 hlonger), ?_, ?_⟩
    · rw [h, replaceWith, goOn_state]
      rfl
    · rw [h]
      exact texts_replaceWith_ne_listing
  · exact .inr (.inl ⟨hundecided, hagain, by rw [h, goOn_state], by rw [h, texts_goOn]⟩)
  · exact .inr (.inr ⟨hundecided, hfirst, by rw [h, goOn_state], by rw [h, texts_goOn]⟩)

/-- What is remembered is the buffer, after a Tab that rang since it could not decide. -/
theorem ambiguous_stateOf_iff :
    (stateOf setting keys).ambiguous = some text ↔ text = (stateOf setting keys).buffer ∧ RangLast setting keys := by
  obtain rfl | ⟨keys, key, rfl⟩ := List.eq_nil_or_concat' keys
  · simp [stateOf, stateAfter, RangLast, State.ambiguous]
  · rw [stateOf_snoc]
    by_cases hkey : key = .tab
    · subst hkey
      rw [rangLast_snoc_tab, Rings]
      obtain ⟨hnot, hstate, -⟩ | ⟨-, -, hstate, htexts⟩ | ⟨hundecided, -, hstate, htexts⟩ :=
        tab_cases setting (stateOf setting keys)
      · simp [hstate, hnot]
      · simp [hstate, htexts, listing_ne_singleton]
      · simp [hstate, htexts, hundecided, eq_comm]
    · simp [ambiguous_react_of_ne _ _ hkey, not_rangLast_snoc hkey]

/-- The candidates are listed where the Tab before rang since it could not decide, and this one cannot either. -/
theorem lists_iff :
    Lists setting keys ↔ Undecided setting (stateOf setting keys).buffer ∧ RangLast setting keys := by
  have hlast : RangLast setting keys ↔
      (stateOf setting keys).ambiguous = some (stateOf setting keys).buffer := by
    simp [ambiguous_stateOf_iff]
  rw [hlast, Lists]
  obtain ⟨hnot, -, htexts⟩ | ⟨hundecided, hagain, -, htexts⟩ | ⟨-, hfirst, -, htexts⟩ :=
    tab_cases setting (stateOf setting keys)
  · simp [hnot, htexts]
  · simp [hundecided, hagain, htexts]
  · simp [hfirst, htexts, listing_ne_singleton.symm]

/-- A Tab that cannot decide either lists the candidates or rings the bell. -/
theorem rings_iff_not_lists (h : Undecided setting (stateOf setting keys).buffer) :
    Rings setting keys ↔ ¬ Lists setting keys := by
  rw [Rings, Lists]
  obtain ⟨hnot, -⟩ | ⟨-, -, -, htexts⟩ | ⟨-, -, -, htexts⟩ := tab_cases setting (stateOf setting keys)
  · exact absurd h hnot
  · simp [htexts, listing_ne_singleton]
  · simp [h, htexts, listing_ne_singleton.symm]

/-- A Tab that cannot decide leaves the buffer as it is. -/
theorem buffer_stateOf_snoc_tab (h : Undecided setting (stateOf setting keys).buffer) :
    (stateOf setting (keys ++ [.tab])).buffer = (stateOf setting keys).buffer := by
  rw [stateOf_snoc]
  obtain ⟨hnot, -⟩ | ⟨-, -, hstate, -⟩ | ⟨-, -, hstate, -⟩ := tab_cases setting (stateOf setting keys)
  · exact absurd h hnot
  · rw [hstate, State.buffer_calm]
  · rw [hstate, State.buffer_unsure]

/-- In a row of Tabs that cannot decide, the first one rings the bell, and then they list and ring in turn. -/
theorem tabs_alternate (h : Undecided setting (stateOf setting keys).buffer) (hfirst : ¬ RangLast setting keys)
    (n : Nat) :
    (stateOf setting (keys ++ List.replicate n .tab)).buffer = (stateOf setting keys).buffer ∧
      if n % 2 = 0 then Rings setting (keys ++ List.replicate n .tab)
      else Lists setting (keys ++ List.replicate n .tab) := by
  induction n with
  | zero =>
    rw [List.replicate_zero, List.append_nil]
    exact ⟨rfl, (rings_iff_not_lists h).2 fun hlists => hfirst (lists_iff.1 hlists).2⟩
  | succ n ih =>
    obtain ⟨hbuffer, hturn⟩ := ih
    have hrow : keys ++ List.replicate (n + 1) .tab = keys ++ List.replicate n .tab ++ [.tab] := by
      rw [List.replicate_succ', List.append_assoc]
    have hundecided : Undecided setting (stateOf setting (keys ++ List.replicate n .tab)).buffer := hbuffer ▸ h
    have hnext := (buffer_stateOf_snoc_tab hundecided).trans hbuffer
    have hnext' : Undecided setting (stateOf setting (keys ++ List.replicate n .tab ++ [.tab])).buffer := hnext ▸ h
    rw [hrow]
    refine ⟨hnext, ?_⟩
    obtain heven | hodd := Nat.mod_two_eq_zero_or_one n
    · rw [if_pos heven] at hturn
      rw [if_neg (by omega), lists_iff, rangLast_snoc_tab]
      exact ⟨hnext', hturn⟩
    · rw [if_neg (by omega)] at hturn
      rw [if_pos (by omega), rings_iff_not_lists hnext', lists_iff, rangLast_snoc_tab,
        rings_iff_not_lists hundecided]
      exact fun hboth => hboth.2 hturn

/-! ### What a call shows -/

/-- What is shown for a key that does not end the line is what the reaction to it writes. -/
theorem run_shown {screen : Screen} {events : List Event} {sofar later : List Echo} {shown : String}
    (hechoes : (run setting screen state events).echoes = sofar ++ ⟨.ok key, shown⟩ :: later)
    (hkeys : sofar.map (·.key) = keys.map .ok)
    (hout : (react setting (stateAfter setting state keys) key).outcome = none)
    (hfull : (run setting screen state events).result ≠ .error { cause := .screenFull }) :
    shown.toList = (react setting (stateAfter setting state keys) key).texts.flatMap String.toList := by
  rw [toList_texts]
  induction keys generalizing screen state events sofar with
  | nil =>
    obtain rfl : sofar = [] := by simpa using hkeys
    obtain ⟨_, h⟩ | ⟨key', shown', h, hresult⟩ | ⟨key', screen', rest, -, -, h, -⟩ :=
      run_cases setting screen state events
    · simp [h] at hechoes
    · rw [h, List.nil_append, List.cons.injEq, Echo.mk.injEq, Except.ok.injEq] at hechoes
      obtain ⟨⟨rfl, -⟩, -⟩ := hechoes
      obtain ⟨outcome, hsome, -⟩ := hresult.resolve_left hfull
      exact absurd (hsome.symm.trans hout) (by simp)
    · rw [h, List.nil_append, List.cons.injEq, Echo.mk.injEq, Except.ok.injEq] at hechoes
      obtain ⟨⟨rfl, rfl⟩, -⟩ := hechoes
      rw [String.toList_ofList]
      rfl
  | cons key' keys ih =>
    obtain ⟨echo, sofar, rfl, hecho, htail⟩ := List.map_eq_cons_iff.1 hkeys
    obtain ⟨_, h⟩ | ⟨_, _, h, -⟩ | ⟨key'', screen', rest, -, -, h, hresult⟩ :=
      run_cases setting screen state events
    · simp [h] at hechoes
    · simp [h] at hechoes
    · rw [h, List.cons_append, List.cons.injEq] at hechoes
      obtain ⟨rfl, hechoes⟩ := hechoes
      obtain rfl : key'' = key' := by simpa using hecho
      rw [hresult] at hfull
      exact ih hechoes htail hout hfull

/-- What a call shows for a key that does not end the line is what the reaction to it writes. -/
theorem readLine_shown {terminal : Terminal} {screen : Screen} {events : List Event} {sofar later : List Echo}
    {shown : String}
    (hechoes : (readLine terminal setting screen events).echoes = sofar ++ ⟨.ok key, shown⟩ :: later)
    (hkeys : sofar.map (·.key) = keys.map .ok)
    (hout : (react setting (stateOf setting keys) key).outcome = none)
    (hfull : (readLine terminal setting screen events).result ≠ .error { cause := .screenFull }) :
    shown.toList = (react setting (stateOf setting keys) key).texts.flatMap String.toList := by
  unfold readLine at hechoes hfull
  cases hfault : terminal.enableFault with
  | some cause => simp [hfault] at hechoes
  | none =>
    simp only [hfault] at hechoes hfull
    split_ifs at hechoes hfull
    · simp at hechoes
    · exact run_shown hechoes hkeys hout hfull

/-- When candidates are listed. -/
structure ListsOnSecond (setting : Setting) : Prop where
  /-- A Tab lists the candidates exactly if there are several that share nothing new, and the key before it was a
  Tab that rang the bell for that reason. -/
  lists (keys : List Key) :
    Lists setting keys ↔ Undecided setting (stateOf setting keys).buffer ∧ RangLast setting keys
  /-- If there are several that share nothing new and it does not list them, it rings the bell. -/
  rings (keys : List Key) : Undecided setting (stateOf setting keys).buffer → ¬ Lists setting keys →
    (react setting (stateOf setting keys) .tab).texts = [bell]
  /-- In a row of such Tabs, the first one rings the bell and the others list and ring in turn, and the buffer
  stays as it is. -/
  alternate (keys : List Key) (n : Nat) :
    Undecided setting (stateOf setting keys).buffer → ¬ RangLast setting keys →
      (stateOf setting (keys ++ List.replicate n .tab)).buffer = (stateOf setting keys).buffer ∧
        if n % 2 = 0 then Rings setting (keys ++ List.replicate n .tab)
        else Lists setting (keys ++ List.replicate n .tab)
  /-- A buffer is remembered exactly after a Tab that rang for that reason, and it is the one there is. -/
  remembers (keys : List Key) (text : String) : (stateOf setting keys).ambiguous = some text ↔
    text = (stateOf setting keys).buffer ∧ RangLast setting keys
  /-- Unless the screen refuses it, what a call shows for a Tab after these keys is what is said here of it. -/
  shown (keys : List Key) (terminal : Terminal) (screen : Screen) (events : List Event) (sofar later : List Echo)
      (text : String) :
    let call := readLine terminal setting screen events
    call.echoes = sofar ++ ⟨.ok .tab, text⟩ :: later → sofar.map (·.key) = keys.map .ok →
      call.result ≠ .error { cause := .screenFull } →
      text.toList = (react setting (stateOf setting keys) .tab).texts.flatMap String.toList

example : (react { completer := fun _ => ["echo", "exit"] }
    (stateOf { completer := fun _ => ["echo", "exit"] } [.char 'e', .tab]) .tab).texts =
      ["\n", "echo  exit", "\n", "$ ", "e"] := by
  decide +kernel

end

end LineShell.Editor
