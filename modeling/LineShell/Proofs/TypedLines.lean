import LineShell.Proofs.Display
import LineShell.Proofs.KeyCodes
import LineShell.Proofs.LimitedScreens

/-!
# Lines that are only typed

Where the input of the line editor holds nothing but characters and ends of lines, as a script does that
is given as standard input, the editor reads it line by line: each call brings the next line, the last
one what stands after the last end of a line, and every call after that says that there are no more.

## The model

`series` is what successive calls do that share the source of keys and the screen; each has a setting of
its own. What was written is of no interest here, except that a call breaks off where the screen refuses
it, so the lemmas on one call say how it ends unless that happens (`Ends`).
-/

namespace LineShell.Editor

/-- The record of call number `n`, where each call goes on from what the one before it has left. -/
def series (terminal : Terminal) (settings : Nat → Setting) (screen : Screen) (events : List Event) :
    Nat → Call
  | 0 => readLine terminal (settings 0) screen events
  | n + 1 =>
    let before := series terminal settings screen events n
    readLine terminal (settings (n + 1)) before.screen before.rest

/-- A text of characters that are no control characters. -/
def IsTyped (s : String) : Prop := ∀ c ∈ s.toList, 0x20 ≤ c.toNat ∧ c.toNat ≠ 0x7F

/-- Unless the screen refused something, the line ended so and left these events. -/
def Ends (result : Result) (rest : List Event) (outcome : Outcome) (left : List Event) : Prop :=
  result ≠ .error { cause := .screenFull } → result = .ok outcome ∧ rest = left

section

variable {setting : Setting} {screen : Screen} {state : State} {events rest : List Event} {key : Key}

theorem run_ends {outcome : Outcome} (hread : Key.read events = (.ok key, rest))
    (hout : (react setting state key).outcome = some outcome) :
    Ends (run setting screen state events).result (run setting screen state events).rest outcome
      rest := by
  intro hfull
  by_cases hrefused : (perform screen (react setting state key).actions).refused = true
  · rw [run_of_refused hread hrefused] at hfull
    exact absurd rfl hfull
  · rw [Bool.not_eq_true] at hrefused
    rw [run_of_outcome hread hrefused hout]
    exact ⟨rfl, rfl⟩

/-- A key that does not end the line leaves its end to the keys after it. -/
theorem run_ends_of_next {outcome : Outcome} {left : List Event} (hread : Key.read events = (.ok key, rest))
    (hout : (react setting state key).outcome = none)
    (hnext : ∀ screen, Ends (run setting screen (react setting state key).state rest).result
      (run setting screen (react setting state key).state rest).rest outcome left) :
    Ends (run setting screen state events).result (run setting screen state events).rest outcome
      left := by
  intro hfull
  by_cases hrefused : (perform screen (react setting state key).actions).refused = true
  · rw [run_of_refused hread hrefused] at hfull
    exact absurd rfl hfull
  · rw [Bool.not_eq_true] at hrefused
    rw [run_of_none hread hrefused hout] at hfull ⊢
    exact hnext _ hfull

/-- Characters join the buffer one by one, and then the line goes on with what comes after them. -/
theorem run_ends_of_typed {cs : List Char} (hcs : ∀ c ∈ cs, 0x20 ≤ c.toNat ∧ c.toNat ≠ 0x7F)
    {bs : Bytes} {outcome : Outcome} {left : List Event}
    (hnext : ∀ screen state', state'.buffer = state.buffer ++ String.ofList cs →
      Ends (run setting screen state' (Event.ofBytes bs)).result
        (run setting screen state' (Event.ofBytes bs)).rest outcome left) :
    Ends (run setting screen state (Event.ofBytes (Text.encodeChars cs ++ bs))).result
      (run setting screen state (Event.ofBytes (Text.encodeChars cs ++ bs))).rest outcome left := by
  induction cs generalizing state screen with
  | nil => exact hnext screen state (by simp)
  | cons c cs ih =>
    have hread := (Key.Encodes.char (hcs c (by simp)).1 (hcs c (by simp)).2).read
      (Text.encodeChars cs ++ bs)
    rw [Text.encodeChars_cons, List.append_assoc]
    refine run_ends_of_next hread rfl fun screen => ih (fun d hd => hcs d (by simp [hd])) ?_
    intro screen state' hstate
    refine hnext screen state' ?_
    rw [hstate]
    apply String.toList_inj.1
    simp [react, reactPlain]

/-- A call that is told the end of the line brings the characters before it, and leaves all after it. -/
theorem run_ends_line {text : String} (htext : IsTyped text) {b : UInt8} (hb : b = 0x0D ∨ b = 0x0A)
    (bs : Bytes) (hstate : state.buffer = "") :
    Ends (run setting screen state (Event.ofBytes (Text.encode text ++ b :: bs))).result
      (run setting screen state (Event.ofBytes (Text.encode text ++ b :: bs))).rest
      (.line text) (Event.ofBytes bs) := by
  refine run_ends_of_typed htext fun screen state' hstate' => ?_
  have hread := (Key.Encodes.enter hb).read bs
  refine run_ends hread ?_
  rw [react_enter, hstate', hstate]
  simp

/-- A call at the end of the input brings what is left of it, if there is anything. -/
theorem run_ends_last {text : String} (htext : IsTyped text) (hstate : state.buffer = "") :
    Ends (run setting screen state (Event.ofBytes (Text.encode text))).result
      (run setting screen state (Event.ofBytes (Text.encode text))).rest
      (if text = "" then .ended else .line text) [] := by
  rw [← List.append_nil (Text.encode text)]
  refine run_ends_of_typed htext fun screen state' hstate' => ?_
  have hread : Key.read (Event.ofBytes []) = (.ok .endOfInput, []) := rfl
  refine run_ends hread ?_
  rw [react_endOfInput, hstate', hstate]
  simp

end

/-- The call ends as its keys end the line. -/
theorem readLine_ends {terminal : Terminal} (hterminal : terminal.enableFault = none) {setting : Setting}
    {screen : Screen} {events left : List Event} {outcome : Outcome}
    (h : ∀ screen, Ends (run setting screen { cursor := setting.history.length } events).result
      (run setting screen { cursor := setting.history.length } events).rest outcome left) :
    Ends (readLine terminal setting screen events).result (readLine terminal setting screen events).rest
      outcome left := by
  rw [readLine, hterminal]
  dsimp only
  split_ifs
  · exact fun hfull => absurd rfl hfull
  · exact h _

/-- The bytes of a script: lines with the byte that ends each, and what stands after the last of them. -/
def scriptBytes (lines : List (String × UInt8)) (last : String) : Bytes :=
  lines.flatMap (fun line => Text.encode line.1 ++ [line.2]) ++ Text.encode last

/-- How calls that read a script end: with its lines, with what stands after the last one if there is
anything, and then with nothing for ever. -/
def scriptOutcome (lines : List (String × UInt8)) (last : String) (n : Nat) : Outcome :=
  ((lines.map (·.1) ++ if last = "" then [] else [last]).map Outcome.line)[n]?.getD .ended

theorem series_succ (terminal : Terminal) (settings : Nat → Setting) (screen : Screen)
    (events : List Event) (n : Nat) :
    series terminal settings screen events (n + 1) =
      series terminal (fun n => settings (n + 1)) (readLine terminal (settings 0) screen events).screen
        (readLine terminal (settings 0) screen events).rest n := by
  induction n with
  | zero => rfl
  | succ n ih => rw [series, ih, series]

section

variable {terminal : Terminal} {settings : Nat → Setting} {screen : Screen} {events : List Event}

/-- The first call of a series ends as its keys say, and the others are a series on what it leaves. -/
theorem series_step (hterminal : terminal.enableFault = none) {outcome : Outcome} {left : List Event}
    (hfull : ∀ n, (series terminal settings screen events n).result ≠ .error { cause := .screenFull })
    (h : ∀ screen, Ends (run (settings 0) screen { cursor := (settings 0).history.length } events).result
      (run (settings 0) screen { cursor := (settings 0).history.length } events).rest outcome left) :
    (series terminal settings screen events 0).result = .ok outcome ∧
      ∃ screen', ∀ n, series terminal settings screen events (n + 1) =
        series terminal (fun n => settings (n + 1)) screen' left n := by
  obtain ⟨hresult, hrest⟩ := readLine_ends hterminal h (hfull 0)
  refine ⟨hresult, (readLine terminal (settings 0) screen events).screen, fun n => ?_⟩
  rw [series_succ, hrest]

/-- At the end of the input every call says so. -/
theorem series_nil (hterminal : terminal.enableFault = none)
    (hfull : ∀ n, (series terminal settings screen [] n).result ≠ .error { cause := .screenFull })
    (n : Nat) : (series terminal settings screen [] n).result = .ok .ended := by
  have hempty : IsTyped "" := by simp [IsTyped]
  obtain ⟨hfirst, screen', hnext⟩ := series_step hterminal hfull fun _ => run_ends_last hempty rfl
  induction n generalizing settings screen screen' with
  | zero => exact hfirst
  | succ n ih =>
    have hfull' := fun n => hnext n ▸ hfull (n + 1)
    obtain ⟨hfirst', screen'', hnext'⟩ :=
      series_step hterminal hfull' fun _ => run_ends_last hempty rfl
    rw [hnext]
    exact ih hfull' hfirst' screen'' hnext'

/-- **A script is read back line by line.** Where the input is lines of characters, each with a carriage
return or a line feed after it, and perhaps some characters more, successive calls bring these lines, then
those characters if there are any, and then the end of input for ever, whatever the prompts, the histories
and the completers are and unless the screen refuses what is written. -/
theorem series_reads_script {lines : List (String × UInt8)} {last : String}
    (hlines : ∀ line ∈ lines, IsTyped line.1 ∧ (line.2 = 0x0D ∨ line.2 = 0x0A)) (hlast : IsTyped last)
    (hterminal : terminal.enableFault = none)
    (hfull : ∀ n, (series terminal settings screen (Event.ofBytes (scriptBytes lines last)) n).result ≠
      .error { cause := .screenFull }) (n : Nat) :
    (series terminal settings screen (Event.ofBytes (scriptBytes lines last)) n).result =
      .ok (scriptOutcome lines last n) := by
  induction lines generalizing settings screen n with
  | nil =>
    obtain ⟨hfirst, screen', hnext⟩ := series_step hterminal hfull fun _ => run_ends_last hlast rfl
    cases n with
    | zero =>
      rw [hfirst]
      by_cases hempty : last = "" <;> simp [scriptOutcome, hempty]
    | succ n =>
      rw [hnext, series_nil hterminal (fun n => hnext n ▸ hfull (n + 1))]
      by_cases hempty : last = "" <;> simp [scriptOutcome, hempty]
  | cons line lines ih =>
    obtain ⟨⟨htyped, hend⟩, hlines⟩ := List.forall_mem_cons.1 hlines
    have hbytes : scriptBytes (line :: lines) last =
        Text.encode line.1 ++ line.2 :: scriptBytes lines last := by simp [scriptBytes]
    rw [hbytes] at hfull ⊢
    obtain ⟨hfirst, screen', hnext⟩ :=
      series_step hterminal hfull fun _ => run_ends_line htyped hend _ rfl
    cases n with
    | zero => rw [hfirst, scriptOutcome, List.map_cons, List.cons_append, List.map_cons]; rfl
    | succ n =>
      rw [hnext, ih hlines (fun n => hnext n ▸ hfull (n + 1))]
      simp [scriptOutcome]

end

/-! ### Screens that take everything -/

theorem perform_of_limit_eq_none {screen : Screen} (h : screen.limit = none) (actions : List Action) :
    (perform screen actions).refused = false ∧ (perform screen actions).screen.limit = none := by
  obtain ⟨limit, shown⟩ := screen
  obtain rfl : limit = none := h
  rw [perform_of_hasRoom (hasRoom_none _ _)]
  exact ⟨rfl, rfl⟩

theorem run_of_limit_eq_none {setting : Setting} {screen : Screen} {state : State}
    {events : List Event} (h : screen.limit = none) :
    (run setting screen state events).result ≠ .error { cause := .screenFull } ∧
      (run setting screen state events).screen.limit = none := by
  fun_induction run setting screen state events with
  | case1 => exact ⟨by simp [Cause.during], h⟩
  | case2 _ _ _ _ _ _ _ _ hrefused =>
    exact absurd hrefused (by rw [(perform_of_limit_eq_none h _).1]; simp)
  | case3 => exact ⟨by simp, (perform_of_limit_eq_none h _).2⟩
  | case4 _ _ _ _ _ _ _ _ _ ih => exact ih (perform_of_limit_eq_none h _).2

/-- A screen without a limit refuses nothing. -/
theorem series_of_limit_eq_none {terminal : Terminal} (hterminal : terminal.enableFault = none)
    (settings : Nat → Setting) {screen : Screen} (h : screen.limit = none) (events : List Event) (n : Nat) :
    (series terminal settings screen events n).result ≠ .error { cause := .screenFull } ∧
      (series terminal settings screen events n).screen.limit = none := by
  have hcall (setting : Setting) {screen : Screen} (h : screen.limit = none) (events : List Event) :
      (readLine terminal setting screen events).result ≠ .error { cause := .screenFull } ∧
        (readLine terminal setting screen events).screen.limit = none := by
    obtain ⟨hrefused, hlimit⟩ := perform_of_limit_eq_none h [.write setting.prompt, .flush]
    rw [readLine, hterminal]
    simp only [hrefused]
    exact run_of_limit_eq_none hlimit
  induction n with
  | zero => exact hcall _ h _
  | succ n ih => exact hcall _ ih.2 _

/-- Two lines, the second one empty, and a last one without an end. -/
theorem series_reads_script_unfinished :
    let events := Event.ofBytes (scriptBytes [("ab", 0x0D), ("", 0x0A)] "é")
    let settings : Nat → Setting := fun n => { history := List.replicate n "ls" }
    (series {} settings {} events 0).result = .ok (.line "ab") ∧
    (series {} settings {} events 1).result = .ok (.line "") ∧
    (series {} settings {} events 2).result = .ok (.line "é") ∧
    (series {} settings {} events 3).result = .ok .ended := by
  intro events settings
  have hlines : ∀ line ∈ [("ab", (0x0D : UInt8)), ("", 0x0A)],
      IsTyped line.1 ∧ (line.2 = 0x0D ∨ line.2 = 0x0A) := by
    simp [IsTyped]
  have hlast : IsTyped "é" := by simp [IsTyped]
  have hfull (n : Nat) : (series {} settings {} events n).result ≠ .error { cause := .screenFull } :=
    (series_of_limit_eq_none rfl settings rfl events n).1
  have hresult := series_reads_script hlines hlast rfl hfull
  exact ⟨hresult 0, hresult 1, hresult 2, hresult 3⟩

end LineShell.Editor
