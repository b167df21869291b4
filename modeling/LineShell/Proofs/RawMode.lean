import LineShell.Proofs.LimitedScreens

/-!
# The terminal is always switched back

Each call of the line editor switches the terminal to single keystrokes before anything else, and if the terminal
has taken that, it is switched back once, after everything else, whichever way the call ends (`calls_restore`). A
terminal that refuses single keystrokes ends the call at once, and one that refuses to be switched back changes
nothing.

## The model

The record of a call tells what was done, but not in which order the mode was switched and the rest was done. Here
the calls are made at a `Console`, which keeps an account of all that is done there, what fails included. The mode
is switched around the body of a call by `Apparatus.inRawMode`, which knows nothing of what the body does. An
`Apparatus` is any terminal with any screen: it has a state of its own, and may refuse whatever it likes, a flush as
well as a piece of text. Where it refuses what a `Terminal` and a `Screen` do, the account of a call tells what the
record of `readLine` does (`readLine_records`).
-/

namespace LineShell.Editor

/-- Something done while a line is read. -/
inductive Doing where
  /-- The terminal's mode is switched; a cause tells why it is not. -/
  | switch (call : ModeCall) (fault : Option Cause)
  /-- A key is read, or a read fails. -/
  | read (key : KeyRead)
  /-- Something is done to the screen; a cause tells why it is not. -/
  | act (action : Action) (fault : Option Cause)
  deriving DecidableEq, Repr

/-- How a screen takes what is done to it: it goes on to another state, and gives a cause if it refuses. -/
abbrev Panel (σ : Type) := σ → Action → Option Cause × σ

/-- A terminal with its screen. -/
structure Apparatus (σ : Type) where
  /-- Switch to single keystrokes. -/
  enable : σ → Option Cause × σ
  /-- Switch back. -/
  disable : σ → Option Cause × σ
  /-- Do something to the screen. -/
  act : Panel σ

/-- What the calls of one editor share. -/
structure Console (σ : Type) where
  /-- The state of the terminal and its screen. -/
  device : σ
  /-- The events that are left. -/
  events : List Event
  /-- All that was done, in order. -/
  account : List Doing := []

/-- The console after one more thing was done with the device. -/
def Console.after {σ : Type} (console : Console σ) (doing : Doing) (device : σ) : Console σ :=
  { console with device, account := console.account ++ [doing] }

/-- The console after a key was read, or a read failed. -/
def Console.afterRead {σ : Type} (console : Console σ) (key : KeyRead) (events : List Event) : Console σ :=
  { console with events, account := console.account ++ [.read key] }

section

variable {σ : Type}

/-- Carry out actions in order, up to the first one that is refused. -/
def Panel.actAll (panel : Panel σ) : List Action → Console σ → Option Cause × Console σ
  | [], console => (none, console)
  | action :: actions, console =>
    match panel console.device action with
    | (some cause, state) => (some cause, console.after (.act action (some cause)) state)
    | (none, state) => panel.actAll actions (console.after (.act action none) state)

theorem Panel.events_actAll (panel : Panel σ) (actions : List Action) (console : Console σ) :
    (panel.actAll actions console).2.events = console.events := by
  fun_induction panel.actAll actions console with
  | case1 => rfl
  | case2 => rfl
  | case3 action actions console state hact ih => exact ih

/-- Read keys until one of them ends the line. -/
def Panel.readKeys (panel : Panel σ) (setting : Setting) (state : State) (console : Console σ) :
    Result × Console σ :=
  match _hread : Key.read console.events with
  | (.error message, events) =>
    (.error ((Cause.other message).during .readingKey), console.afterRead (.error message) events)
  | (.ok key, events) =>
    match _hact : panel.actAll (react setting state key).actions (console.afterRead (.ok key) events) with
    | (some cause, next) => (.error { cause }, next)
    | (none, next) =>
      match _hout : (react setting state key).outcome with
      | some outcome => (.ok outcome, next)
      | none => panel.readKeys setting (react setting state key).state next
termination_by console.events.length
decreasing_by
  have hevents := panel.events_actAll (react setting state key).actions (console.afterRead (.ok key) events)
  rw [_hact] at hevents
  have hlt := @Key.read_length_lt console.events
  rw [_hread] at hlt
  exact (congrArg List.length hevents).trans_lt (hlt (isEnd_of_outcome _hout))

/-- Show the prompt and read keys. -/
def Panel.readPrompted (panel : Panel σ) (setting : Setting) (console : Console σ) : Result × Console σ :=
  match panel.actAll [.write setting.prompt, .flush] console with
  | (some cause, console) => (.error { cause }, console)
  | (none, console) => panel.readKeys setting { cursor := setting.history.length } console

/-- Do something while the terminal sends single keystrokes. It is switched back whichever way that ends, and whether
it takes that makes no difference. -/
def Apparatus.inRawMode (apparatus : Apparatus σ) (body : Console σ → Result × Console σ) (console : Console σ) :
    Result × Console σ :=
  match apparatus.enable console.device with
  | (some cause, state) =>
    (.error (cause.during .enteringRawMode), console.after (.switch .enable (some cause)) state)
  | (none, state) =>
    let (result, console) := body (console.after (.switch .enable none) state)
    let (fault, state) := apparatus.disable console.device
    (result, console.after (.switch .disable fault) state)

/-- Read one line. -/
def Apparatus.call (apparatus : Apparatus σ) (setting : Setting) : Console σ → Result × Console σ :=
  apparatus.inRawMode (apparatus.act.readPrompted setting)

/-- The console after so many calls of one editor, each with an apparatus and a setting of its own. -/
def consoles (apparatus : Nat → Apparatus σ) (settings : Nat → Setting) (start : Console σ) : Nat → Console σ
  | 0 => start
  | n + 1 => ((apparatus n).call (settings n) (consoles apparatus settings start n)).2

end

/-! ### What a call adds to the account -/

/-- The terminal's mode is switched. -/
def Doing.isSwitch : Doing → Bool
  | .switch .. => true
  | _ => false

/-- All that was done since then, but the mode was never switched. -/
def Console.Keeps {σ : Type} (before after : Console σ) : Prop :=
  ∃ done, after.account = before.account ++ done ∧ ∀ doing ∈ done, doing.isSwitch = false

section

variable {σ : Type} {before console after : Console σ}

theorem Console.Keeps.refl (console : Console σ) : console.Keeps console := ⟨[], by simp, by simp⟩

theorem Console.Keeps.trans (h : before.Keeps console) (h' : console.Keeps after) : before.Keeps after := by
  obtain ⟨done, haccount, hdone⟩ := h
  obtain ⟨done', haccount', hdone'⟩ := h'
  refine ⟨done ++ done', by rw [haccount', haccount, List.append_assoc], fun doing hdoing => ?_⟩
  obtain hdoing | hdoing := List.mem_append.1 hdoing
  · exact hdone doing hdoing
  · exact hdone' doing hdoing

theorem Console.keeps_after {doing : Doing} (h : doing.isSwitch = false) (device : σ) :
    console.Keeps (console.after doing device) := ⟨[doing], rfl, by simpa using h⟩

theorem Console.keeps_afterRead (console : Console σ) (key : KeyRead) (events : List Event) :
    console.Keeps (console.afterRead key events) := ⟨[.read key], rfl, by simp [Doing.isSwitch]⟩

variable (panel : Panel σ) (setting : Setting)

theorem Panel.actAll_keeps (actions : List Action) (console : Console σ) :
    console.Keeps (panel.actAll actions console).2 := by
  fun_induction panel.actAll actions console with
  | case1 console => exact .refl console
  | case2 action actions console cause state hact => exact console.keeps_after rfl state
  | case3 action actions console state hact ih => exact (console.keeps_after rfl state).trans ih

theorem Panel.keeps_of_actAll {actions : List Action} {fault : Option Cause}
    (h : panel.actAll actions console = (fault, after)) : console.Keeps after := by
  have hacts := panel.actAll_keeps actions console
  rwa [h] at hacts

/-- Reading keys leaves the mode as it is, by induction on the keys that are read. -/
theorem Panel.readKeys_keeps (state : State) (console : Console σ) :
    console.Keeps (panel.readKeys setting state console).2 := by
  fun_induction panel.readKeys setting state console with
  | case1 state console message events hread => exact console.keeps_afterRead _ events
  | case2 state console key events hread cause next hact =>
    exact (console.keeps_afterRead _ events).trans (panel.keeps_of_actAll hact)
  | case3 state console key events hread next hact outcome hout =>
    exact (console.keeps_afterRead _ events).trans (panel.keeps_of_actAll hact)
  | case4 state console key events hread next hact hout ih =>
    exact ((console.keeps_afterRead _ events).trans (panel.keeps_of_actAll hact)).trans ih

theorem Panel.readPrompted_keeps (console : Console σ) :
    console.Keeps (panel.readPrompted setting console).2 := by
  rw [readPrompted]
  split
  · next hact => exact panel.keeps_of_actAll hact
  · next next hact => exact (panel.keeps_of_actAll hact).trans (panel.readKeys_keeps setting _ next)

/-- What a call does with the mode of the terminal. -/
structure Apparatus.Restores (apparatus : Apparatus σ) (before : Console σ) (result : Result) (after : Console σ) :
    Prop where
  /-- A terminal that refuses single keystrokes ends the call: nothing was done but to ask for them, once, and no
  event was used up. -/
  refused : ∀ {cause state}, apparatus.enable before.device = (some cause, state) →
    result = .error (cause.during .enteringRawMode) ∧ after = before.after (.switch .enable (some cause)) state
  /-- Otherwise it was switched first, once, and it is switched back last, once, with no switching between. -/
  restored : ∀ {state}, apparatus.enable before.device = (none, state) → ∃ done fault,
    (∀ doing ∈ done, doing.isSwitch = false) ∧
    after.account = before.account ++ (.switch .enable none :: (done ++ [.switch .disable fault]))

/-- What is done in raw mode is done between one switch and another, if it leaves the mode as it is. -/
theorem Apparatus.restores_inRawMode (apparatus : Apparatus σ) {body : Console σ → Result × Console σ}
    (hbody : ∀ console : Console σ, console.Keeps (body console).2) (before : Console σ) :
    apparatus.Restores before (apparatus.inRawMode body before).1 (apparatus.inRawMode body before).2 := by
  constructor
  · intro cause state henable
    rw [inRawMode, henable]
    exact ⟨rfl, rfl⟩
  · intro state henable
    obtain ⟨done, haccount, hdone⟩ := hbody (before.after (.switch .enable none) state)
    rw [inRawMode, henable]
    refine ⟨done, (apparatus.disable (body (before.after (.switch .enable none) state)).2.device).1, hdone, ?_⟩
    simp only [Console.after] at haccount ⊢
    rw [haccount, List.append_assoc, List.append_assoc, List.singleton_append]

/-- What comes of it does not depend on whether the terminal takes it to be switched back. -/
theorem Apparatus.inRawMode_disable (apparatus : Apparatus σ) (body : Console σ → Result × Console σ)
    (console : Console σ) (disable : σ → Option Cause × σ) :
    ({ apparatus with disable }.inRawMode body console).1 = (apparatus.inRawMode body console).1 := by
  simp only [inRawMode]
  split <;> rfl

end

/-! ### The record of a call -/

/-- The switch that was made. -/
def Doing.modeCall? : Doing → Option ModeCall
  | .switch call _ => some call
  | _ => none

/-- The output was pushed out. -/
def Doing.isFlush : Doing → Bool
  | .act .flush none => true
  | _ => false

/-- What was written before the next key was read. -/
def shownNext : List Doing → String
  | [] | .read _ :: _ => ""
  | .act (.write text) none :: account => text ++ shownNext account
  | _ :: account => shownNext account

/-- The keys that were read, with what was written in answer to each. -/
def echoesIn : List Doing → List Echo
  | [] => []
  | .read key :: account => ⟨key, shownNext account⟩ :: echoesIn account
  | _ :: account => echoesIn account

/-- The record of a call, from the account of what was done, what came of it, and what it left. -/
def Call.ofAccount (account : List Doing) (result : Result) (screen : Screen) (rest : List Event) : Call where
  modeCalls := account.filterMap Doing.modeCall?
  promptShown := shownNext account
  echoes := echoesIn account
  result := result
  flushes := account.countP Doing.isFlush
  screen := screen
  rest := rest

/-- The record tells what was done from one console to another. -/
def Call.Records (call : Call) (before : Console Screen) (result : Result) (after : Console Screen) : Prop :=
  ∃ done, after.account = before.account ++ done ∧ call = ofAccount done result after.device after.events

/-- A screen that may have room for so many bytes only. -/
def Screen.panel : Panel Screen
  | screen, .flush => (none, screen)
  | screen, .write text =>
    match screen.write? text with
    | some next => (none, next)
    | none => (some .screenFull, screen)

/-- A terminal with such a screen. -/
def Terminal.apparatus (terminal : Terminal) : Apparatus Screen where
  enable screen := (terminal.enableFault, screen)
  disable screen := (terminal.disableFault, screen)
  act := Screen.panel

/-- Why actions were broken off, if they were. -/
def Effect.fault (effect : Effect) : Option Cause := if effect.refused then some .screenFull else none

/-- What an account of actions tells is what came of them. -/
structure Effect.Told (effect : Effect) (done : List Doing) : Prop where
  /-- No mode was switched. -/
  modeCalls : done.filterMap Doing.modeCall? = []
  /-- The text was written before anything else is. -/
  shown : ∀ account, shownNext (done ++ account) = effect.text ++ shownNext account
  /-- No key was read. -/
  echoes : ∀ account, echoesIn (done ++ account) = echoesIn account
  /-- The output was pushed out so often. -/
  flushes : done.countP Doing.isFlush = effect.flushes

/-- Actions are carried out at the console as they are on the screen alone. -/
theorem actAll_eq_perform (actions : List Action) (console : Console Screen) :
    ∃ done, (perform console.device actions).Told done ∧ Screen.panel.actAll actions console =
      ((perform console.device actions).fault,
        { console with device := (perform console.device actions).screen, account := console.account ++ done }) := by
  induction actions generalizing console with
  | nil =>
    refine ⟨[], ⟨rfl, fun _ => ?_, fun _ => rfl, rfl⟩, ?_⟩
    · simp [perform]
    · simp [Panel.actAll, perform, Effect.fault]
  | cons action actions ih =>
    cases action with
    | flush =>
      obtain ⟨done, htold, hacts⟩ := ih (console.after (.act .flush none) console.device)
      refine ⟨.act .flush none :: done, ⟨htold.modeCalls, htold.shown, htold.echoes, ?_⟩, ?_⟩
      · rw [List.countP_cons_of_pos rfl, htold.flushes]
        rfl
      · have hnext : Screen.panel.actAll (.flush :: actions) console =
            Screen.panel.actAll actions (console.after (.act .flush none) console.device) := rfl
        rw [hnext, hacts, Console.after, List.append_assoc]
        rfl
    | write text =>
      cases hwrite : console.device.write? text with
      | none =>
        refine ⟨[.act (.write text) (some .screenFull)], ?_, ?_⟩
        · simp only [perform, hwrite]
          exact ⟨rfl, fun _ => by simp [shownNext], fun _ => rfl, rfl⟩
        · simp [Panel.actAll, Screen.panel, perform, hwrite, Console.after, Effect.fault]
      | some next =>
        obtain ⟨done, htold, hacts⟩ := ih (console.after (.act (.write text) none) next)
        refine ⟨.act (.write text) none :: done, ?_, ?_⟩
        · simp only [perform, hwrite]
          refine ⟨htold.modeCalls, fun account => ?_, htold.echoes, htold.flushes⟩
          rw [List.cons_append, shownNext, htold.shown, String.append_assoc]
          rfl
        · have hnext : Screen.panel.actAll (.write text :: actions) console =
              Screen.panel.actAll actions (console.after (.act (.write text) none) next) := by
            simp [Panel.actAll, Screen.panel, hwrite]
          rw [hnext, hacts, Console.after, List.append_assoc]
          simp only [perform, hwrite]
          rfl

theorem Effect.fault_eq_some_iff {effect : Effect} {cause : Cause} :
    effect.fault = some cause ↔ effect.refused = true ∧ cause = .screenFull := by
  rw [fault]
  split_ifs with hrefused <;> simp [hrefused, eq_comm]

theorem Effect.fault_eq_none_iff {effect : Effect} : effect.fault = none ↔ effect.refused = false := by
  rw [fault]
  split_ifs with hrefused <;> simp [hrefused]

/-- After a key the actions in answer to it are carried out. -/
theorem actAll_afterRead (actions : List Action) (console : Console Screen) (key : KeyRead) (events : List Event) :
    ∃ done, (perform console.device actions).Told done ∧
      Screen.panel.actAll actions (console.afterRead key events) = ((perform console.device actions).fault,
        { device := (perform console.device actions).screen, events
          account := console.account ++ .read key :: done }) := by
  obtain ⟨done, htold, hacts⟩ := actAll_eq_perform actions (console.afterRead key events)
  rw [Console.afterRead, List.append_assoc] at hacts
  exact ⟨done, htold, hacts⟩

/-- What an account of keys tells is their course. -/
structure Course.Told (course : Course) (done : List Doing) : Prop where
  /-- No mode was switched. -/
  modeCalls : done.filterMap Doing.modeCall? = []
  /-- A key was read before anything was written. -/
  shown : ∀ account, shownNext (done ++ account) = ""
  /-- The keys were read, and each was answered so, if nothing more is written before the next key is read. -/
  echoes : ∀ account, shownNext account = "" → echoesIn (done ++ account) = course.echoes ++ echoesIn account
  /-- The output was pushed out so often. -/
  flushes : done.countP Doing.isFlush = course.flushes

/-- The course that ends with the answer to a key. -/
theorem Effect.Told.last {effect : Effect} {done : List Doing} (h : effect.Told done) (key : Key) (result : Result)
    (rest : List Event) :
    Course.Told
      { echoes := [⟨.ok key, effect.text⟩], result, flushes := effect.flushes, screen := effect.screen, rest }
      (.read (.ok key) :: done) where
  modeCalls := h.modeCalls
  shown _ := rfl
  echoes account haccount := by
    rw [List.cons_append, echoesIn, h.shown, h.echoes, haccount, String.append_empty]
    rfl
  flushes := h.flushes

/-- The course that goes on after the answer to a key. -/
theorem Effect.Told.next {effect : Effect} {done more : List Doing} (h : effect.Told done) {course : Course}
    (hcourse : course.Told more) (key : Key) :
    (course.after ⟨.ok key, effect.text⟩ effect.flushes).Told (.read (.ok key) :: (done ++ more)) where
  modeCalls := by
    rw [List.filterMap_cons_none rfl, List.filterMap_append, h.modeCalls, hcourse.modeCalls]
    rfl
  shown _ := rfl
  echoes account haccount := by
    rw [List.cons_append, List.append_assoc, echoesIn, h.shown, h.echoes, hcourse.shown,
      hcourse.echoes account haccount, String.append_empty]
    rfl
  flushes := by
    rw [List.countP_cons_of_neg (by simp [Doing.isFlush]), List.countP_append, h.flushes, hcourse.flushes]
    rfl

/-- Keys are read at the console as they are on the screen alone, by induction on the keys that are read. -/
theorem readKeys_eq_run (setting : Setting) (state : State) (console : Console Screen) :
    ∃ done, (run setting console.device state console.events).Told done ∧
      Screen.panel.readKeys setting state console = ((run setting console.device state console.events).result,
        { device := (run setting console.device state console.events).screen
          events := (run setting console.device state console.events).rest
          account := console.account ++ done }) := by
  fun_induction Screen.panel.readKeys setting state console with
  | case1 state console message events hread =>
    rw [run_of_error hread]
    refine ⟨[.read (.error message)], ⟨rfl, fun _ => rfl, fun account haccount => ?_, rfl⟩, rfl⟩
    rw [List.cons_append, List.nil_append, echoesIn, haccount]
    rfl
  | case2 state console key events hread cause next hact =>
    obtain ⟨done, htold, hacts⟩ := actAll_afterRead (react setting state key).actions console (.ok key) events
    obtain ⟨hfault, rfl⟩ := Prod.mk.inj (hacts.symm.trans hact)
    obtain ⟨hrefused, rfl⟩ := Effect.fault_eq_some_iff.1 hfault
    rw [run_of_refused hread hrefused]
    exact ⟨_, htold.last key _ events, rfl⟩
  | case3 state console key events hread next hact outcome hout =>
    obtain ⟨done, htold, hacts⟩ := actAll_afterRead (react setting state key).actions console (.ok key) events
    obtain ⟨hfault, rfl⟩ := Prod.mk.inj (hacts.symm.trans hact)
    rw [run_of_outcome hread (Effect.fault_eq_none_iff.1 hfault) hout]
    exact ⟨_, htold.last key _ events, rfl⟩
  | case4 state console key events hread next hact hout ih =>
    obtain ⟨done, htold, hacts⟩ := actAll_afterRead (react setting state key).actions console (.ok key) events
    obtain ⟨hfault, rfl⟩ := Prod.mk.inj (hacts.symm.trans hact)
    obtain ⟨more, hmore, hkeys⟩ := ih
    rw [run_of_none hread (Effect.fault_eq_none_iff.1 hfault) hout]
    refine ⟨_, htold.next hmore key, ?_⟩
    rw [hkeys, List.append_assoc]
    rfl

/-- What is written, read and pushed out between the two switches is what the account of a call tells. -/
theorem Call.ofAccount_switched {done : List Doing} (h : done.filterMap Doing.modeCall? = []) (fault : Option Cause)
    (result : Result) (screen : Screen) (rest : List Event) :
    Call.ofAccount (.switch .enable none :: (done ++ [.switch .disable fault])) result screen rest =
      { modeCalls := [.enable, .disable], promptShown := shownNext (done ++ [.switch .disable fault])
        echoes := echoesIn (done ++ [.switch .disable fault]), result, flushes := done.countP Doing.isFlush
        screen, rest } := by
  have hmodes : (Doing.switch .enable none :: (done ++ [.switch .disable fault])).filterMap Doing.modeCall? =
      [.enable, .disable] := by
    simp [Doing.modeCall?, h]
  have hflushes : (Doing.switch .enable none :: (done ++ [.switch .disable fault])).countP Doing.isFlush =
      done.countP Doing.isFlush := by
    simp [Doing.isFlush]
  rw [ofAccount, hmodes, hflushes]
  rfl

/-- What is done between the two switches is the call, where the terminal takes the first one. -/
theorem readPrompted_eq_readLine {terminal : Terminal} (hterminal : terminal.enableFault = none) (setting : Setting)
    (console : Console Screen) :
    ∃ done, (Screen.panel.readPrompted setting console).2.account = console.account ++ done ∧
      ∀ fault, readLine terminal setting console.device console.events =
        Call.ofAccount (.switch .enable none :: (done ++ [.switch .disable fault]))
          (Screen.panel.readPrompted setting console).1 (Screen.panel.readPrompted setting console).2.device
          (Screen.panel.readPrompted setting console).2.events := by
  obtain ⟨done, htold, hacts⟩ := actAll_eq_perform [.write setting.prompt, .flush] console
  have hshown (fault : Option Cause) : shownNext (done ++ [.switch .disable fault]) =
      (perform console.device [.write setting.prompt, .flush]).text :=
    (htold.shown _).trans (String.append_empty ..)
  rw [readLine, hterminal, Panel.readPrompted, hacts]
  cases hrefused : (perform console.device [.write setting.prompt, .flush]).refused with
  | true =>
    rw [Effect.fault_eq_some_iff.2 ⟨hrefused, rfl⟩]
    refine ⟨done, rfl, fun fault => ?_⟩
    rw [Call.ofAccount_switched htold.modeCalls, hshown, htold.echoes, htold.flushes]
    simp [hrefused, echoesIn]
  | false =>
    rw [Effect.fault_eq_none_iff.2 hrefused]
    dsimp only
    obtain ⟨more, hmore, hkeys⟩ := readKeys_eq_run setting { cursor := setting.history.length }
      { console with device := (perform console.device [.write setting.prompt, .flush]).screen
                     account := console.account ++ done }
    rw [hkeys]
    refine ⟨done ++ more, List.append_assoc .., fun fault => ?_⟩
    · have hmodes : (done ++ more).filterMap Doing.modeCall? = [] := by
        rw [List.filterMap_append, htold.modeCalls, hmore.modeCalls, List.append_nil]
      rw [Call.ofAccount_switched hmodes, List.append_assoc, htold.shown, hmore.shown, htold.echoes,
        hmore.echoes _ rfl, List.countP_append, htold.flushes, hmore.flushes]
      simp [hrefused, echoesIn]

/-- **The record of a call is what its account tells.** -/
theorem readLine_records (terminal : Terminal) (setting : Setting) (console : Console Screen) :
    (readLine terminal setting console.device console.events).Records console
      (terminal.apparatus.call setting console).1 (terminal.apparatus.call setting console).2 := by
  cases hterminal : terminal.enableFault with
  | some cause =>
    have hcall : terminal.apparatus.call setting console = (.error (cause.during .enteringRawMode),
        console.after (.switch .enable (some cause)) console.device) := by
      simp [Apparatus.call, Apparatus.inRawMode, Terminal.apparatus, hterminal]
    rw [hcall, readLine, hterminal]
    exact ⟨[.switch .enable (some cause)], rfl, rfl⟩
  | none =>
    obtain ⟨done, haccount, hline⟩ := readPrompted_eq_readLine hterminal setting
      (console.after (.switch .enable none) console.device)
    have hcall : terminal.apparatus.call setting console =
        ((Screen.panel.readPrompted setting (console.after (.switch .enable none) console.device)).1,
          (Screen.panel.readPrompted setting (console.after (.switch .enable none) console.device)).2.after
            (.switch .disable terminal.disableFault)
            (Screen.panel.readPrompted setting (console.after (.switch .enable none) console.device)).2.device) := by
      simp [Apparatus.call, Apparatus.inRawMode, Terminal.apparatus, hterminal]
    rw [hcall]
    refine ⟨.switch .enable none :: (done ++ [.switch .disable terminal.disableFault]), ?_, ?_⟩
    · simp only [Console.after] at haccount ⊢
      rw [haccount, List.append_assoc, List.append_assoc, List.singleton_append]
    · exact hline terminal.disableFault

/-- **The terminal is always switched back.** Whatever a terminal and its screen refuse, whatever the terminal sends,
and however many lines were read before: a call asks for single keystrokes once, before it writes anything or reads a
key. If that is refused, the call fails, with nothing written and no event used up. If it is not, the call switches
back once, after all that it writes and reads, whichever way it ends, and what comes of it would be the same if that
went otherwise. The calls of `readLine` are such calls. -/
theorem calls_restore {σ : Type} (apparatus : Nat → Apparatus σ) (settings : Nat → Setting) (start : Console σ)
    (n : Nat) :
    let before := consoles apparatus settings start n
    let result := ((apparatus n).call (settings n) before).1
    (apparatus n).Restores before result (consoles apparatus settings start (n + 1)) ∧
    (∀ disable : σ → Option Cause × σ, ({ apparatus n with disable }.call (settings n) before).1 = result) ∧
    ∀ (terminal : Terminal) (setting : Setting) (console : Console Screen),
      (readLine terminal setting console.device console.events).Records console
        (terminal.apparatus.call setting console).1 (terminal.apparatus.call setting console).2 :=
  ⟨(apparatus n).restores_inRawMode ((apparatus n).act.readPrompted_keeps (settings n)) _,
    (apparatus n).inRawMode_disable ((apparatus n).act.readPrompted (settings n)) _, readLine_records⟩

-- The screen refuses the echo of the first key, and then the terminal refuses to be switched back.
example : ((Terminal.apparatus { disableFault := some (.other "stuck") }).call {}
    { device := { limit := some 2 }, events := Event.ofBytes [0x61, 0x62] }).2.account =
      [.switch .enable none, .act (.write "$ ") none, .act .flush none, .read (.ok (.char 'a')),
        .act (.write "a") (some .screenFull), .switch .disable (some (.other "stuck"))] := by
  decide +kernel

end LineShell.Editor
