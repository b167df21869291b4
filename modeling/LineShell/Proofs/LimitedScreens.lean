import LineShell.Proofs.Display

/-!
# Screens with little room

A screen that refuses a piece of text ends the call: what was written until then is the beginning of what would
have been written, up to the piece that is refused, and the call fails for that reason. Where no piece is refused,
the call is the one that a screen without a limit has.

## The model

`written` lists the pieces of text that the editor has to write in answer to its keys, one after the other, and
`writtenInCall` those of a whole call. This says nothing of a screen. `perform` breaks off in the middle of a list
of actions, so what a limited screen shows is told piece by piece: `Cut` holds of the text up to the first piece
for which there is no room. The lemmas on `perform` are carried to a run by the keys that are left to be read
(`reading_induction`).
-/

namespace LineShell.Editor

/-! ### Lists of pieces -/

/-- How many bytes the pieces take. -/
def size (pieces : List String) : Nat := (String.join pieces).utf8ByteSize

@[simp] theorem size_nil : size [] = 0 := rfl

@[simp] theorem size_cons (piece : String) (pieces : List String) :
    size (piece :: pieces) = piece.utf8ByteSize + size pieces := by
  rw [size, String.join_cons, String.utf8ByteSize_append, size]

@[simp] theorem size_append (pieces more : List String) : size (pieces ++ more) = size pieces + size more := by
  rw [size, String.join_append, String.utf8ByteSize_append, size, size]

/-- Where `shown` bytes are shown already, there is room for all of the pieces. -/
def HasRoom (limit : Option Nat) (shown : Nat) (pieces : List String) : Prop :=
  ∀ n ∈ limit, shown + size pieces ≤ n

theorem hasRoom_none (shown : Nat) (pieces : List String) : HasRoom none shown pieces := by simp [HasRoom]

theorem hasRoom_some {limit shown : Nat} {pieces : List String} :
    HasRoom (some limit) shown pieces ↔ shown + size pieces ≤ limit := by simp [HasRoom]

/-- There is room for all of the pieces if there is for some, and then for the others. -/
theorem hasRoom_append {limit : Option Nat} {shown : Nat} {pieces more : List String} :
    HasRoom limit shown (pieces ++ more) ↔
      HasRoom limit shown pieces ∧ HasRoom limit (shown + size pieces) more := by
  simp only [HasRoom, size_append, ← Nat.add_assoc]
  exact ⟨fun h => ⟨fun n hn => Nat.le_trans (Nat.le_add_right _ _) (h n hn), h⟩, fun h => h.2⟩

/-- Where `shown` bytes are shown already and there is room for `limit` of them, `text` is made of the pieces before
the first one for which there is no room. -/
def Cut (limit shown : Nat) (pieces : List String) (text : String) : Prop :=
  ∃ before piece after, pieces = before ++ piece :: after ∧ text = String.join before ∧
    shown + size before ≤ limit ∧ limit < shown + size before + piece.utf8ByteSize

section

variable {limit shown : Nat} {pieces more : List String} {text : String}

theorem Cut.append (h : Cut limit shown pieces text) (more : List String) :
    Cut limit shown (pieces ++ more) text := by
  obtain ⟨before, piece, after, rfl, htext, hroom, hfull⟩ := h
  exact ⟨before, piece, after ++ more, by simp, htext, hroom, hfull⟩

theorem Cut.after (h : Cut limit (shown + size pieces) more text) :
    Cut limit shown (pieces ++ more) (String.join pieces ++ text) := by
  obtain ⟨before, piece, after, rfl, rfl, hroom, hfull⟩ := h
  refine ⟨pieces ++ before, piece, after, by simp, String.join_append.symm, ?_, ?_⟩ <;> rw [size_append] <;> omega

theorem Cut.prefix (h : Cut limit shown pieces text) : text.toList <+: (String.join pieces).toList := by
  obtain ⟨before, piece, after, rfl, rfl, -⟩ := h
  rw [String.join_append, String.toList_append]
  exact List.prefix_append ..

end

/-! ### Carrying out actions -/

section

variable {limit shown : Nat} {actions : List Action}

/-- A piece is taken if there is room for it. -/
theorem write?_of_hasRoom {limit : Option Nat} {text : String} (h : HasRoom limit shown [text]) :
    ({ limit, shown } : Screen).write? text = some { limit, shown := shown + text.utf8ByteSize } := by
  cases limit with
  | none => rfl
  | some limit =>
    rw [hasRoom_some, size_cons, size_nil] at h
    simpa [Screen.write?] using h

/-- Where there is room for all pieces, all are written. -/
theorem perform_of_hasRoom {limit : Option Nat} (h : HasRoom limit shown (actions.filterMap Action.text?)) :
    perform { limit, shown } actions =
      { screen := { limit, shown := shown + size (actions.filterMap Action.text?) }
        text := String.join (actions.filterMap Action.text?), flushes := actions.count .flush } := by
  induction actions generalizing shown with
  | nil => rfl
  | cons action actions ih =>
    cases action with
    | flush =>
      rw [perform, ih h, List.count_cons_self]
      rfl
    | write text =>
      have htexts : (Action.write text :: actions).filterMap Action.text? =
          [text] ++ actions.filterMap Action.text? := rfl
      have hsize : size [text] = text.utf8ByteSize := by simp
      rw [htexts] at h ⊢
      obtain ⟨hone, hrest⟩ := hasRoom_append.1 h
      rw [hsize] at hrest
      rw [perform, write?_of_hasRoom hone, size_append, hsize, ← Nat.add_assoc, String.join_append]
      simp only [ih hrest, String.join_cons, String.join_nil, String.append_empty]
      rfl

/-- Where there is no room for all of them, a piece is refused, and what is written are the pieces before it. -/
theorem perform_of_no_room (hshown : shown ≤ limit)
    (h : limit < shown + size (actions.filterMap Action.text?)) :
    (perform { limit := some limit, shown } actions).refused = true ∧
      Cut limit shown (actions.filterMap Action.text?) (perform { limit := some limit, shown } actions).text := by
  induction actions generalizing shown with
  | nil => exact absurd hshown (Nat.not_le.2 h)
  | cons action actions ih =>
    cases action with
    | flush => exact ih hshown h
    | write text =>
      have htexts : (Action.write text :: actions).filterMap Action.text? =
          [text] ++ actions.filterMap Action.text? := rfl
      rw [htexts] at h ⊢
      by_cases hroom : shown + text.utf8ByteSize ≤ limit
      · have hsize : size [text] = text.utf8ByteSize := by simp
        rw [size_append, hsize, ← Nat.add_assoc] at h
        obtain ⟨hrefused, hcut⟩ := ih hroom h
        rw [perform, write?_of_hasRoom (hasRoom_some.2 (hsize ▸ hroom))]
        refine ⟨hrefused, ?_⟩
        rw [← hsize] at hcut
        simpa using hcut.after
      · have hrefused : ({ limit := some limit, shown } : Screen).write? text = none := by
          simp [Screen.write?, hroom]
        rw [perform, hrefused]
        exact ⟨rfl, [], text, _, rfl, rfl, by simpa using hshown, by simpa using Nat.not_le.1 hroom⟩

end

/-! ### Reading keys -/

/-- The pieces of text that the editor has to write in answer to what is read, up to the key that ends the line. -/
def written (setting : Setting) : State → List KeyRead → List String
  | _, [] => []
  | _, .error _ :: _ => []
  | state, .ok key :: reads =>
    (react setting state key).texts ++
      if (react setting state key).outcome.isSome then []
      else written setting (react setting state key).state reads

/-- The pieces of text of a whole call, beginning with the prompt. -/
def writtenInCall (terminal : Terminal) (setting : Setting) (events : List Event) : List String :=
  if terminal.enableFault.isSome then []
  else setting.prompt :: written setting { cursor := setting.history.length } (Key.readAll events)

/-- What is written after the prompt. -/
def Course.output (course : Course) : String := String.join (course.echoes.map (·.shown))

/-- What a call writes. -/
def Call.output (call : Call) : String := call.promptShown ++ String.join (call.echoes.map (·.shown))

section

variable {setting : Setting} {state : State} {events rest : List Event} {key : Key} {shown : Nat}

theorem isEnd_of_outcome (hout : (react setting state key).outcome = none) : Key.isEnd (.ok key) = false := by
  have hne := ne_endOfInput_of_outcome hout
  cases key <;> simp_all [Key.isEnd]

/-- Keys are read until a read fails or a key ends the line, whatever the screen takes. -/
@[elab_as_elim]
theorem reading_induction {motive : State → List Event → Prop} (setting : Setting)
    (error : ∀ state events message rest, Key.read events = (.error message, rest) → motive state events)
    (last : ∀ state events key rest outcome, Key.read events = (.ok key, rest) →
      (react setting state key).outcome = some outcome → motive state events)
    (next : ∀ state events key rest, Key.read events = (.ok key, rest) →
      (react setting state key).outcome = none → motive (react setting state key).state rest →
        motive state events)
    (state : State) (events : List Event) : motive state events := by
  induction events using Key.readAll.induct generalizing state with
  | case1 events ih =>
    match hread : Key.read events with
    | (.error message, rest) => exact error state events message rest hread
    | (.ok key, rest) =>
      match hout : (react setting state key).outcome with
      | some outcome => exact last state events key rest outcome hread hout
      | none =>
        have hend : ¬ Key.isEnd (Key.read events).1 = true := by
          rw [hread, isEnd_of_outcome hout]
          exact Bool.false_ne_true
        have hnext := ih hend (react setting state key).state
        rw [hread] at hnext
        exact next state events key rest hread hout hnext

theorem written_of_error {message : String} (hread : Key.read events = (.error message, rest)) :
    written setting state (Key.readAll events) = [] := by
  rw [Key.readAll, hread, written]

theorem written_of_outcome {outcome : Outcome} (hread : Key.read events = (.ok key, rest))
    (hout : (react setting state key).outcome = some outcome) :
    written setting state (Key.readAll events) = (react setting state key).texts := by
  rw [Key.readAll, hread, written, hout]
  exact List.append_nil _

theorem written_of_none (hread : Key.read events = (.ok key, rest))
    (hout : (react setting state key).outcome = none) :
    written setting state (Key.readAll events) =
      (react setting state key).texts ++ written setting (react setting state key).state (Key.readAll rest) := by
  rw [Key.readAll, hread, dif_neg (by rw [isEnd_of_outcome hout]; exact Bool.false_ne_true), written, hout]
  rfl

theorem output_after (course : Course) (echo : Echo) (flushes : Nat) :
    (course.after echo flushes).output = echo.shown ++ course.output :=
  String.join_cons

theorem output_of_echoes {course : Course} {echo : Echo} (h : course.echoes = [echo]) :
    course.output = echo.shown := by
  simp [Course.output, h]

/-- Where there is room for all that is written, it is written. -/
theorem output_run_of_hasRoom {limit : Option Nat}
    (h : HasRoom limit shown (written setting state (Key.readAll events))) :
    (run setting { limit, shown } state events).output = String.join (written setting state (Key.readAll events)) := by
  induction state, events using reading_induction setting generalizing shown with
  | error state events message rest hread =>
    rw [run_of_error hread, written_of_error hread]
    rfl
  | last state events key rest outcome hread hout =>
    rw [written_of_outcome hread hout] at h ⊢
    have hperform := perform_of_hasRoom h
    rw [run_of_outcome hread (by rw [hperform]) hout, output_of_echoes rfl, hperform]
    rfl
  | next state events key rest hread hout ih =>
    rw [written_of_none hread hout] at h ⊢
    obtain ⟨hfirst, hrest⟩ := hasRoom_append.1 h
    have hperform := perform_of_hasRoom hfirst
    rw [run_of_none hread (by rw [hperform]) hout, output_after, hperform, String.join_append]
    exact congrArg _ (ih hrest)

/-- Where there is room for all that is written, the limit makes no difference. -/
theorem run_of_hasRoom {limit : Option Nat}
    (h : HasRoom limit shown (written setting state (Key.readAll events))) :
    ∃ screen, run setting { limit, shown } state events = { run setting { shown } state events with screen } := by
  induction state, events using reading_induction setting generalizing shown with
  | error state events message rest hread => exact ⟨_, by rw [run_of_error hread, run_of_error hread]⟩
  | last state events key rest outcome hread hout =>
    rw [written_of_outcome hread hout] at h
    have hperform := perform_of_hasRoom h
    have hfree := perform_of_hasRoom (hasRoom_none shown (react setting state key).texts)
    rw [run_of_outcome hread (by rw [hperform]) hout, run_of_outcome hread (by rw [hfree]) hout, hperform, hfree]
    exact ⟨_, rfl⟩
  | next state events key rest hread hout ih =>
    rw [written_of_none hread hout] at h
    obtain ⟨hfirst, hrest⟩ := hasRoom_append.1 h
    have hperform := perform_of_hasRoom hfirst
    have hfree := perform_of_hasRoom (hasRoom_none shown (react setting state key).texts)
    obtain ⟨screen, hscreen⟩ := ih hrest
    rw [run_of_none hread (by rw [hperform]) hout, run_of_none hread (by rw [hfree]) hout, hperform, hfree]
    have hafter := congrArg (fun course : Course => course.after
      ⟨.ok key, String.join (react setting state key).texts⟩
      ((react setting state key).actions.count Action.flush)) hscreen
    exact ⟨screen, hafter⟩

/-- Where there is no room for all of it, the line fails for that reason, and what is written are the pieces before
the one that is refused. -/
theorem run_of_no_room {limit : Nat} (hshown : shown ≤ limit)
    (h : limit < shown + size (written setting state (Key.readAll events))) :
    (run setting { limit := some limit, shown } state events).result = .error { cause := .screenFull } ∧
      Cut limit shown (written setting state (Key.readAll events))
        (run setting { limit := some limit, shown } state events).output := by
  induction state, events using reading_induction setting generalizing shown with
  | error state events message rest hread =>
    rw [written_of_error hread] at h
    exact absurd hshown (Nat.not_le.2 h)
  | last state events key rest outcome hread hout =>
    rw [written_of_outcome hread hout] at h ⊢
    obtain ⟨hrefused, hcut⟩ := perform_of_no_room hshown h
    rw [run_of_refused hread hrefused, output_of_echoes rfl]
    exact ⟨rfl, hcut⟩
  | next state events key rest hread hout ih =>
    rw [written_of_none hread hout] at h ⊢
    by_cases hroom : shown + size (react setting state key).texts ≤ limit
    · have hperform := perform_of_hasRoom (hasRoom_some.2 hroom)
      rw [size_append, ← Nat.add_assoc] at h
      obtain ⟨hresult, hcut⟩ := ih hroom h
      rw [run_of_none hread (by rw [hperform]) hout, output_after, hperform]
      exact ⟨hresult, hcut.after⟩
    · obtain ⟨hrefused, hcut⟩ := perform_of_no_room hshown (Nat.not_le.1 hroom)
      rw [run_of_refused hread hrefused, output_of_echoes rfl]
      exact ⟨rfl, hcut.append _⟩

/-- Where there is room for the prompt, keys are read after it. -/
theorem readLine_of_hasRoom {terminal : Terminal} (hterminal : terminal.enableFault = none) {limit : Option Nat}
    (h : HasRoom limit shown [setting.prompt]) (events : List Event) :
    let course := run setting { limit, shown := shown + size [setting.prompt] }
      { cursor := setting.history.length } events
    readLine terminal setting { limit, shown } events =
      { modeCalls := [.enable, .disable], promptShown := setting.prompt, echoes := course.echoes
        result := course.result, flushes := 1 + course.flushes, screen := course.screen, rest := course.rest } := by
  have htexts : [Action.write setting.prompt, .flush].filterMap Action.text? = [setting.prompt] := rfl
  have hperform : perform { limit, shown } [.write setting.prompt, .flush] =
      { screen := { limit, shown := shown + size [setting.prompt] }, text := String.join [setting.prompt]
        flushes := 1 } := by
    rw [← htexts] at h ⊢
    exact perform_of_hasRoom h
  have hjoin : String.join [setting.prompt] = setting.prompt := by simp
  rw [hjoin] at hperform
  rw [readLine, hterminal]
  simp only [hperform]
  rfl

/-- Where there is none, the call fails before any key is read. -/
theorem readLine_of_no_room {terminal : Terminal} (hterminal : terminal.enableFault = none) {limit : Nat}
    (hshown : shown ≤ limit) (h : limit < shown + size [setting.prompt]) (events : List Event) :
    (readLine terminal setting { limit := some limit, shown } events).result = .error { cause := .screenFull } ∧
      Cut limit shown [setting.prompt] (readLine terminal setting { limit := some limit, shown } events).output := by
  have htexts : [Action.write setting.prompt, .flush].filterMap Action.text? = [setting.prompt] := rfl
  rw [← htexts] at h ⊢
  obtain ⟨hrefused, hcut⟩ := perform_of_no_room hshown h
  rw [readLine, hterminal]
  simp only [hrefused, if_true]
  refine ⟨trivial, ?_⟩
  simpa only [Call.output, List.map_nil, String.join_nil, String.append_empty] using hcut

end

/-- How a call on a screen that has room for so many bytes compares with the same call on one that takes everything.
The pieces are those that the call has to write. -/
structure Call.Curtails (call : Call) (pieces : List String) (room : Nat) (free : Call) : Prop where
  /-- A screen without a limit shows all of the pieces. -/
  full : free.output = String.join pieces
  /-- What is written is the beginning of that. -/
  output : call.output.toList <+: free.output.toList
  /-- If there is room for all of it, the calls differ in nothing but the screen. -/
  roomy : free.output.utf8ByteSize ≤ room → call = { free with screen := call.screen }
  /-- If there is not, the call fails for that reason, and writes the pieces before the first one for which there is
  no room, and nothing after them. -/
  cut : room < free.output.utf8ByteSize →
    (∃ failure : Failure, call.result = .error failure ∧ failure.message = "screen full") ∧
    ∃ before piece after, pieces = before ++ piece :: after ∧ call.output = String.join before ∧
      call.output.utf8ByteSize ≤ room ∧ room < (call.output ++ piece).utf8ByteSize

theorem Cut.curtails {pieces : List String} {shown room : Nat} {free call : Call}
    (hfree : free.output = String.join pieces) (hresult : call.result = .error { cause := .screenFull })
    (h : Cut (shown + room) shown pieces call.output) : call.Curtails pieces room free := by
  have hlt : room < free.output.utf8ByteSize := by
    obtain ⟨before, piece, after, rfl, -, -, hfull⟩ := h
    rw [hfree]
    change room < size _
    simp only [size_append, size_cons]
    omega
  refine ⟨hfree, hfree ▸ h.prefix, fun hle => absurd hlt (Nat.not_lt.2 hle), fun _ => ⟨⟨_, hresult, rfl⟩, ?_⟩⟩
  obtain ⟨before, piece, after, hpieces, houtput, hroom, hfull⟩ := h
  refine ⟨before, piece, after, hpieces, houtput, ?_, ?_⟩
  · rw [houtput]
    change size before ≤ room
    omega
  · rw [houtput, String.utf8ByteSize_append]
    change room < size before + _
    omega

theorem writtenInCall_of_fault {terminal : Terminal} {cause : Cause} (h : terminal.enableFault = some cause)
    (setting : Setting) (events : List Event) : writtenInCall terminal setting events = [] := by
  rw [writtenInCall, h]
  rfl

theorem writtenInCall_of_enabled {terminal : Terminal} (h : terminal.enableFault = none) (setting : Setting)
    (events : List Event) : writtenInCall terminal setting events =
      [setting.prompt] ++ written setting { cursor := setting.history.length } (Key.readAll events) := by
  rw [writtenInCall, h]
  rfl

/-- A screen without a limit shows all that a call has to write. -/
theorem output_readLine_unlimited (terminal : Terminal) (setting : Setting) (shown : Nat) (events : List Event) :
    (readLine terminal setting { shown } events).output = String.join (writtenInCall terminal setting events) := by
  cases hterminal : terminal.enableFault with
  | some cause =>
    rw [writtenInCall_of_fault hterminal, readLine, hterminal]
    rfl
  | none =>
    rw [writtenInCall_of_enabled hterminal, readLine_of_hasRoom hterminal (hasRoom_none _ _), String.join_append,
      String.join_cons, String.join_nil, String.append_empty]
    exact congrArg _ (output_run_of_hasRoom (hasRoom_none _ _))

/-- **No refusal of the screen is passed over.** What a screen with little room shows is the beginning of what a
screen without a limit shows. If that is all of it, the call is the same; if not, the call fails since the screen is
full, and nothing is written after the first piece for which there is no room. -/
theorem readLine_curtailed (terminal : Terminal) (setting : Setting) (shown room : Nat) (events : List Event) :
    (readLine terminal setting { limit := some (shown + room), shown } events).Curtails
      (writtenInCall terminal setting events) room (readLine terminal setting { shown } events) := by
  have hfree := output_readLine_unlimited terminal setting shown events
  cases hterminal : terminal.enableFault with
  | some cause =>
    rw [writtenInCall_of_fault hterminal, readLine, readLine, hterminal]
    exact ⟨rfl, List.prefix_rfl, fun _ => rfl, fun hlt => absurd hlt (Nat.not_lt_zero _)⟩
  | none =>
    have hpieces := writtenInCall_of_enabled hterminal setting events
    by_cases hprompt : shown + size [setting.prompt] ≤ shown + room
    · have hcall := readLine_of_hasRoom hterminal (hasRoom_some.2 hprompt) events
      by_cases hroom : shown + size [setting.prompt] +
          size (written setting { cursor := setting.history.length } (Key.readAll events)) ≤ shown + room
      · obtain ⟨screen, hscreen⟩ := run_of_hasRoom (hasRoom_some.2 hroom)
        have hsame : readLine terminal setting { limit := some (shown + room), shown } events =
            { readLine terminal setting { shown } events with screen } := by
          rw [hcall, readLine_of_hasRoom hterminal (hasRoom_none _ _), hscreen]
        have hfits : (readLine terminal setting { shown } events).output.utf8ByteSize ≤ room := by
          rw [hfree, hpieces]
          change size _ ≤ room
          rw [size_append]
          omega
        rw [hsame]
        exact ⟨hfree, List.prefix_rfl, fun _ => rfl, fun hlt => absurd hfits (Nat.not_le.2 hlt)⟩
      · obtain ⟨hresult, hcut⟩ := run_of_no_room hprompt (Nat.not_le.1 hroom)
        have hafter := hcut.after
        rw [String.join_cons, String.join_nil, String.append_empty, ← hpieces] at hafter
        rw [hcall]
        exact hafter.curtails hfree hresult
    · obtain ⟨hresult, hcut⟩ := readLine_of_no_room hterminal (Nat.le_add_right ..) (Nat.not_le.1 hprompt) events
      have hmore := hcut.append (written setting { cursor := setting.history.length } (Key.readAll events))
      rw [← hpieces] at hmore
      exact hmore.curtails hfree hresult

-- The earlier line is shown afresh in three pieces, of which the second one is refused.
example : (readLine {} { history := ["ls"] } { limit := some 7 } (Event.ofBytes [0x1B, 0x5B, 0x41])).output =
    "$ \x0d\x1b[K" := by
  decide +kernel

end LineShell.Editor
