import LineShell.Proofs.Persistence

/-!
# Sessions from beginning to end

A session runs the lines that it reads, each once and in order, until the input ends, a reading fails or a
line asks to leave. What it shows to the reader, what it leaves in the history and in the history file, and
its status follow from the lines alone.

## The model

`Shell.course` says which lines of a row of readings a session runs, and why it closes. `LineReader.ofScript`
is a reader that follows such a row, and keeps what it was shown. A step of the loop is a step of the course
(`loop_ofScript`), and `enter` adds a line to the history unless it is blank (`entries_enter`).
-/

namespace LineShell

open Text (isBlankText)

/-- What a reading comes to: a line, the end of the input, or a failure. -/
abbrev Reading := Except Failure (Option String)

namespace LineReader

/-- Readings to come, and the histories that were shown at those that took place. -/
structure Script where
  /-- The readings to come. The input ends after them. -/
  coming : List Reading
  /-- The histories that were shown, first one first. -/
  shown : List (List String) := []
  deriving DecidableEq

/-- Follows a script. -/
def ofScript : LineReader Script := fun history => do
  let script ← getThe Script
  set { coming := script.coming.tail, shown := script.shown ++ [history] : Script }
  return script.coming.headD (.ok none)

end LineReader

namespace Shell

/-- Why a session closes. -/
inductive Close where
  /-- The input has ended. -/
  | endOfInput
  /-- A reading has failed. -/
  | failed (failure : Failure)
  /-- A line has asked to leave. -/
  | left (code : Int)
  deriving DecidableEq

namespace Close

/-- The status of a session that closes like this, by the status of its last line. -/
def status (last : Int) : Close → Int
  | endOfInput => last
  | failed _ => Status.failure
  | left code => code

/-- How many readings took place in a session that ran some lines and closed like this. -/
def readings (lines : List String) : Close → Nat
  | endOfInput | failed _ => lines.length + 1
  | left _ => lines.length

/-- Tell about a failed reading. -/
def tell (shell : Shell) : Close → Run Unit
  | failed failure => do
    World.note .error .interpreter s!"reading input: {failure.report}"
    World.say shell.streams.stderr s!"minishell: {failure.message}\n"
  | endOfInput | left _ => pure ()

theorem tell_keeps (shell : Shell) (close : Close) : Keeps World.bearings (close.tell shell) := by
  cases close with
  | failed failure => exact (World.note_keeps _ _ _).bind fun _ => World.say_keeps _ _
  | endOfInput => exact Keeps.pure _
  | left code => exact Keeps.pure _

end Close

/-- Remember a line and run it. -/
def enter (shell : Shell) (line : String) : Run Int := do
  remember line
  shell.route line

/-- Enter lines, one after the other; gives the status of the last one. -/
def enterAll (shell : Shell) (lines : List String) (status : Int := 0) : Run Int :=
  lines.foldlM (fun _ line => shell.enter line) status

/-- The course of a session. -/
structure Course where
  /-- The lines that are run. -/
  lines : List String
  /-- Why the session closes. -/
  close : Close
  /-- The readings that do not take place. -/
  rest : List Reading
  deriving DecidableEq

/-- The course of a session that starts in a world and meets these readings. The lines are those before the
end of the input, a failure, or, that one included, a line that leaves a request to leave behind. -/
def course (shell : Shell) : World → List Reading → Course
  | _, [] => { lines := [], close := .endOfInput, rest := [] }
  | _, .ok none :: rest => { lines := [], close := .endOfInput, rest }
  | _, .error failure :: rest => { lines := [], close := .failed failure, rest }
  | world, .ok (some line) :: readings =>
    let after := (shell.enter line world).2
    match after.exitRequest with
    | some code => { lines := [line], close := .left code, rest := readings }
    | none =>
      let later := course shell after readings
      { later with lines := line :: later.lines }

section

variable {shell : Shell} {world : World} {line : String} {lines : List String} {readings : List Reading}

/-! ### Lines that are entered -/

theorem enterAll_nil (status : Int) : shell.enterAll [] status world = (status, world) := rfl

theorem enterAll_cons (status : Int) :
    shell.enterAll (line :: lines) status world =
      shell.enterAll lines (shell.enter line world).1 (shell.enter line world).2 :=
  rfl

/-- The status to start with matters to no line. -/
theorem enterAll_world (status : Int) :
    (shell.enterAll lines status world).2 = (shell.enterAll lines 0 world).2 := by
  cases lines <;> rfl

theorem entries_remember :
    (remember line world).2.entries = world.entries ++ [line].filter (! isBlankText ·) := by
  unfold remember
  split
  · next hblank =>
    change world.entries = _
    simp [hblank]
  · next hblank =>
    change world.entries ++ [line] = _
    simp [hblank]

/-- A line that reads no file into the history adds nothing but itself, and that only if it is not blank. -/
theorem entries_enter (hshell : shell.KeepsLinesButHistory)
    (hread : shell.readsHistory line (remember line world).2 = false) :
    (shell.enter line world).2.entries = world.entries ++ [line].filter (! isBlankText ·) :=
  (keepsFrom_route hshell hread).trans entries_remember

/-- None of some lines, entered one after the other, reads a file into the history. -/
def ReadNoHistory (shell : Shell) (world : World) (lines : List String) : Prop :=
  ∀ i (h : i < lines.length),
    shell.readsHistory lines[i] (remember lines[i] (shell.enterAll (lines.take i) 0 world).2).2 = false

instance : Decidable (shell.ReadNoHistory world lines) := Nat.decidableBallLT _ _

theorem ReadNoHistory.head (h : shell.ReadNoHistory world (line :: lines)) :
    shell.readsHistory line (remember line world).2 = false :=
  h 0 (Nat.zero_lt_succ _)

theorem ReadNoHistory.tail (h : shell.ReadNoHistory world (line :: lines)) :
    shell.ReadNoHistory (shell.enter line world).2 lines := by
  intro i hi
  have := h (i + 1) (Nat.succ_lt_succ hi)
  rwa [List.take_succ_cons, enterAll_cons, enterAll_world, List.getElem_cons_succ] at this

theorem entries_enterAll (hshell : shell.KeepsLinesButHistory) (hread : shell.ReadNoHistory world lines) (i : Nat) :
    (shell.enterAll (lines.take i) 0 world).2.entries =
      world.entries ++ (lines.take i).filter (! isBlankText ·) := by
  induction lines generalizing world i with
  | nil => simp [enterAll_nil]
  | cons line lines ih =>
    cases i with
    | zero => simp [enterAll_nil]
    | succ i =>
      rw [List.take_succ_cons, enterAll_cons, enterAll_world, ih hread.tail, entries_enter hshell hread.head,
        List.append_assoc, ← List.filter_append, List.singleton_append]

/-! ### The loop -/

/-- What a session has shown to its reader: the history before each reading. -/
def showings (shell : Shell) (world : World) (course : Course) : List (List String) :=
  (List.range (course.close.readings course.lines)).map fun i =>
    (shell.enterAll (course.lines.take i) 0 world).2.entries

theorem Close.readings_cons (close : Close) :
    close.readings (line :: lines) = close.readings lines + 1 := by
  cases close <;> rfl

theorem showings_cons (course : Course) :
    shell.showings world { course with lines := line :: course.lines } =
      world.entries :: shell.showings (shell.enter line world).2 course := by
  simp only [showings, Close.readings_cons, List.range_succ_eq_map, List.map_cons, List.map_map,
    List.take_zero, enterAll_nil]
  congr 1
  refine List.map_congr_left fun i _ => ?_
  rw [Function.comp_apply, List.take_succ_cons, enterAll_cons, enterAll_world]

/-- The loop follows the course of its readings, if it may go on for long enough and nobody puts an end to
the shell. The induction is on the readings; each of them is a round of the loop. -/
theorem loop_ofScript {bound : Nat} {status : Int} {shown : List (List String)} (hbound : readings.length < bound)
    (hthere : (shell.loop .ofScript bound status { coming := readings, shown } world).2.isGone = false) :
    let course := shell.course world readings
    let last := shell.enterAll course.lines status world
    shell.loop .ofScript bound status { coming := readings, shown } world =
      ((course.close.status last.1, { coming := course.rest, shown := shown ++ shell.showings world course }),
        (course.close.tell shell last.2).2) := by
  obtain ⟨bound, rfl⟩ := Nat.exists_eq_succ_of_ne_zero (Nat.ne_zero_of_lt hbound)
  induction readings generalizing bound status shown world with
  | nil => rfl
  | cons reading readings ih =>
    have hread : LineReader.ofScript world.entries { coming := reading :: readings, shown } world =
        ((reading, { coming := readings, shown := shown ++ [world.entries] }), world) := rfl
    rw [loop_of_read hread] at hthere ⊢
    match reading with
    | .ok none => rfl
    | .error failure => rfl
    | .ok (some line) =>
      cases henter : shell.enter line world with | mk status' after
      have hroute : shell.route line (remember line world).2 = (status', after) := henter
      simp only [hroute] at hthere ⊢
      simp only [course, henter]
      cases hexit : after.exitRequest with
      | some code =>
        simp only [enterAll_cons, enterAll_nil, henter]
        rfl
      | none =>
        simp only [hexit] at hthere
        cases hgone : after.isGone with
        | true => simp [hgone] at hthere
        | false =>
          simp only [hgone, Bool.false_eq_true, if_false] at hthere ⊢
          have hlength := Nat.lt_of_succ_lt_succ hbound
          obtain ⟨bound, rfl⟩ := Nat.exists_eq_succ_of_ne_zero (Nat.ne_zero_of_lt hlength)
          rw [ih _ hlength hthere, enterAll_cons, showings_cons, henter, List.append_assoc,
            List.singleton_append]

/-! ### Sessions -/

/-- Whether or not the history can be saved, it stays as it is. -/
theorem saveHistory_keeps (shell : Shell) : Keeps World.bearings shell.saveHistory := by
  refine Keeps.get_bind fun world => ?_
  split
  · rfl
  · cases world.history.save world.files world.cwd _ with | mk result files
    refine Keeps.set_bind (World.bearings_withFiles world files) ?_
    split
    · exact Keeps.pure _
    · exact (World.note_keeps _ _ _).bind fun _ => World.say_keeps _ _

/-- **A whole session.** Let a session follow a script, and let nobody put an end to the shell. It runs the
lines of its course, each once and in order, meets no reading after them, and gives the status of its close.
If none of the lines reads a file into the history, every reading is shown the lines before it that are not
blank, after those that were there at the start, and the history ends up with all of them. A file that can be
written for the history holds it in the end, whatever the close was. -/
theorem session_ofScript {bound : Nat} (hbound : readings.length < bound)
    (hthere : (shell.loop .ofScript bound 0 { coming := readings } world).2.isGone = false) :
    let course := shell.course world readings
    let last := shell.enterAll course.lines 0 world
    let ended := (course.close.tell shell last.2).2
    let final := (shell.saveHistory ended).2
    shell.session .ofScript bound { coming := readings } world =
        ((course.close.status last.1, { coming := course.rest, shown := shell.showings world course }), final) ∧
      (shell.KeepsLinesButHistory → shell.ReadNoHistory world course.lines →
        (shell.showings world course = (List.range (course.close.readings course.lines)).map fun i =>
          world.entries ++ (course.lines.take i).filter (! isBlankText ·)) ∧
        final.entries = world.entries ++ course.lines.filter (! isBlankText ·)) ∧
      ∀ path, shell.histfile = some path → History.canSave ended.files ended.cwd path = true →
        ∃ mode, final.files.stat ended.cwd path =
          .ok (.regular (Text.encode (History.render final.entries)).toByteArray mode) := by
  intro course last ended final
  have hloop : shell.loop .ofScript bound 0 { coming := readings } world =
      ((course.close.status last.1, { coming := course.rest, shown := shell.showings world course }), ended) :=
    loop_ofScript hbound hthere
  have hentries : final.entries = ended.entries := (saveHistory_keeps shell).entries ended
  refine ⟨?_, fun hshell hread => ⟨?_, ?_⟩, fun path hpath hsave => ?_⟩
  · rw [session, bind_run, hloop]
    rfl
  · exact List.map_congr_left fun i _ => entries_enterAll hshell hread i
  · have hall := entries_enterAll hshell hread course.lines.length
    rw [List.take_length] at hall
    rw [hentries, ← hall]
    exact (course.close.tell_keeps shell).entries last.2
  · have hgone : ended.isGone = false := by rwa [hloop] at hthere
    obtain ⟨fs, mode, hsaved, hstat⟩ := History.save_of_canSave hsave ended.history
    have hfinal : final = ended.withFiles fs := congrArg Prod.snd (saveHistory_of_save hpath hgone hsaved)
    exact ⟨mode, by rw [hentries, hfinal]; exact hstat⟩

/-- A session with a blank line in it that a line ends, and a history file that was there before. -/
theorem session_ofScript_left :
    let shell := keeping "/h"
    let readings := [.ok (some "pwd"), .ok (some "\u2003"), .ok (some "exit 4"), .ok (some "pwd")]
    let world := { worldWith "/h" (.regular (Text.encode "ls\n")) with history := { entries := ["ls"] } }
    let run := shell.session .ofScript 9 { coming := readings } world
    run.1 = (4, { coming := [.ok (some "pwd")], shown := [["ls"], ["ls", "pwd"], ["ls", "pwd"]] }) ∧
      run.2.entries = ["ls", "pwd", "exit 4"] ∧
      ∃ mode, run.2.files.stat FileSystem.root "/h" =
        .ok (.regular (Text.encode (History.render run.2.entries)).toByteArray mode) := by
  intro shell readings world run
  obtain ⟨hrun, hhistory, hfile⟩ :=
    @session_ofScript shell world readings 9 (by decide) (by decide +kernel)
  obtain ⟨-, hentries⟩ := hhistory (keepsLinesButHistory_defaults rfl) (by decide +kernel)
  obtain ⟨mode, hstat⟩ := hfile "/h" rfl (by decide +kernel)
  simp only [run, hrun]
  exact ⟨by decide +kernel, hentries.trans (by decide +kernel), mode,
    (History.stat_of_isAbsolute (by decide) _ _).trans hstat⟩

end

end Shell

end LineShell
