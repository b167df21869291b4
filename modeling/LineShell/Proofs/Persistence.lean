import LineShell.Proofs.EnteredLines
import LineShell.Proofs.HistoryFormat
import LineShell.Proofs.HistoryKept

/-!
# The history lasts from one session to the next

What a session has kept in its history file is what the next one starts with, entry for entry, however the
session ended.

## The model

`Shell.linesRun` lists the lines that a session runs. Entries stay storable (`IsStorable`) from line to line,
since entered lines are unbroken, blank ones are not remembered, and running a line adds nothing; then the
file gives back what was saved in it.
-/

namespace LineShell

open Text (IsUnbroken isBlankText)

/-- Entries that can be kept in a file: they are unbroken, and none of them is blank. -/
def History.IsStorable (entries : List String) : Prop :=
  ∀ e ∈ entries, IsUnbroken e ∧ isBlankText e = false

/-- The reader gives unbroken lines where the history is made of such lines, and leaves the history alone. -/
def LineReader.GivesUnbroken (reader : LineReader σ) : Prop :=
  ∀ (history : List String) (s : σ) (world : World), (∀ e ∈ history, IsUnbroken e) →
    (reader history s world).2.entries = world.entries ∧
      ∀ line, (reader history s world).1.1 = .ok (some line) → IsUnbroken line

theorem LineReader.lineOf_eq_line {result : Editor.Result} {line : String}
    (h : lineOf result = .ok (some line)) : result = .ok (.line line) := by
  unfold lineOf at h
  split at h
  · rw [Option.some.inj (Except.ok.inj h)]
  · cases h
  · cases h

/-- A reader of keys gives unbroken lines if the candidates for completion are unbroken. -/
theorem LineReader.givesUnbroken_ofKeys {completer : Completer}
    (hcompleter : ∀ buffer, ∀ candidate ∈ completer buffer, IsUnbroken candidate) (prompt : String) :
    (ofKeys prompt completer).GivesUnbroken := by
  intro history typing world hhistory
  refine ⟨rfl, fun line hline => ?_⟩
  change lineOf (Editor.readLine {} { prompt, history, completer } {} typing.events).result = _ at hline
  refine Editor.isUnbroken_readLine ⟨hhistory, hcompleter⟩ (lineOf_eq_line hline)

namespace Shell

variable {σ : Type} {shell : Shell} {reader : LineReader σ}

/-- The lines that a session runs, each with the world in which it is run. -/
def linesRun (shell : Shell) (reader : LineReader σ) : Nat → σ → World → List (String × World)
  | 0, _, _ => []
  | count + 1, s, world =>
    match reader world.entries s world with
    | ((.ok (some line), s), world) =>
      let before := (remember line world).2
      let after := (shell.route line before).2
      (line, before) ::
        if after.exitRequest.isSome || after.isGone then [] else linesRun shell reader count s after
    | _ => []

section

variable {count : Nat} {status : Int} {s s' : σ} {world world' : World}

theorem bind_run {α β : Type} (op : StateT σ Run α) (f : α → StateT σ Run β) (s : σ) (world : World) :
    (op >>= f) s world = f (op s world).1.1 (op s world).1.2 (op s world).2 :=
  rfl

theorem lift_run {α : Type} (op : Run α) (s : σ) (world : World) :
    (liftM op : StateT σ Run α) s world = (((op world).1, s), (op world).2) :=
  rfl

/-- What a session does is decided by what it reads. -/
theorem loop_of_read {result : Except Failure (Option String)} :
    reader world.entries s world = ((result, s'), world') →
    shell.loop reader (count + 1) status s world =
      match result with
      | .ok none => ((status, s'), world')
      | .error failure =>
        let noted := (World.note .error .interpreter s!"reading input: {failure.report}" world').2
        ((Status.failure, s'), (World.say shell.streams.stderr s!"minishell: {failure.message}\n" noted).2)
      | .ok (some line) =>
        let (status, after) := shell.route line (remember line world').2
        match after.exitRequest with
        | some code => ((code, s'), after)
        | none => if after.isGone then ((status, s'), after) else shell.loop reader count status s' after := by
  intro h
  have hread : reader world.history.entries s world = ((result, s'), world') := h
  have hget (s : σ) (world : World) : (getThe World : StateT σ Run World) s world = ((world, s), world) := rfl
  simp only [loop, bind_run, hget, hread]
  cases result with
  | error failure => rfl
  | ok line? =>
    cases line? with
    | none => rfl
    | some line =>
      cases hbefore : remember line world' with | mk _ before
      cases hroute : shell.route line before with | mk status after
      simp only [bind_run, lift_run, hget, hbefore, hroute]
      cases after.exitRequest with
      | some code => rfl
      | none =>
        dsimp only
        split <;> rfl

/-- A line that is remembered is not blank. -/
theorem isStorable_remember (hworld : History.IsStorable world.entries) {line : String} (hline : IsUnbroken line) :
    History.IsStorable (remember line world).2.entries := by
  unfold remember
  split
  · exact hworld
  · next hblank =>
    intro e he
    obtain he | rfl : e ∈ world.entries ∨ e = line := by
      simpa [World.entries, History.push] using List.mem_append.1 he
    · exact hworld e he
    · exact ⟨hline, Bool.not_eq_true _ ▸ hblank⟩

/-- Whatever lines a session runs, its entries stay storable, as long as none of the lines reads a file into
the history. -/
theorem isStorable_loop (hshell : shell.KeepsLinesButHistory) (hreader : reader.GivesUnbroken)
    (hworld : History.IsStorable world.entries)
    (hlines : ∀ run ∈ shell.linesRun reader count s world, shell.readsHistory run.1 run.2 = false) :
    History.IsStorable (shell.loop reader count status s world).2.entries := by
  induction count generalizing status s world with
  | zero => exact hworld
  | succ count ih =>
    obtain ⟨hkeeps, hunbroken⟩ := hreader world.entries s world fun e he => (hworld e he).1
    cases hread : reader world.entries s world with | mk result later
    obtain ⟨result, s'⟩ := result
    rw [hread] at hkeeps hunbroken
    rw [loop_of_read hread]
    have hlater : History.IsStorable later.entries := by rwa [hkeeps]
    cases result with
    | error failure =>
      have hkept := ((World.note_keeps .error .interpreter s!"reading input: {failure.report}").bind
        fun _ => World.say_keeps shell.streams.stderr s!"minishell: {failure.message}\n").entries later
      exact hkept.symm ▸ hlater
    | ok line? =>
      cases line? with
      | none => exact hlater
      | some line =>
        have hbefore := isStorable_remember hlater (hunbroken line rfl)
        rw [linesRun, hread] at hlines
        obtain ⟨hline, hrest⟩ := List.forall_mem_cons.1 hlines
        have hafter := keepsFrom_route hshell hline
        dsimp only
        cases hroute : shell.route line (remember line later).2 with | mk status' after
        rw [KeepsFrom, hroute] at hafter
        rw [hroute] at hrest
        have hafter' : History.IsStorable after.entries := hafter ▸ hbefore
        cases hexit : after.exitRequest with
        | some code => simpa only [hexit] using hafter'
        | none =>
          by_cases hgone : after.isGone = true
          · simpa only [hexit, hgone, if_true] using hafter'
          · rw [hexit, Option.isSome_none, Bool.false_or, if_neg hgone] at hrest
            simpa only [hexit, hgone, Bool.false_eq_true, if_false] using ih hafter' hrest

/-! ### Loading and saving -/

theorem entries_loadHistory (shell : Shell) (world : World) :
    (shell.loadHistory world).2.entries =
      match shell.histfile.filter (world.files.exists? world.cwd) with
      | none => world.entries
      | some path =>
        match world.history.load world.files world.cwd path with
        | .ok (history, _) => history.entries
        | .error _ => world.entries := by
  unfold loadHistory
  simp only [bind, StateT.bind, MonadState.get, getThe, MonadStateOf.get, StateT.get, pure]
  cases shell.histfile.filter (world.files.exists? world.cwd) with
  | none => rfl
  | some path =>
    dsimp only
    cases world.history.load world.files world.cwd path with
    | error failure => exact (World.note_keeps _ _ _).entries world
    | ok result => exact (World.note_keeps _ _ _).entries { world with history := result.1 }

/-- Entries that were loaded are not blank. -/
theorem mem_entries_loadHistory {e : String} (h : e ∈ (shell.loadHistory world).2.entries) :
    e ∈ world.entries ∨ isBlankText e = false := by
  rw [entries_loadHistory] at h
  split at h
  · exact .inl h
  · split at h
    · next history n hload =>
      obtain ⟨text, hentries⟩ := History.entries_of_load hload
      rw [hentries, List.mem_append] at h
      exact h.imp_right History.isBlankText_of_mem_parse
    · exact .inl h

section

variable {path : String}

theorem entries_loadHistory_of_stat (hpath : shell.histfile = some path) {text : String} {mode : Nat}
    (hreads : mode &&& Node.readBit ≠ 0)
    (hstat : world.files.stat world.cwd path = .ok (.regular (Text.encode text).toByteArray mode)) :
    (shell.loadHistory world).2.entries = world.entries ++ History.parse text := by
  have hfile : shell.histfile.filter (world.files.exists? world.cwd) = some path := by
    simp [hpath, FileSystem.exists?, hstat, Except.isOk, Except.toBool]
  rw [entries_loadHistory, hfile]
  simp only [History.load_of_stat hreads hstat, World.entries]

/-- Where saving succeeds, nothing but files changes. -/
theorem saveHistory_of_save (hpath : shell.histfile = some path) (hgone : world.isGone = false) {fs : FileSystem}
    (hsave : world.history.save world.files world.cwd path = (.ok (), fs)) :
    shell.saveHistory world = ((), world.withFiles fs) := by
  have hfile : shell.histfile.filter (fun _ => ! world.isGone) = some path := by
    simp [hpath, hgone]
  unfold saveHistory
  simp only [bind, StateT.bind, MonadState.get, getThe, MonadStateOf.get, StateT.get, pure, hfile, hsave]
  rfl

theorem saveHistory_of_canKeep (hpath : shell.histfile = some path) (hgone : world.isGone = false)
    (hkeep : History.canKeep world.files world.cwd path = true) :
    (shell.saveHistory world).2.entries = world.entries ∧ (shell.saveHistory world).2.cwd = world.cwd ∧
      ∃ mode, mode &&& Node.readBit ≠ 0 ∧ (shell.saveHistory world).2.files.stat world.cwd path =
        .ok (.regular (Text.encode (History.render world.entries)).toByteArray mode) := by
  obtain ⟨fs, mode, hsave, hreads, hstat⟩ := History.save_of_canKeep hkeep world.history
  rw [saveHistory_of_save hpath hgone hsave]
  exact ⟨rfl, rfl, mode, hreads, hstat⟩

/-! ### From one session to the next -/

/-- **The history lasts.** Let a session start with a history that was loaded, and read keys whose lines do
not read a file into the history; entries to start with and candidates for completion shall be unbroken. If
the shell is still there when the session ends, and can keep its history in a file, then whoever loads that
file next has just the entries of this session. -/
theorem entries_last {prompt : String} {completer : Completer} {before : World} {events : List Event}
    {bound : Nat} (hpath : shell.histfile = some path) (habsolute : Path.isAbsolute path = true)
    (hshell : shell.KeepsLinesButHistory)
    (hcompleter : ∀ line, ∀ candidate ∈ completer line, IsUnbroken candidate)
    (hbefore : ∀ e ∈ before.entries, isBlankText e = false)
    (hstart : ∀ e ∈ (shell.loadHistory before).2.entries, IsUnbroken e)
    (hlines : ∀ run ∈ shell.linesRun (.ofKeys prompt completer) bound { events }
      (shell.loadHistory before).2, shell.readsHistory run.1 run.2 = false) :
    let ended := (shell.loop (.ofKeys prompt completer) bound 0 { events } (shell.loadHistory before).2).2
    let final := (shell.session (.ofKeys prompt completer) bound { events } (shell.loadHistory before).2).2
    ended.isGone = false → History.canKeep ended.files ended.cwd path = true →
    ∀ (next : Shell) (later : World), next.histfile = some path → later.entries = [] →
      later.files.stat FileSystem.root path = final.files.stat FileSystem.root path →
      (next.loadHistory later).2.entries = final.entries := by
  intro ended final hgone hkeep next later hnext hlater hfile
  have hstarted : History.IsStorable (shell.loadHistory before).2.entries := fun e he =>
    ⟨hstart e he, (mem_entries_loadHistory he).elim (hbefore e) id⟩
  have hstorable : History.IsStorable ended.entries :=
    isStorable_loop hshell (LineReader.givesUnbroken_ofKeys hcompleter prompt) hstarted hlines
  have hfinal : final = (shell.saveHistory ended).2 := rfl
  obtain ⟨hentries, hcwd, mode, hreads, hstat⟩ := saveHistory_of_canKeep hpath hgone hkeep
  have hread : later.files.stat later.cwd path =
      .ok (.regular (Text.encode (History.render ended.entries)).toByteArray mode) := by
    rw [History.stat_of_isAbsolute habsolute later.cwd FileSystem.root, hfile, hfinal,
      History.stat_of_isAbsolute habsolute FileSystem.root ended.cwd, hstat]
  rw [entries_loadHistory_of_stat hnext hreads hread, hlater, List.nil_append, hfinal, hentries]
  exact History.parse_render (fun e he => (hstorable e he).1) fun e he => (hstorable e he).2

/-- A shell that keeps its history at a path. -/
def keeping (path : String) : Shell := { streams := { stdin := 0, stdout := 0, stderr := 0 }, histfile := some path }

/-- A world with one thing in its file system, and memory for what the shell writes. -/
def worldWith (path : String) (item : FileSystem.Item) : World :=
  { World.withFiles {} (FileSystem.install {} FileSystem.root path item) with sinks := #[.memory [] none] }

/-- A session that recalls the entry it has loaded, and whose last line has no end. -/
theorem entries_last_recalled :
    let events := Event.ofBytes (Text.encode "\x1b[A\ré")
    let before := worldWith "/h" (.regular (Text.encode "ls\n"))
    let started := ((keeping "/h").loadHistory before).2
    let final := ((keeping "/h").session (.ofKeys "$ " fun _ => []) 3 { events } started).2
    started.entries = ["ls"] ∧ final.entries = ["ls", "ls", "é"] ∧
      ((keeping "/h").loadHistory (before.withFiles final.files)).2.entries = final.entries := by
  refine ⟨by decide +kernel, by decide +kernel, ?_⟩
  exact entries_last rfl (by decide) (keepsLinesButHistory_defaults rfl) (by simp) (by decide +kernel)
    (by decide +kernel) (by decide +kernel) (by decide +kernel) (by decide +kernel) _ _ rfl
    (by decide +kernel) rfl

/-- On a device that holds nothing a history does not last, although it can be saved there. -/
theorem entries_not_last_on_device :
    let reader := LineReader.ofKeys "$ " fun _ => []
    let events := Event.ofBytes (Text.encode "pwd\n")
    let before := worldWith "/dev/null" (.node (.device .null))
    let started := ((keeping "/dev/null").loadHistory before).2
    let ended := ((keeping "/dev/null").loop reader 9 0 { events } started).2
    let final := ((keeping "/dev/null").session reader 9 { events } started).2
    Path.isAbsolute "/dev/null" = true ∧ (keeping "/dev/null").KeepsLinesButHistory ∧ started.entries = [] ∧
      (∀ run ∈ (keeping "/dev/null").linesRun reader 9 { events } started,
        (keeping "/dev/null").readsHistory run.1 run.2 = false) ∧
      ended.isGone = false ∧ (ended.history.save ended.files ended.cwd "/dev/null").1.isOk = true ∧
      final.entries = ["pwd"] ∧
      ((keeping "/dev/null").loadHistory (before.withFiles final.files)).2.entries = [] :=
  ⟨by decide, keepsLinesButHistory_defaults rfl, by decide +kernel, by decide +kernel, by decide +kernel,
    by decide +kernel, by decide +kernel, by decide +kernel⟩

end

end

end Shell

end LineShell
