import LineShell.Proofs.BuiltinOutput
import LineShell.Proofs.HistoryKept
import LineShell.Proofs.OutputPipes

/-!
# Lines that leave a stream alone

Redirected output does not get to the streams of the shell: a line whose last stage has a target for its results
adds nothing to standard output, and a single command with a target for its messages adds nothing to standard
error, unless it breaks off. This holds whatever the line does otherwise, as long as the file behind the stream is
its own.

## The model

`Shell.Separate` says what is asked for: the stream is guarded, no target of the line leads to its file, and the
commands of the line write to their own streams only. `Shell.nodesOpened` lists where the targets lead. It depends
on the world in which the line runs, since a stage is not started if one before it stopped the pipeline, and since
commands may change the files on the way.
-/

namespace LineShell

open Script (Seal)

variable {σ : Seal} {s : Nat}

/-! ### Programs -/

namespace Shell

theorem flush_safe (streams : Streams) : Safe σ s (Shell.flush streams) :=
  (World.flush_safe _).bind fun _ _ => World.flush_safe _

theorem countWorkers_safe (workers : List Worker) : Safe σ s (countWorkers workers) :=
  .forM fun _ _ => World.newThread_safe.discard

/-- As a built-in one, a command writes only to the streams that it is given. -/
def Heeds (shell : Shell) (σ : Seal) (s : Nat) (name : String) (args : List String) : Prop :=
  ∀ command, shell.commands.get? name = some command → ∀ context : Context,
    context.streams.stdout ≠ s → context.streams.stderr ≠ s → Safe σ s (command args context)

/-- The usual built-in commands write only to the streams that they are given, unless `history` is asked to write a
file. -/
theorem heeds_defaults {shell : Shell} (hcommands : shell.commands = .ofList Builtin.defaults) {name : String}
    {args : List String} (h : name = "history" → Builtin.asksToWrite args = false) : shell.Heeds σ s name args :=
  fun _ hcommand _ hstdout hstderr =>
    Builtin.safe_of_mem_defaults hstdout hstderr (Registry.mem_of_get?_ofList (hcommands ▸ hcommand)) h

/-- The command of a stage, if it has one, writes only to the streams that it is given. -/
def HeedsStage (shell : Shell) (σ : Seal) (s : Nat) (words : List String) : Prop :=
  ∀ name args, (Invocation.ofWords words).words = name :: args → shell.Heeds σ s name args

/-- The program that a command starts on some streams, unless it is a built-in one. -/
def program? (shell : Shell) (name : String) (args : List String) (streams : Streams) (world : World) :
    Option Program :=
  match shell.commands.get? name, shell.searchPath.resolve world name with
  | none, some path => (shell.starter (flush streams world).2 name path args).toOption
  | _, _ => none

/-- The shell can find a program somewhere. -/
def Finds (shell : Shell) (program : Program) : Prop :=
  ∃ world name path args, shell.starter world name path args = .ok program

theorem finds_of_toOption {shell : Shell} {world : World} {name path : String} {args : List String}
    {program : Program} (h : program ∈ (shell.starter world name path args).toOption) : shell.Finds program := by
  refine ⟨world, name, path, args, ?_⟩
  cases hstarts : shell.starter world name path args with
  | error cause => rw [hstarts] at h; cases h
  | ok found => rw [hstarts] at h; cases h; rfl

theorem finds_of_program? {shell : Shell} {name : String} {args : List String} {streams : Streams} {world : World}
    {program : Program} (h : program ∈ shell.program? name args streams world) : shell.Finds program := by
  unfold program? at h
  split at h
  · exact finds_of_toOption h
  · cases h

/-- The program that the only stage of a line starts, if it starts one. -/
def singleProgram? (shell : Shell) (words : List String) (world : World) : Option Program :=
  match Redirection.apply (Invocation.ofWords words) shell.streams world, (Invocation.ofWords words).words with
  | (.ok (streams, _), opened), name :: args => shell.program? name args streams opened
  | _, _ => none

variable {shell : Shell} {name path : String} {args : List String} {streams : Streams} {world : World}

theorem runProgram_safe (hstdout : streams.stdout ≠ s) (hstderr : streams.stderr ≠ s)
    (h : ∀ program, shell.starter (flush streams world).2 name path args = .ok program → program.Confined σ) :
    SafeFrom σ s world (shell.runProgram name path args streams) := by
  refine SafeFrom.bind (flush_safe _ world) fun _ => .get_bind ?_
  split
  · exact .pure trivial
  · next program hprogram =>
    refine SafeFrom.bind (World.inputFor_safe _ _) fun hstdin => ?_
    refine Safe.bind (World.outputFor_safe hstdout) (fun stdout hstdout => ?_) _
    refine (World.outputFor_safe hstderr).bind fun stderr hstderr => (countWorkers_safe _).bind fun _ _ => ?_
    refine (Program.start_safe (h program hprogram) hstdin hstdout hstderr).bind fun _ _ => ?_
    exact (Program.wait_safe _).bind fun _ _ => (Safe.forM fun worker _ => worker.join_safe).bind fun _ _ =>
      .pure trivial

/-- A command that is given other streams leaves this one alone. -/
theorem dispatch_safe (h : shell.Heeds σ s name args)
    (hprogram : ∀ program ∈ shell.program? name args streams world, program.Confined σ)
    (hstdout : streams.stdout ≠ s) (hstderr : streams.stderr ≠ s) :
    SafeFrom σ s world (shell.dispatch name args streams) := by
  unfold program? at hprogram
  unfold dispatch
  split
  · next command hcommand => exact (World.note_safe _ _ _).bind (fun _ _ => h command hcommand _ hstdout hstderr) _
  · next hname =>
    refine .get_bind ?_
    split
    · exact ((World.note_safe _ _ _).bind fun _ _ => (World.say_safe hstdout _).bind fun _ _ => .pure trivial) world
    · next path hpath =>
      refine SafeFrom.bind (runProgram_safe hstdout hstderr fun program hstarts => hprogram program ?_) fun _ => ?_
      · rw [hname, hpath]
        exact congrArg Except.toOption hstarts
      · split
        · exact .pure trivial
        · exact ((World.note_safe _ _ _).bind fun _ _ => (World.say_safe hstderr _).bind fun _ _ => .pure trivial) _

end Shell

/-! ### Pipelines -/

namespace Pipeline

theorem statusOf_safe (conclusion : Conclusion) : Safe σ s (statusOf conclusion) := by
  cases conclusion with
  | returned status => exact .pure trivial
  | faulted => exact (World.note_safe _ _ _).bind fun _ _ => .pure trivial

namespace Standing

theorem await_safe (standing : Standing) : Safe σ s standing.await := by
  cases standing with
  | ended status => exact .pure trivial
  | running pid => exact Program.wait_safe pid
  | finished conclusion => exact statusOf_safe _
  | task => exact (World.await_safe _).bind fun _ _ => .pure trivial

theorem stop_safe (standing : Standing) : Safe σ s standing.stop := by
  cases standing with
  | running pid => exact Program.signalKill_safe pid
  | ended | task | finished => exact .pure trivial

theorem quit_safe (standing : Standing) : Safe σ s standing.quit :=
  standing.stop_safe.bind fun _ _ => standing.await_safe.discard

end Standing

/-- What the next stage reads comes neither through the file nor from the stream. -/
def Supply.Avoids (σ : Seal) (s : Nat) : Supply → Prop
  | .piped file => ¬ σ.files file
  | .captured _ sink => sink ≠ s
  | .shellInput | .nothing | .taken _ => True

namespace Flow

/-- What goes on between two stages has nothing to do with the stream and its file. -/
structure Avoids (σ : Seal) (s : Nat) (flow : Flow) : Prop where
  /-- The next stage reads something else. -/
  supply : flow.supply.Avoids σ s
  /-- The redirections own other streams. -/
  redirections : ∀ r ∈ flow.redirections, s ∉ r.opened

variable {flow : Flow}

theorem avoids_empty (σ : Seal) (s : Nat) : Flow.Avoids σ s {} := ⟨trivial, nofun⟩

theorem avoids_next (h : flow.Avoids σ s) (standing : Standing) {supply : Supply} (hsupply : supply.Avoids σ s) :
    (flow.next standing supply).Avoids σ s :=
  ⟨hsupply, h.redirections⟩

theorem dropSupply_safe (flow : Flow) : Safe σ s flow.dropSupply := by
  unfold dropSupply
  split
  · exact World.letGo_safe _
  · exact .pure trivial

theorem skip_safe (h : flow.Avoids σ s) (status : Int) : Safe σ s (flow.skip status) (·.Avoids σ s) :=
  flow.dropSupply_safe.bind fun _ _ => .pure (avoids_next h _ trivial)

theorem settle_safe (h : flow.Avoids σ s) (producer : Nat) : Safe σ s (flow.settle producer) (·.Avoids σ s) := by
  unfold settle
  split
  · exact .pure h
  · exact .pure h
  · exact .pure h
  · exact (Standing.await_safe _).bind fun _ _ => .pure ⟨h.supply, h.redirections⟩

theorem fetch_safe (h : flow.Avoids σ s) : Safe σ s flow.fetch (·.Avoids σ s) := by
  unfold fetch
  split
  · next producer sink hsupply =>
    have hsink : sink ≠ s := show Supply.Avoids σ s (.captured producer sink) from hsupply ▸ h.supply
    exact (settle_safe h producer).bind fun flow hflow => (World.takeCollected_safe hsink).bind fun _ _ =>
      .pure ⟨trivial, hflow.redirections⟩
  · exact .pure h

theorem widen_safe {file : Nat} (hfile : ¬ σ.files file) : Safe σ s (widen file) := by
  refine .get_bind fun world => .of_guarded fun hg => ?_
  split
  · exact .pure trivial
  · next handle hhandle =>
    have hnode := hg.machine.leads file handle hhandle hfile
    split
    · exact .pure trivial
    · refine .set_bind (fun _ => hg.spared_machine (hg.machine.spares_files (Seal.node?_set hnode _ _))) ?_
      exact .modify fun _ hg => hg.spared_machine hg.machine.spares_stir

theorem empty_safe {file : Nat} (hfile : ¬ σ.files file) : Safe σ s (empty file) := by
  refine .get_bind fun world => .of_guarded fun hg => ?_
  split
  · exact .pure trivial
  · next handle hhandle =>
    have hnode := hg.machine.leads file handle hhandle hfile
    exact (World.drainPipe_safe hnode).bind (fun _ _ => (World.letGo_safe _).bind fun _ _ => .pure trivial) world

theorem drain_safe (h : flow.Avoids σ s) : Safe σ s flow.drain (·.Avoids σ s) := by
  unfold drain
  split
  · next file hsupply =>
    have hfile : ¬ σ.files file := show Supply.Avoids σ s (.piped file) from hsupply ▸ h.supply
    exact (widen_safe hfile).bind fun _ _ => (World.await_safe _).bind fun _ _ => (empty_safe hfile).bind fun _ _ =>
      .pure ⟨trivial, h.redirections⟩
  · exact .pure h

theorem release_safe (h : flow.Avoids σ s) : Safe σ s flow.release :=
  .forM fun r hr => (Redirection.release_safe (h.redirections r hr)).discard

theorem close_safe (h : flow.Avoids σ s) (status : Int) : Safe σ s (flow.close status) :=
  (release_safe h).bind fun _ _ => (World.note_safe _ _ _).bind fun _ _ => .pure trivial

theorem finish_safe (h : flow.Avoids σ s) : Safe σ s flow.finish :=
  (Safe.mapM Standing.await_safe _).bind fun _ _ => (Safe.forM fun worker _ => worker.join_safe).bind fun _ _ =>
    close_safe h _

theorem abort_safe (h : flow.Avoids σ s) : Safe σ s flow.abort :=
  flow.dropSupply_safe.bind fun _ _ => (Safe.forM fun standing _ => standing.quit_safe).bind fun _ _ =>
    (Safe.forM fun worker _ => worker.join_safe).bind fun _ _ => (release_safe h).bind fun _ _ => .pure trivial

end Flow

/-- What a stage leaves has nothing to do with the stream and its file. -/
def Sequel.Avoids (σ : Seal) (s : Nat) : Sequel → Prop
  | .on flow | .unknown flow => flow.Avoids σ s
  | .gone => True

namespace Stage

/-- A stage writes to other streams than this one: its messages, and its results unless the next stage reads
them. -/
structure Avoids (s : Nat) (stage : Stage) : Prop where
  /-- Its messages. -/
  stderr : stage.streams.stderr ≠ s
  /-- Its results. -/
  stdout : stage.feedsNext = false → stage.streams.stdout ≠ s

variable {stage : Stage} {shell : Shell} {flow : Flow}

theorem miss_safe (hstderr : stage.streams.stderr ≠ s) : Safe σ s stage.miss :=
  (World.note_safe _ _ _).bind fun _ _ => World.say_safe hstderr _

theorem gather_safe (h : flow.Avoids σ s) (callee : Callee) : Safe σ s (gather callee flow) (·.Avoids σ s) := by
  refine (Flow.fetch_safe h).bind fun flow hflow => ?_
  cases callee with
  | builtin => exact Flow.drain_safe hflow
  | program => exact .pure hflow

theorem builtinInput_safe (supply : Supply) : Safe σ s (stage.builtinInput supply) := by
  cases supply with
  | shellInput => exact .pure trivial
  | taken | nothing | piped | captured => exact World.newSource_safe trivial

theorem builtinOutput_safe (h : stage.Avoids s) : Safe σ s stage.builtinOutput (· ≠ s) := by
  unfold builtinOutput
  split
  · exact World.newSink_safe (show Sink.Avoids σ (.memory [] none) from nofun)
  · next hfeeds => exact .pure (h.stdout (Bool.eq_false_iff.2 hfeeds))

theorem builtinStreams_safe (h : stage.Avoids s) (supply : Supply) :
    Safe σ s (stage.builtinStreams supply) (fun streams => streams.stdout ≠ s ∧ streams.stderr ≠ s) :=
  (builtinInput_safe _).bind fun _ _ => (builtinOutput_safe h).bind fun _ hstdout =>
    (World.note_safe _ _ _).bind fun _ _ => .pure ⟨hstdout, h.stderr⟩

theorem captured_avoids {streams : Streams} (hstdout : streams.stdout ≠ s) : (stage.captured streams).Avoids σ s := by
  unfold captured
  split
  · exact hstdout
  · trivial

theorem runBuiltin_safe (h : stage.Avoids s) (hflow : flow.Avoids σ s) {command : Builtin}
    (hcommand : ∀ context : Context, context.streams.stdout ≠ s → context.streams.stderr ≠ s →
      Safe σ s (command stage.args context)) :
    Safe σ s (stage.runBuiltin shell command flow) (·.Avoids σ s) := by
  refine (builtinStreams_safe h _).bind fun streams hstreams => World.newThread_safe.bind fun thread _ => ?_
  refine (World.asThread_safe _ (hcommand (shell.context streams) hstreams.1 hstreams.2)).bind fun _ _ => ?_
  exact .pure (Flow.avoids_next hflow _ (captured_avoids hstreams.1))

theorem programInput_safe (h : flow.Avoids σ s) : Safe σ s (stage.programInput flow.supply) (¬ σ.files ·.1) := by
  cases hsupply : flow.supply with
  | shellInput => exact World.inputFor_safe _
  | nothing | captured => exact World.emptyInput_safe.bind fun _ hfile => .pure hfile
  | piped file => exact .pure (show Supply.Avoids σ s (.piped file) from hsupply ▸ h.supply)
  | taken bs => exact (Worker.startFeed_safe _ _).bind fun _ hfile => .pure hfile

theorem programOutput_safe (h : stage.Avoids s) : Safe σ s stage.programOutput fun output =>
    ¬ σ.files output.1 ∧ output.2.2.Avoids σ s := by
  unfold programOutput
  split
  · refine .get_bind fun world => .of_guarded fun hg => ?_
    obtain ⟨hspares, hreading, hwriting⟩ := hg.machine.spares_newPipe {}
    refine .set_bind (fun _ => hg.spared_machine hspares) ((World.hold_safe _).bind fun _ _ => ?_)
    exact .pure ⟨hwriting, hreading⟩
  · next hfeeds =>
    exact (World.outputFor_safe (h.stdout (Bool.eq_false_iff.2 hfeeds))).bind fun _ hfile =>
      .pure ⟨hfile, trivial⟩

/-- The program that a stage starts, if it starts one. -/
def program? (stage : Stage) (shell : Shell) (flow : Flow) (world : World) : Option Program :=
  match stage.find? shell world with
  | some (.program path) =>
    (shell.starter (Shell.flush stage.streams (flow.fetch world).2).2 stage.name path stage.args).toOption
  | _ => none

variable {world : World}

theorem runProgram_safe (h : stage.Avoids s) (hflow : flow.Avoids σ s) {path : String}
    (hprogram : ∀ program, shell.starter (Shell.flush stage.streams world).2 stage.name path stage.args = .ok program →
      program.Confined σ) :
    SafeFrom σ s world (stage.runProgram shell path flow) (·.Avoids σ s) := by
  refine SafeFrom.bind (Shell.flush_safe _ world) fun _ => .get_bind ?_
  split
  · exact ((World.note_safe _ _ _).bind fun _ _ => (World.say_safe h.stderr _).bind fun _ _ =>
      Flow.skip_safe hflow _) _
  · next program hstarts =>
    refine SafeFrom.bind (programInput_safe hflow _) fun hstdin => ?_
    refine Safe.bind (programOutput_safe h) (fun stdout hstdout => ?_) _
    refine (World.outputFor_safe h.stderr).bind fun stderr hstderr => (Shell.countWorkers_safe _).bind fun _ _ => ?_
    refine (Program.start_safe (hprogram program hstarts) hstdin hstdout.1 hstderr).bind fun _ _ => ?_
    exact flow.dropSupply_safe.bind fun _ _ => .pure ⟨hstdout.2, hflow.redirections⟩

/-- A stage that writes to other streams leaves this one alone. -/
theorem start_safe (h : stage.Avoids s) (hflow : flow.Avoids σ s) (hheeds : shell.Heeds σ s stage.name stage.args)
    (hprogram : ∀ program ∈ stage.program? shell flow world, program.Confined σ) :
    SafeFrom σ s world (stage.start shell flow) (·.Avoids σ s) := by
  unfold program? at hprogram
  refine .get_bind ?_
  split
  · exact (miss_safe h.stderr).bind (fun _ _ => .pure hflow) world
  · next callee hfind =>
    rw [hfind] at hprogram
    refine SafeFrom.get_bind ?_
    split
    · exact .pure trivial
    · refine SafeFrom.bind (gather_safe hflow callee world) fun hgathered => .get_bind ?_
      split
      · exact .pure trivial
      · refine SafeFrom.bind (Q := (·.Avoids σ s)) ?_ fun hflow => .pure hflow
        cases callee with
        | builtin command => exact runBuiltin_safe h hgathered (hheeds command (get?_of_find? hfind)) _
        | program path =>
          exact runProgram_safe h hgathered fun program hstarts =>
            hprogram program (congrArg Except.toOption hstarts)

end Stage

section

variable {shell : Shell} {words : List String} {flow : Flow} {world : World}

theorem refuse_safe (hstderr : shell.streams.stderr ≠ s) (index : Nat) (failure : Failure) :
    Safe σ s (refuse shell index failure) :=
  (World.note_safe _ _ _).bind fun _ _ => World.say_safe hstderr _

/-- What is opened for a stage has nothing to do with a stream that is not where messages go, but perhaps for the
results of the last stage. -/
theorem openStage_safe (hstderr : shell.streams.stderr ≠ s) (isLast : Bool)
    (htargets : ∀ node ∈ (Invocation.ofWords words).nodes shell.streams world, σ.Avoids node)
    (hflow : flow.Avoids σ s) :
    SafeFrom σ s world (openStage shell isLast words flow) fun opened =>
      opened.1.Avoids σ s ∧ ∀ stage ∈ opened.2, stage.streams.stderr ≠ s ∧
        ((isLast = true → (Invocation.ofWords words).stdout ≠ none ∨ shell.streams.stdout ≠ s) → stage.Avoids s) ∧
        (Invocation.ofWords words).words = stage.name :: stage.args := by
  refine SafeFrom.bind (Redirection.apply_safe htargets) fun hclear => ?_
  split
  · exact (refuse_safe hstderr _ _).bind (fun _ _ => (Flow.skip_safe hflow _).bind fun _ hflow =>
      .pure ⟨hflow, nofun⟩) _
  · next streams redirection hresult =>
    have hclear := hclear streams redirection hresult
    have hflow' : Flow.Avoids σ s { flow with redirections := flow.redirections ++ [redirection] } := by
      refine ⟨hflow.supply, fun r hr => ?_⟩
      obtain hr | hr := List.mem_append.1 hr
      · exact hflow.redirections r hr
      · rw [List.mem_singleton.1 hr]
        exact hclear.opened
    split
    · exact (Flow.skip_safe hflow' _).bind (fun _ hflow => .pure ⟨hflow, nofun⟩) _
    · next name args hwords =>
      refine .pure ⟨hflow', fun stage hstage => ?_⟩
      cases hstage
      have hmessages := hclear.stderr (.inr hstderr)
      refine ⟨hmessages, fun hstdout => ⟨hmessages, fun hfeeds => hclear.stdout ?_⟩, hwords⟩
      cases isLast with
      | true => exact hstdout rfl
      | false => exact .inl fun hnone => by simp [hnone] at hfeeds

/-- The program that a stage starts when it is opened, if it starts one. -/
def Opening.program? (shell : Shell) (o : Opening) : Option Program :=
  match openStage shell o.isLast o.words o.flow o.world with
  | ((flow, some stage), opened) => stage.program? shell flow opened
  | ((_, none), _) => none

/-- One stage of a pipeline leaves the stream alone if it is not where messages go, nor, without a target, the
results of the last stage. -/
theorem step_safe (hstderr : shell.streams.stderr ≠ s) {isLast : Bool}
    (hstdout : isLast = true → (Invocation.ofWords words).stdout ≠ none ∨ shell.streams.stdout ≠ s)
    (htargets : ∀ node ∈ (Invocation.ofWords words).nodes shell.streams world, σ.Avoids node)
    (hheeds : shell.HeedsStage σ s words)
    (hprogram : ∀ program ∈ Opening.program? shell { isLast, words, flow, world }, program.Confined σ)
    (hflow : flow.Avoids σ s) : SafeFrom σ s world (step shell isLast words flow) (·.Avoids σ s) := by
  refine SafeFrom.bind (openStage_safe hstderr isLast htargets hflow) fun hopened => ?_
  unfold Opening.program? at hprogram
  dsimp only at hprogram
  cases hopen : openStage shell isLast words flow world with | mk opened later
  obtain ⟨next, stage?⟩ := opened
  rw [hopen] at hopened hprogram
  cases stage? with
  | none => exact .pure hopened.1
  | some stage =>
    obtain ⟨-, hstage, hwords⟩ := hopened.2 stage rfl
    exact Stage.start_safe (hstage hstdout) hopened.1 (hheeds _ _ hwords) hprogram

/-- A pipeline leaves the stream alone if it is not where messages go, nor, without a target, the results of the last
stage. -/
theorem runFrom_safe (hstderr : shell.streams.stderr ≠ s) {stages : List (List String)}
    (hstdout : ∀ words ∈ stages.getLast?, (Invocation.ofWords words).stdout ≠ none ∨ shell.streams.stdout ≠ s)
    (hheeds : ∀ words ∈ stages, shell.HeedsStage σ s words) (hflow : flow.Avoids σ s)
    (htargets : ∀ o ∈ openingsFrom shell stages flow world,
      ∀ node ∈ (Invocation.ofWords o.words).nodes shell.streams o.world, σ.Avoids node)
    (hprograms : ∀ o ∈ openingsFrom shell stages flow world, ∀ program ∈ o.program? shell, program.Confined σ) :
    SafeFrom σ s world (runFrom shell stages flow) := by
  -- What goes on between two stages avoids the stream; the worlds in which the stages start are those of the run.
  induction stages generalizing flow world with
  | nil => exact Flow.finish_safe hflow world
  | cons words rest ih =>
    unfold runFrom
    rw [openingsFrom, List.forall_mem_cons] at htargets hprograms
    have hlast : rest.isEmpty = true → (Invocation.ofWords words).stdout ≠ none ∨ shell.streams.stdout ≠ s := by
      intro hempty
      rw [List.isEmpty_iff.1 hempty] at hstdout
      exact hstdout words rfl
    have hrest : ∀ words ∈ rest.getLast?,
        (Invocation.ofWords words).stdout ≠ none ∨ shell.streams.stdout ≠ s := by
      cases rest with
      | nil => exact fun _ hnone => absurd hnone (by simp)
      | cons next rest => exact fun words hwords => hstdout words (by rwa [List.getLast?_cons_cons])
    refine SafeFrom.bind (step_safe hstderr hlast htargets.1 (hheeds words List.mem_cons_self) hprograms.1 hflow)
      fun hnext => ?_
    cases hstep : step shell rest.isEmpty words flow world with | mk sequel later
    rw [hstep] at hnext htargets hprograms
    cases sequel with
    | on next =>
      exact ih hrest (fun words hwords => hheeds words (List.mem_cons_of_mem _ hwords)) hnext htargets.2 hprograms.2
    | unknown next => exact Flow.abort_safe hnext later
    | gone => exact .pure trivial

end

end Pipeline

/-! ### Lines -/

namespace World

/-- The file behind an output stream, if there is one, with what it holds. -/
def behind? (world : World) (id : Nat) : Option Node := do
  let file ← world.file? id
  let handle ← world.machine.handles[file]?
  world.files.node? handle.node

/-- Nothing was added to an output stream: it is as it was, or as it was after what had been written to it before was
delivered. -/
def Unadded (s : Nat) (world after : World) : Prop :=
  ∃ before ∈ [world, world.delivered s], after.sinks[s]? = before.sinks[s]? ∧
    after.collected s = before.collected s ∧ after.behind? s = before.behind? s

variable {world after : World}

/-- What has been collected behind a stream depends on nothing but the stream and its file. -/
theorem Untouched.collected_eq (h : world.Guarded σ s) (hu : Untouched σ s world after) :
    after.collected s = world.collected s := by
  obtain ⟨sink, hsink, hwithin⟩ := h.within
  have hsink' := hu.sink.trans hsink
  unfold collected
  rw [hsink, hsink']
  cases sink with
  | memory written relay =>
    cases relay with
    | none => rfl
    | some relay =>
      have hnode : relay.node = σ.node := hwithin relay rfl
      have hsame : after.files.node? relay.node = world.files.node? relay.node := hnode ▸ hu.machine.node
      simp only [relayed, hsame]
  | inherited file buffer =>
    obtain ⟨-, handle, hhandle, hnode⟩ := h.machine.known file hwithin
    have hsame : after.files.node? handle.node = world.files.node? handle.node := hnode ▸ hu.machine.node
    simp only [hu.machine.handles file hwithin, hhandle, FileSystem.remaining, hsame]
  | opened file isOpen => rfl

theorem Untouched.behind?_eq (h : world.Guarded σ s) (hu : Untouched σ s world after) :
    after.behind? s = world.behind? s := by
  obtain ⟨sink, hsink, hwithin⟩ := h.within
  have hsink' := hu.sink.trans hsink
  have hfile {file : Nat} (hfile : σ.files file) :
      ((after.machine.handles[file]?).bind fun handle => after.files.node? handle.node) =
        (world.machine.handles[file]?).bind fun handle => world.files.node? handle.node := by
    obtain ⟨-, handle, hhandle, hnode⟩ := h.machine.known file hfile
    have hsame : after.files.node? handle.node = world.files.node? handle.node := hnode ▸ hu.machine.node
    simp only [hu.machine.handles file hfile, hhandle, Option.bind_some, hsame]
  simp only [behind?, file?, hsink, hsink', Option.bind_some, bind]
  cases sink with
  | memory written relay => rfl
  | inherited file buffer => exact hfile hwithin
  | opened file isOpen =>
    cases isOpen with
    | true => exact hfile hwithin
    | false => rfl

theorem Spared.unadded (hg : world.Guarded σ s) (h : Spared σ s world after) : world.Unadded s after := by
  obtain hu | hu := h.settled
  · exact ⟨world, List.mem_cons_self, hu.sink, hu.collected_eq hg, hu.behind?_eq hg⟩
  · have hdelivered := guarded_delivered hg
    exact ⟨_, List.mem_cons_of_mem _ List.mem_cons_self, hu.sink, hu.collected_eq hdelivered,
      hu.behind?_eq hdelivered⟩

end World

namespace Shell

variable {shell : Shell} {line : String} {world : World}

/-- The files that the redirections of a line open. -/
def nodesOpened (shell : Shell) (line : String) (world : World) : List NodeId :=
  match Pipeline.stages (words line) with
  | [] => []
  | [single] => (Invocation.ofWords single).nodes shell.streams world
  | stages => (Pipeline.openings shell stages world).flatMap fun o =>
    (Invocation.ofWords o.words).nodes shell.streams o.world

/-- The programs that a line starts. -/
def programsStarted (shell : Shell) (line : String) (world : World) : List Program :=
  match Pipeline.stages (words line) with
  | [] => []
  | [single] => (shell.singleProgram? single world).toList
  | stages => (Pipeline.openings shell stages world).filterMap (·.program? shell)

/-- The last stage of a line has a target for its results. -/
def endsInTarget (line : String) : Bool :=
  (Pipeline.stages (words line)).getLast?.any fun stage => (Invocation.ofWords stage).stdout.isSome

/-- A line starts only programs that the shell finds. -/
theorem finds_of_mem_programsStarted {program : Program} (h : program ∈ shell.programsStarted line world) :
    shell.Finds program := by
  unfold programsStarted at h
  split at h
  · cases h
  · rw [Option.mem_toList, singleProgram?] at h
    split at h
    · exact finds_of_program? h
    · cases h
  · obtain ⟨o, -, hprogram⟩ := List.mem_filterMap.1 h
    unfold Pipeline.Opening.program? at hprogram
    split at hprogram
    · unfold Pipeline.Stage.program? at hprogram
      split at hprogram
      · exact finds_of_toOption hprogram
      · cases hprogram
    · cases hprogram

/-- The only stage of a line leaves the stream alone if neither its results nor its messages go there. Why its
redirections cannot be opened is told with the messages of the shell. -/
theorem runSingle_safe {words : List String}
    (hstdout : (Invocation.ofWords words).stdout ≠ none ∨ shell.streams.stdout ≠ s)
    (hstderr : (Invocation.ofWords words).stderr ≠ none ∨ shell.streams.stderr ≠ s)
    (hopens : shell.streams.stderr ≠ s ∨
      ∃ result, (Redirection.apply (Invocation.ofWords words) shell.streams world).1 = .ok result)
    (htargets : ∀ node ∈ (Invocation.ofWords words).nodes shell.streams world, σ.Avoids node)
    (hheeds : shell.HeedsStage σ s words)
    (hprogram : ∀ program ∈ shell.singleProgram? words world, program.Confined σ) :
    SafeFrom σ s world (shell.runSingle words) := by
  refine SafeFrom.bind (Redirection.apply_safe htargets) fun hclear => ?_
  split
  · next failure hfailure =>
    have hother : shell.streams.stderr ≠ s :=
      hopens.resolve_right fun ⟨result, hresult⟩ => nomatch hfailure.symm.trans hresult
    exact ((World.note_safe _ _ _).bind fun _ _ => (World.say_safe hother _).bind fun _ _ => .pure trivial) _
  · next streams redirection hresult =>
    have hclear := hclear streams redirection hresult
    have hend (conclusion : Conclusion) : Safe σ s (do
        if conclusion ≠ .faulted then flush streams
        discard redirection.release
        return conclusion) := by
      have hrelease := (Redirection.release_safe hclear.opened).discard.bind fun _ _ =>
        (.pure trivial : Safe σ s (pure conclusion : Run Conclusion))
      dsimp only
      split
      · exact (flush_safe _).bind fun _ _ => hrelease
      · exact hrelease
    dsimp only
    split
    · exact SafeFrom.bind (Q := fun _ => True) (.pure trivial) fun _ => hend _ _
    · next name args hwords =>
      refine SafeFrom.bind (Q := fun _ => True) (dispatch_safe (hheeds name args hwords) (fun program hmem => ?_)
        (hclear.stdout hstdout) (hclear.stderr hstderr)) fun _ => hend _ _
      refine hprogram program ?_
      rw [singleProgram?, hwords, show Redirection.apply _ _ world = (_, _) from Prod.ext hresult rfl]
      exact hmem

/-- The file behind a stream of the shell has nothing to do with a line but for the stream. -/
structure Separate (shell : Shell) (σ : Seal) (s : Nat) (line : String) (world : World) : Prop where
  /-- The stream has the file to itself. -/
  guarded : world.Guarded σ s
  /-- The streams of the shell are different. -/
  distinct : shell.streams.stdout ≠ shell.streams.stderr
  /-- No target of the line leads to the file. -/
  targets : ∀ node ∈ shell.nodesOpened line world, σ.Avoids node
  /-- The built-in commands of the line write only to the streams that they are given. -/
  commands : ∀ stage ∈ Pipeline.stages (words line), shell.HeedsStage σ s stage
  /-- The programs that the line starts do not write to the file. -/
  programs : ∀ program ∈ shell.programsStarted line world, program.Confined σ

/-- A stream over memory has no file. What it takes for its own is that nothing else of the shell goes there, and no
target leads there anyway. -/
theorem separate_of_memory {written : Bytes} (hsink : world.sinks[s]? = some (.memory written none))
    (hdistinct : shell.streams.stdout ≠ shell.streams.stderr) (hlog : ∀ target ∈ world.log, target.sink ≠ s)
    (hnext : shellPid < world.machine.nextPid) (htasks : Seal.nothing.ConfinesAll world.tasks)
    (hcommands : ∀ stage ∈ Pipeline.stages (words line), shell.HeedsStage .nothing s stage)
    (hprograms : ∀ program ∈ shell.programsStarted line world, program.Confined .nothing) :
    shell.Separate .nothing s line world where
  guarded :=
    { machine := Seal.holds_nothing hnext
      tasks := htasks
      within := ⟨_, hsink, nofun⟩
      sinks := fun _ sink _ _ => by
        cases sink with
        | memory written relay => exact fun _ _ => ⟨.inr rfl, id⟩
        | inherited file buffer => exact id
        | opened file isOpen => exact id
      sources := fun _ source _ => by
        cases source with
        | memory rest => trivial
        | inherited fetched file => exact id
      log := hlog }
  distinct := hdistinct
  targets _ _ := .inr rfl
  commands := hcommands
  programs := hprograms

/-- A line whose last stage has a target for its results leaves standard output alone. -/
theorem route_safe (h : shell.Separate σ shell.streams.stdout line world) (hends : endsInTarget line = true) :
    SafeFrom σ shell.streams.stdout world (shell.route line) := by
  have hlast : ∀ stage ∈ (Pipeline.stages (words line)).getLast?, (Invocation.ofWords stage).stdout ≠ none := by
    intro stage hstage
    rw [endsInTarget, Option.mem_def.1 hstage, Option.any_some] at hends
    exact Option.isSome_iff_ne_none.1 hends
  have hstages : SafeFrom σ shell.streams.stdout world (shell.runStages (Pipeline.stages (words line))) := by
    have htargets := h.targets
    have hprograms := h.programs
    have hcommands := h.commands
    rw [nodesOpened] at htargets
    rw [programsStarted] at hprograms
    cases hstages : Pipeline.stages (words line) with
    | nil => exact .pure trivial
    | cons first rest =>
      rw [hstages] at htargets hprograms hlast hcommands
      cases rest with
      | nil =>
        exact runSingle_safe (.inl (hlast first rfl)) (.inr h.distinct.symm) (.inl h.distinct.symm) htargets
          (hcommands first (List.mem_singleton_self _)) fun program hmem => hprograms program (Option.mem_toList.2 hmem)
      | cons second rest =>
        have htargets o ho node hnode := htargets node (List.mem_flatMap.2 ⟨o, ho, hnode⟩)
        have hprograms o ho program hmem := hprograms program (List.mem_filterMap.2 ⟨o, ho, hmem⟩)
        have hrun := Pipeline.runFrom_safe h.distinct.symm (fun stage hstage => .inl (hlast stage hstage)) hcommands
          (Pipeline.Flow.avoids_empty σ _) htargets hprograms
        have hnoted : SafeFrom σ shell.streams.stdout world (Pipeline.run shell (first :: second :: rest)) :=
          (World.note_safe _ _ _ world).bind fun _ => hrun
        exact hnoted.bind fun _ => .pure trivial
  refine hstages.bind fun _ => ?_
  split
  · exact .pure trivial
  · exact ((World.note_safe _ _ _).bind fun _ _ => (World.say_safe h.distinct.symm _).bind fun _ _ => .pure trivial) _

/-- **Redirected output does not get to the streams of the shell**, as long as a stream of the shell has its file to
itself. A line whose last stage has a target for its results adds nothing to standard output, whatever becomes of its
stages. A single command with a target for its messages adds nothing to standard error if its redirections can be
opened and it does not break off. -/
theorem route_unadded (shell : Shell) (line : String) (world : World) (σ : Seal) :
    (shell.Separate σ shell.streams.stdout line world → endsInTarget line = true →
        world.Unadded shell.streams.stdout (shell.route line world).2) ∧
      ∀ single, Pipeline.stages (words line) = [single] → (Invocation.ofWords single).stderr ≠ none →
        shell.Separate σ shell.streams.stderr line world →
        (∃ opened, (Redirection.apply (Invocation.ofWords single) shell.streams world).1 = .ok opened) →
        (shell.runSingle single world).1 ≠ .faulted →
        world.Unadded shell.streams.stderr (shell.route line world).2 := by
  refine ⟨fun h hends => (route_safe h hends h.guarded).1.unadded h.guarded, ?_⟩
  intro single hsingle htarget h hopens hends
  have htargets := h.targets
  rw [nodesOpened, hsingle] at htargets
  have hprograms := h.programs
  rw [programsStarted, hsingle] at hprograms
  have hspared := runSingle_safe (.inr h.distinct) (.inl htarget) (.inr hopens) htargets
    (h.commands single (hsingle ▸ List.mem_singleton_self _))
    (fun program hmem => hprograms program (Option.mem_toList.2 hmem)) h.guarded
  have hroute : (shell.route line world).2 = (shell.runSingle single world).2 := by
    rw [route, hsingle, Run.bind_apply, show shell.runStages [single] = shell.runSingle single from rfl]
    cases hconclusion : (shell.runSingle single world).1 with
    | returned status => rfl
    | faulted => exact absurd hconclusion hends
  rw [hroute]
  exact hspared.1.unadded h.guarded

/-- A program that writes a greeting. -/
def greeting : Program := do
  let _ ← Script.writeTo 1 "hi\n".toList
  return .exited 0

theorem confined_greeting : greeting.Confined σ :=
  Program.confined_of_work fun pid hpid => (Seal.confines_writeTo pid hpid 1 _).bind fun _ => Seal.confines_pure _

/-- A shell that finds the same program everywhere. -/
def greeter : Shell :=
  { searchPath := .fixed "/bin", starter := fun _ _ _ _ => .ok greeting, streams := Launch.streams }

/-- Files with a program, and with names for the output streams. -/
def greeterFiles : FileSystem where
  nodes := #[.directory (.entry 0) [("bin", .entry 1), ("dev", .entry 3)] true 0o755,
    .directory (.entry 0) [("greet", .entry 2)] true 0o755, .regular .empty 0o755,
    .directory (.entry 0) [("stdout", .entry 4), ("stderr", .entry 5)] true 0o755, .descriptor 1, .descriptor 2]

/-- The world in which that shell starts. -/
def greeterWorld : World := ({} : Launch).world greeterFiles FileSystem.root []

theorem separate_greeter {line : String} (hs : s < 2)
    (htargets : ∀ node ∈ greeter.nodesOpened line greeterWorld, node ≠ .pipe s)
    (hnames : ∀ stage ∈ Pipeline.stages (words line), (Invocation.ofWords stage).words.head? ≠ some "history") :
    greeter.Separate (Launch.outputSeal greeterFiles s) s line greeterWorld where
  guarded := Launch.guarded_world _ _ _ _ hs
  distinct := by decide
  targets node hnode := .inl fun heq => htargets node hnode (heq.trans (congrArg NodeId.pipe (Nat.zero_add s)))
  commands stage hstage name args hwords :=
    heeds_defaults rfl fun heq => absurd (by rw [hwords, heq]; rfl) (hnames stage hstage)
  programs program hmem := by
    obtain ⟨_, _, _, _, hstarts⟩ := finds_of_mem_programsStarted hmem
    exact Except.ok.inj hstarts ▸ confined_greeting

/-- A pipeline with a built-in command, a program and an unknown name, and a command that has only messages. -/
theorem route_unadded_greeter :
    let pipeline := "echo a | greet 2> notes | nosuch > out"
    let complaint := "type 2> notes"
    greeter.Separate (Launch.outputSeal greeterFiles 0) 0 pipeline greeterWorld ∧
      greeterWorld.Unadded 0 (greeter.route pipeline greeterWorld).2 ∧
      greeter.Separate (Launch.outputSeal greeterFiles 1) 1 complaint greeterWorld ∧
      greeterWorld.Unadded 1 (greeter.route complaint greeterWorld).2 := by
  intro pipeline complaint
  have hpipeline : greeter.Separate (Launch.outputSeal greeterFiles 0) 0 pipeline greeterWorld :=
    separate_greeter (by decide) (by decide +kernel) (by decide +kernel)
  have hcomplaint : greeter.Separate (Launch.outputSeal greeterFiles 1) 1 complaint greeterWorld :=
    separate_greeter (by decide) (by decide +kernel) (by decide +kernel)
  have hresults := (route_unadded greeter pipeline greeterWorld _).1 hpipeline (by decide +kernel)
  have hmessages := (route_unadded greeter complaint greeterWorld _).2 ["type", "2>", "notes"] (by decide +kernel)
    (by decide +kernel) hcomplaint ⟨({ Launch.streams with stderr := 2 }, { opened := [2] }), by decide +kernel⟩
    (by decide +kernel)
  exact ⟨hpipeline, hresults, hcomplaint, hmessages⟩

/-- A target may lead to the file of a stream. -/
theorem adds_by_target :
    let shell : Shell := { streams := Launch.streams }
    greeterWorld.collected 0 = [] ∧ endsInTarget "echo x > /dev/stdout" = true ∧
      (shell.route "echo x > /dev/stdout" greeterWorld).2.collected 0 = Text.encode "x\n" := by
  decide +kernel

/-- Results and messages may go to one stream. -/
theorem adds_by_joined_streams :
    let joined : Shell := { streams := { stdin := 0, stdout := 0, stderr := 0 } }
    endsInTarget "type > /out" = true ∧
      (joined.route "type > /out" { sinks := #[.memory [] none] }).2.collected 0 =
        Text.encode "type: missing operand\n" := by
  decide +kernel

/-- Results and messages may go to one file. -/
theorem adds_by_shared_file :
    let shell : Shell := { streams := Launch.streams }
    let doubled := { greeterWorld with sinks := #[.inherited 1 (some []), .inherited 1 none] }
    doubled.collected 0 = [] ∧
      (shell.route "type > /out" doubled).2.collected 0 = Text.encode "type: missing operand\n" := by
  decide +kernel

/-- Log records may go to a stream. -/
theorem adds_by_log :
    let shell : Shell := { streams := Launch.streams }
    let logged := { greeterWorld with log := some { level := .debug, sink := 0, time := "" } }
    logged.collected 0 = [] ∧ (shell.route "type > /out" logged).2.collected 0 ≠ [] := by
  decide +kernel

/-- The target of messages may lead to the file of standard error. -/
theorem adds_by_messages :
    let shell : Shell := { streams := Launch.streams }
    (Invocation.ofWords (words "type 2> /dev/stderr")).stderr.isSome ∧ greeterWorld.collected 1 = [] ∧
      (shell.runSingle (words "type 2> /dev/stderr") greeterWorld).1 = .returned Status.usage ∧
      (shell.route "type 2> /dev/stderr" greeterWorld).2.collected 1 = Text.encode "type: missing operand\n" := by
  decide +kernel

/-- A stream that does not have its file to itself gets what was redirected: if a target leads to the file, if results
and messages go to one stream or to one file, or if log records go there. -/
theorem route_adds :
    let shell : Shell := { streams := Launch.streams }
    let joined : Shell := { streams := { stdin := 0, stdout := 0, stderr := 0 } }
    let doubled := { greeterWorld with sinks := #[.inherited 1 (some []), .inherited 1 none] }
    let logged := { greeterWorld with log := some { level := .debug, sink := 0, time := "" } }
    (∀ line ∈ ["echo x > /dev/stdout", "type > /out"], endsInTarget line = true) ∧
      greeterWorld.collected 0 = [] ∧ doubled.collected 0 = [] ∧ logged.collected 0 = [] ∧
      (shell.route "echo x > /dev/stdout" greeterWorld).2.collected 0 = Text.encode "x\n" ∧
      (joined.route "type > /out" { sinks := #[.memory [] none] }).2.collected 0 =
        Text.encode "type: missing operand\n" ∧
      (shell.route "type > /out" doubled).2.collected 0 = Text.encode "type: missing operand\n" ∧
      (shell.route "type > /out" logged).2.collected 0 ≠ [] ∧
      (Invocation.ofWords (words "type 2> /dev/stderr")).stderr.isSome ∧ greeterWorld.collected 1 = [] ∧
      (shell.runSingle (words "type 2> /dev/stderr") greeterWorld).1 = .returned Status.usage ∧
      (shell.route "type 2> /dev/stderr" greeterWorld).2.collected 1 = Text.encode "type: missing operand\n" := by
  obtain ⟨hempty, hends, hadds⟩ := adds_by_target
  obtain ⟨hends', hjoined⟩ := adds_by_joined_streams
  obtain ⟨hdoubled, hshared⟩ := adds_by_shared_file
  obtain ⟨hlogged, hlog⟩ := adds_by_log
  have hlines : ∀ line ∈ ["echo x > /dev/stdout", "type > /out"], endsInTarget line = true := by
    simpa only [List.forall_mem_cons, List.not_mem_nil, false_implies, implies_true, and_true] using ⟨hends, hends'⟩
  exact ⟨hlines, hempty, hdoubled, hlogged, hadds, hjoined, hshared, hlog, adds_by_messages⟩

end Shell

end LineShell
