import LineShell.Session

/-!
# What running commands leaves alone

The working directory, the environment, the history, the request to leave and the log are the business
of the built-in commands alone. Nothing that moves bytes about, opens or closes files, or starts programs
and waits for them changes any of these, whatever the programs do.

## The model

`World.bearings` is that part of the world. An operation `Keeps` a view of the world if the view is the
same after every run of it; there is one lemma for each operation that the built-ins, the redirections and
the pipelines are made of.
-/

namespace LineShell

/-! ### Operations -/

namespace Run

variable {α β : Type}

theorem get_bind (f : World → Run α) (world : World) : ((get : Run World) >>= f) world = f world world := rfl

theorem run_get_bind (f : World → ExceptT Failure Run α) (world : World) :
    ((getThe World : ExceptT Failure Run World) >>= f).run world = (f world).run world :=
  rfl

theorem bind_apply (op : Run α) (f : α → Run β) (world : World) :
    (op >>= f) world = f (op world).1 (op world).2 :=
  rfl

/-- Operations that do the same in a world can be exchanged there. -/
theorem bind_congr {op op' : Run α} {world : World} (h : op world = op' world) (f : α → Run β) :
    (op >>= f) world = (op' >>= f) world := by
  rw [bind_apply, bind_apply, h]

end Run

/-- The part of the world that only built-in commands change. -/
structure Bearings where
  /-- The working directory. -/
  cwd : NodeId
  /-- The variables that programs find in their environment. -/
  environment : List (String × String)
  /-- The lines that were entered. -/
  history : History
  /-- The status with which the shell was asked to leave. -/
  exitRequest : Option Int
  /-- Where log records go, if anywhere. -/
  log : Option LogTarget

/-- The part of a world that only built-in commands change. -/
def World.bearings (world : World) : Bearings :=
  { cwd := world.cwd, environment := world.environment, history := world.history
    exitRequest := world.exitRequest, log := world.log }

theorem World.bearings_withFiles (world : World) (files : FileSystem) :
    (world.withFiles files).bearings = world.bearings :=
  rfl

section

variable {α γ β δ : Type}

/-- Run in this world, the operation leaves the view of it as it is. -/
def KeepsFrom (view : World → β) (world : World) (op : Run α) : Prop := view (op world).2 = view world

theorem KeepsFrom.bind {view : World → β} {op : Run α} {f : α → Run γ} {world : World}
    (h : KeepsFrom view world op) (hf : KeepsFrom view (op world).2 (f (op world).1)) :
    KeepsFrom view world (op >>= f) :=
  hf.trans h

/-- In whatever world the operation is run, it leaves the view of it as it is. -/
def Keeps (view : World → β) (op : Run α) : Prop := ∀ world, KeepsFrom view world op

namespace Keeps

variable {view : World → β} {op : Run α}

theorem pure (a : α) : Keeps view (Pure.pure a : Run α) := fun _ => rfl

theorem bind (h : Keeps view op) {f : α → Run γ} (hf : ∀ a, Keeps view (f a)) :
    Keeps view (op >>= f) :=
  fun world => (hf _ _).trans (h world)

theorem get : Keeps view (MonadState.get : Run World) := fun _ => rfl

theorem discard (h : Keeps view op) : Keeps view (discard op) := fun world => h world

theorem map (h : Keeps view op) (f : α → γ) : Keeps view (f <$> op) := fun world => h world

theorem modify {f : World → World} (h : ∀ world, view (f world) = view world) :
    Keeps view (modify f : Run PUnit) := h

/-- An operation that begins by looking at the world. -/
theorem get_bind {f : World → Run γ} (h : ∀ world, KeepsFrom view world (f world)) :
    Keeps view ((MonadState.get : Run World) >>= f) := h

theorem forM {f : α → Run PUnit} (h : ∀ a, Keeps view (f a)) (as : List α) :
    Keeps view (as.forM f) := by
  induction as with
  | nil => exact pure ()
  | cons a as ih => exact bind (h a) fun _ => ih

theorem mapM {f : α → Run γ} (h : ∀ a, Keeps view (f a)) (as : List α) :
    Keeps view (as.mapM f) := by
  induction as with
  | nil => exact pure []
  | cons a as ih =>
    rw [List.mapM_cons]
    exact bind (h a) fun _ => bind ih fun _ => pure _

/-- An operation that changes the world and goes on. -/
theorem set_bind {world world' : World} (h : view world' = view world) {f : PUnit → Run γ}
    (hf : Keeps view (f ⟨⟩)) : KeepsFrom view world (MonadStateOf.set world' >>= f) :=
  (hf world').trans h

/-- What is kept as a whole is kept in each of its parts. -/
theorem part (h : Keeps view op) (f : β → δ) : Keeps (fun world => f (view world)) op :=
  fun world => congrArg f (h world)

end Keeps

end

namespace World

/-! ### Files and processes -/

theorem letGo_keeps (file : Nat) : Keeps bearings (letGo file) := fun _ => rfl

theorem openHandle_keeps (handle : Handle) : Keeps bearings (openHandle handle) := fun _ => rfl

theorem await_keeps (holds : Script.Machine → Bool) : Keeps bearings (await holds) := fun _ => rfl

/-! ### Output -/

theorem newSink_keeps (sink : Sink) : Keeps bearings (newSink sink) := fun _ => rfl

theorem writeFile_keeps (file : Nat) (bs : Bytes) : Keeps bearings (writeFile file bs) := by
  refine Keeps.get_bind fun world => ?_
  split
  · rfl
  · split <;> rfl

theorem drainPipe_keeps (node : NodeId) : Keeps bearings (drainPipe node) := by
  refine Keeps.get_bind fun world => ?_
  split <;> rfl

theorem takeRelayed_keeps (relay : Option Relay) : Keeps bearings (takeRelayed relay) := by
  cases relay with
  | none => exact Keeps.pure []
  | some relay => exact drainPipe_keeps relay.node

theorem setSink_keeps (id : Nat) (sink : Sink) :
    Keeps bearings (modify (·.setSink id sink) : Run PUnit) :=
  Keeps.modify fun _ => rfl

theorem write_keeps (id : Nat) (bs : Bytes) : Keeps bearings (write id bs) := by
  refine Keeps.bind Keeps.get fun world => ?_
  split
  · exact Keeps.pure _
  · split
    · exact (takeRelayed_keeps _).bind fun _ => (setSink_keeps _ _).bind fun _ => Keeps.pure _
    · exact writeFile_keeps _ _
    · exact (setSink_keeps _ _).bind fun _ => writeFile_keeps _ _
    · exact writeFile_keeps _ _
    · exact Keeps.pure _
    · exact Keeps.pure _

theorem flush_keeps (id : Nat) : Keeps bearings (flush id) := by
  refine Keeps.bind Keeps.get fun world => ?_
  split
  · split
    · exact Keeps.pure _
    · exact (setSink_keeps _ _).bind fun _ => (writeFile_keeps _ _).discard
  · exact Keeps.pure _

theorem print_keeps (id : Nat) (text : String) : Keeps bearings (print id text) := write_keeps _ _

theorem say_keeps (id : Nat) (text : String) : Keeps bearings (say id text) :=
  (print_keeps id text).discard

theorem close_keeps (id : Nat) : Keeps bearings (close id) := by
  refine Keeps.bind Keeps.get fun world => ?_
  split
  · exact (setSink_keeps _ _).bind fun _ => letGo_keeps _
  · exact Keeps.pure _

theorem takeCollected_keeps (id : Nat) : Keeps bearings (takeCollected id) := by
  refine Keeps.bind Keeps.get fun world => ?_
  split
  · exact (takeRelayed_keeps _).bind fun _ => (setSink_keeps _ _).bind fun _ => Keeps.pure _
  · exact Keeps.pure _

/-! ### Input, the log and threads -/

theorem newSource_keeps (source : Source) : Keeps bearings (newSource source) := fun _ => rfl

theorem note_keeps (level : Level) (origin : Origin) (text : String) :
    Keeps bearings (note level origin text) := by
  refine Keeps.bind Keeps.get fun world => ?_
  split
  · exact Keeps.pure _
  · split
    · exact say_keeps _ _
    · exact Keeps.pure _

theorem newThread_keeps : Keeps bearings newThread := fun _ => rfl

theorem asThread_keeps {α β : Type} (view : Bearings → β) (id : Nat) {op : Run α}
    (h : Keeps (fun world => view world.bearings) op) :
    Keeps (fun world => view world.bearings) (asThread id op) := by
  have hthread (id : Nat) : Keeps (fun world => view world.bearings)
      (modify fun world => { world with thread := id } : Run PUnit) :=
    Keeps.modify fun _ => rfl
  exact Keeps.get.bind fun world => (hthread id).bind fun _ => h.bind fun a => (hthread world.thread).bind fun _ =>
    Keeps.pure a

end World

/-! ### Programs -/

namespace Program

theorem start_keeps (program : Program) (stdin stdout stderr : Nat) :
    Keeps World.bearings (program.start stdin stdout stderr) :=
  fun _ => rfl

theorem statusOf_keeps (pid : Nat) : Keeps World.bearings (statusOf pid) := fun _ => rfl

theorem wait_keeps (pid : Nat) : Keeps World.bearings (wait pid) :=
  (World.await_keeps _).bind fun _ => statusOf_keeps pid

end Program

namespace Worker

theorem startFeed_keeps (bs : Bytes) (source : Option Nat) : Keeps World.bearings (startFeed bs source) :=
  fun _ => rfl

theorem join_keeps (worker : Worker) : Keeps World.bearings worker.join := by
  refine (World.await_keeps _).bind fun _ => ?_
  cases worker with
  | collect node => exact Keeps.pure _
  | feed file source =>
    refine Keeps.get_bind fun world => ?_
    cases source <;> rfl

end Worker

namespace World

theorem outputFor_keeps (id : Nat) : Keeps bearings (outputFor id) := by
  refine Keeps.get_bind fun world => ?_
  split
  · rfl
  · rfl
  · rfl
  · dsimp only
    split <;> rfl

theorem emptyInput_keeps : Keeps bearings emptyInput := fun _ => rfl

theorem inputFor_keeps (id : Nat) : Keeps bearings (inputFor id) := by
  refine Keeps.get_bind fun world => ?_
  split <;> rfl

end World

/-! ### Redirections -/

namespace Redirection

theorem release_keeps (r : Redirection) : Keeps World.bearings r.release :=
  (Keeps.forM World.close_keeps r.opened).bind fun _ => Keeps.pure _

theorem openTarget_keeps (target : Target) : Keeps World.bearings (openTarget target) := by
  refine Keeps.get_bind fun world => ?_
  cases target.openIn world.files world.cwd with | mk result files
  refine Keeps.set_bind (World.bearings_withFiles world files) ?_
  split
  · exact Keeps.pure _
  · exact (World.note_keeps _ _ _).bind fun _ => (World.openHandle_keeps _).bind fun _ =>
      (World.newSink_keeps _).bind fun _ => Keeps.pure _

theorem bind_keeps (target : Option Target) (stream : Nat) : Keeps World.bearings (bind target stream) := by
  unfold bind
  split
  · exact Keeps.pure _
  · refine (openTarget_keeps _).bind fun result => ?_
    split <;> exact Keeps.pure _

theorem apply_keeps (i : Invocation) (streams : Streams) : Keeps World.bearings (apply i streams) := by
  refine (bind_keeps _ _).bind fun result => ?_
  split
  · exact Keeps.pure _
  · refine (bind_keeps _ _).bind fun result => ?_
    split
    · exact (Keeps.forM World.close_keeps _).bind fun _ => Keeps.pure _
    · exact Keeps.pure _

end Redirection

/-! ### Pipelines -/

theorem Shell.flush_keeps (streams : Streams) : Keeps World.bearings (Shell.flush streams) :=
  (World.flush_keeps _).bind fun _ => World.flush_keeps _

theorem Shell.countWorkers_keeps (workers : List Worker) : Keeps World.bearings (countWorkers workers) :=
  Keeps.forM (fun _ => World.newThread_keeps.discard) workers

namespace Shell

theorem runProgram_keeps (shell : Shell) (name path : String) (args : List String) (streams : Streams) :
    Keeps World.bearings (shell.runProgram name path args streams) := by
  refine (flush_keeps _).bind fun _ => Keeps.get.bind fun world => ?_
  split
  · exact Keeps.pure _
  · refine (World.inputFor_keeps _).bind fun stdin => (World.outputFor_keeps _).bind fun stdout =>
      (World.outputFor_keeps _).bind fun stderr => (countWorkers_keeps _).bind fun _ => ?_
    exact (Program.start_keeps _ _ _ _).bind fun _ => (Program.wait_keeps _).bind fun _ =>
      (Keeps.forM Worker.join_keeps _).bind fun _ => Keeps.pure _

end Shell

namespace Pipeline

theorem statusOf_keeps (conclusion : Conclusion) : Keeps World.bearings (statusOf conclusion) := by
  cases conclusion with
  | returned status => exact Keeps.pure _
  | faulted => exact (World.note_keeps _ _ _).bind fun _ => Keeps.pure _

theorem Standing.await_keeps (standing : Standing) : Keeps World.bearings standing.await := by
  cases standing with
  | ended status => exact Keeps.pure _
  | running pid => exact Program.wait_keeps pid
  | finished conclusion => exact statusOf_keeps _
  | task => exact (World.await_keeps _).bind fun _ => Keeps.pure _

theorem Standing.quit_keeps (standing : Standing) : Keeps World.bearings standing.quit := by
  refine Keeps.bind ?_ fun _ => standing.await_keeps.discard
  cases standing with
  | running pid => exact Keeps.modify fun _ => rfl
  | ended | task | finished => exact Keeps.pure _

namespace Flow

theorem dropSupply_keeps (flow : Flow) : Keeps World.bearings flow.dropSupply := by
  unfold dropSupply
  split
  · exact World.letGo_keeps _
  · exact Keeps.pure _

theorem skip_keeps (flow : Flow) (status : Int) : Keeps World.bearings (flow.skip status) :=
  flow.dropSupply_keeps.bind fun _ => Keeps.pure _

theorem settle_keeps (flow : Flow) (producer : Nat) : Keeps World.bearings (flow.settle producer) := by
  unfold settle
  split
  · exact Keeps.pure _
  · exact Keeps.pure _
  · exact Keeps.pure _
  · exact (Standing.await_keeps _).bind fun _ => Keeps.pure _

theorem fetch_keeps (flow : Flow) : Keeps World.bearings flow.fetch := by
  unfold fetch
  split
  · exact (flow.settle_keeps _).bind fun _ => (World.takeCollected_keeps _).bind fun _ => Keeps.pure _
  · exact Keeps.pure _

theorem widen_keeps (file : Nat) : Keeps World.bearings (widen file) := by
  refine Keeps.get_bind fun world => ?_
  split
  · rfl
  · split
    · rfl
    · exact Keeps.set_bind (World.bearings_withFiles _ _) fun _ => rfl

theorem empty_keeps (file : Nat) : Keeps World.bearings (empty file) := by
  refine Keeps.get_bind fun world => ?_
  split
  · rfl
  · exact ((World.drainPipe_keeps _).bind fun _ => (World.letGo_keeps _).bind fun _ => Keeps.pure _) world

theorem drain_keeps (flow : Flow) : Keeps World.bearings flow.drain := by
  unfold drain
  split
  · exact (widen_keeps _).bind fun _ => (World.await_keeps _).bind fun _ => (empty_keeps _).bind fun _ => Keeps.pure _
  · exact Keeps.pure _

theorem release_keeps (flow : Flow) : Keeps World.bearings flow.release :=
  Keeps.forM (fun r => r.release_keeps.discard) _

theorem close_keeps (flow : Flow) (status : Int) : Keeps World.bearings (flow.close status) :=
  flow.release_keeps.bind fun _ => (World.note_keeps _ _ _).bind fun _ => Keeps.pure _

theorem finish_keeps (flow : Flow) : Keeps World.bearings flow.finish :=
  (Keeps.mapM Standing.await_keeps _).bind fun _ => (Keeps.forM Worker.join_keeps _).bind fun _ => flow.close_keeps _

theorem abort_keeps (flow : Flow) : Keeps World.bearings flow.abort :=
  flow.dropSupply_keeps.bind fun _ => (Keeps.forM Standing.quit_keeps _).bind fun _ =>
    (Keeps.forM Worker.join_keeps _).bind fun _ => flow.release_keeps.bind fun _ => Keeps.pure _

end Flow

namespace Stage

/-- A built-in command that a name stands for has that name. -/
theorem get?_of_find? {stage : Stage} {shell : Shell} {world : World} {command : Builtin}
    (h : stage.find? shell world = some (.builtin command)) : shell.commands.get? stage.name = some command := by
  unfold find? at h
  cases hname : shell.commands.get? stage.name with
  | some found =>
    rw [hname] at h
    cases h
    rfl
  | none =>
    rw [hname] at h
    cases hpath : shell.searchPath.resolve world stage.name <;> simp [hpath] at h

/-- The name of a program is not that of a built-in command. -/
theorem get?_of_find?_program {stage : Stage} {shell : Shell} {world : World} {path : String}
    (h : stage.find? shell world = some (.program path)) : shell.commands.get? stage.name = none := by
  unfold find? at h
  cases hname : shell.commands.get? stage.name with
  | some found =>
    rw [hname] at h
    cases h
  | none => rfl

theorem miss_keeps (stage : Stage) : Keeps World.bearings stage.miss :=
  (World.note_keeps _ _ _).bind fun _ => World.say_keeps _ _

theorem gather_keeps (callee : Callee) (flow : Flow) : Keeps World.bearings (gather callee flow) := by
  refine flow.fetch_keeps.bind fun flow => ?_
  cases callee with
  | builtin => exact flow.drain_keeps
  | program => exact Keeps.pure _

theorem builtinInput_keeps (stage : Stage) (supply : Supply) :
    Keeps World.bearings (stage.builtinInput supply) := by
  cases supply with
  | shellInput => exact Keeps.pure _
  | taken | nothing | piped | captured => exact World.newSource_keeps _

theorem builtinOutput_keeps (stage : Stage) : Keeps World.bearings stage.builtinOutput := by
  unfold builtinOutput
  split
  · exact World.newSink_keeps _
  · exact Keeps.pure _

theorem builtinStreams_keeps (stage : Stage) (supply : Supply) :
    Keeps World.bearings (stage.builtinStreams supply) :=
  (builtinInput_keeps _ _).bind fun _ => (builtinOutput_keeps _).bind fun _ => (World.note_keeps _ _ _).bind
    fun _ => Keeps.pure _

/-- A built-in stage keeps what its command keeps. -/
theorem runBuiltin_keeps {β : Type} (view : Bearings → β) {stage : Stage} {shell : Shell}
    {command : Builtin}
    (h : ∀ context, Keeps (fun world => view world.bearings) (command stage.args context)) (flow : Flow) :
    Keeps (fun world => view world.bearings) (stage.runBuiltin shell command flow) :=
  ((builtinStreams_keeps _ _).part view).bind fun _ => (World.newThread_keeps.part view).bind fun _ =>
    (World.asThread_keeps view _ (h _)).bind fun _ => Keeps.pure _

theorem programInput_keeps (stage : Stage) (supply : Supply) :
    Keeps World.bearings (stage.programInput supply) := by
  cases supply with
  | shellInput => exact World.inputFor_keeps _
  | nothing | captured => exact World.emptyInput_keeps.bind fun _ => Keeps.pure _
  | piped file => exact Keeps.pure _
  | taken bs => exact (Worker.startFeed_keeps _ _).bind fun _ => Keeps.pure _

theorem programOutput_keeps (stage : Stage) : Keeps World.bearings stage.programOutput := by
  unfold programOutput
  split
  · exact fun _ => rfl
  · exact (World.outputFor_keeps _).bind fun _ => Keeps.pure _

theorem runProgram_keeps (stage : Stage) (shell : Shell) (path : String) (flow : Flow) :
    Keeps World.bearings (stage.runProgram shell path flow) := by
  refine (Shell.flush_keeps _).bind fun _ => Keeps.get.bind fun world => ?_
  split
  · exact (World.note_keeps _ _ _).bind fun _ => (World.say_keeps _ _).bind fun _ => flow.skip_keeps _
  · refine (programInput_keeps _ _).bind fun stdin => (programOutput_keeps _).bind fun stdout =>
      (World.outputFor_keeps _).bind fun stderr => (Shell.countWorkers_keeps _).bind fun _ => ?_
    exact (Program.start_keeps _ _ _ _).bind fun _ => flow.dropSupply_keeps.bind fun _ => Keeps.pure _

/-- A stage keeps what its command keeps, if that is a built-in. -/
theorem start_keeps {β : Type} (view : Bearings → β) {stage : Stage} {shell : Shell}
    (h : ∀ command, shell.commands.get? stage.name = some command →
      ∀ context, Keeps (fun world => view world.bearings) (command stage.args context)) (flow : Flow) :
    Keeps (fun world => view world.bearings) (stage.start shell flow) := by
  refine Keeps.get.bind fun world => ?_
  have hlaunch (callee : Callee) (hfind : stage.find? shell world = some callee) (flow : Flow) :
      Keeps (fun world => view world.bearings) (stage.launch shell callee flow) := by
    cases callee with
    | program path => exact (runProgram_keeps _ _ _ _).part view
    | builtin command => exact runBuiltin_keeps view (h command (get?_of_find? hfind)) flow
  split
  · exact (stage.miss_keeps.part view).bind fun _ => Keeps.pure _
  · next callee hfind =>
    refine Keeps.get.bind fun world => ?_
    split
    · exact Keeps.pure _
    · refine ((gather_keeps _ _).part view).bind fun flow => Keeps.get.bind fun world => ?_
      split
      · exact Keeps.pure _
      · exact (hlaunch callee hfind flow).bind fun _ => Keeps.pure _

end Stage

/-! ### Opening a stage -/

variable (shell : Shell) (isLast : Bool) (words : List String) (flow : Flow)

/-- A stage comes to its end when its redirections cannot be opened or it has no command, or it has one and waits to be
started. -/
theorem openStage_cases (world : World) :
    (∃ next, (openStage shell isLast words flow world).1 = (next, none)) ∨
      ∃ streams redirection name args,
        (Redirection.apply (Invocation.ofWords words) shell.streams world).1 = .ok (streams, redirection) ∧
        (Invocation.ofWords words).words = name :: args ∧
        (openStage shell isLast words flow world).1 =
          ({ flow with redirections := flow.redirections ++ [redirection] },
            some { index := flow.stages.length, feedsNext := ! isLast && (Invocation.ofWords words).stdout.isNone
                   name, args, streams }) := by
  rw [openStage, Run.bind_apply]
  cases Redirection.apply (Invocation.ofWords words) shell.streams world with | mk result later
  cases result with
  | error failure => exact .inl ⟨_, rfl⟩
  | ok derived =>
    cases hwords : (Invocation.ofWords words).words with
    | nil => exact .inl ⟨_, rfl⟩
    | cons name args => exact .inr ⟨derived.1, derived.2, name, args, rfl, rfl, rfl⟩

theorem openStage_keeps : Keeps World.bearings (openStage shell isLast words flow) := by
  refine (Redirection.apply_keeps _ _).bind fun result => ?_
  split
  · exact ((World.note_keeps _ _ _).bind fun _ => World.say_keeps _ _).bind fun _ => (flow.skip_keeps _).bind fun _ =>
      Keeps.pure _
  · split
    · exact (Flow.skip_keeps _ _).bind fun _ => Keeps.pure _
    · exact Keeps.pure _

end Pipeline

end LineShell
