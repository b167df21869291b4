import LineShell.Proofs.Executions
import LineShell.Proofs.InOrder

/-!
# Two ways to run a stage

A line of one stage is run by itself, and a stage can also be all of a pipeline. The two ways open redirections, look
commands up, wire streams and clean up each on their own, and yet go through the same operations.

## The model

`Way.run` runs a stage either way. It says where the ways differ: in the records that are logged (`Way.note`), in the
thread of a built-in command (`Way.call`), in what is told of a name that stands for nothing and of a program that
cannot be started (`Way.miss`, `Way.fail`), and in that only a stage by itself flushes the streams of its command
(`Way.release`). Both functions of the shell are equal to it, in every world and whatever is logged (`runSingle_eq`,
`run_eq`).
-/

namespace LineShell

namespace World

theorem say_keeps_isGone (id : Nat) (text : String) : Keeps isGone (say id text) :=
  (write_keeps_plumbing _ _).discard.part Plumbing.isGone

theorem close_keeps_isGone (id : Nat) : Keeps isGone (close id) := fun world =>
  congrArg Plumbing.isGone (plumbing_close id world)

theorem newSink_keeps_isGone (sink : Sink) : Keeps isGone (newSink sink) := fun _ => rfl

theorem openHandle_keeps_isGone (handle : Handle) : Keeps isGone (openHandle handle) := fun world =>
  congrArg Plumbing.isGone ((hold_keeps_plumbing _ _).trans (plumbing_withHandle world handle))

end World

namespace Redirection

theorem openTarget_keeps_isGone (target : Target) : Keeps World.isGone (openTarget target) := by
  refine Keeps.get_bind fun world => ?_
  cases target.openIn world.files world.cwd with | mk result files
  have hset : KeepsFrom World.isGone world (set (world.withFiles files)) := rfl
  refine hset.bind ?_
  split
  · exact Keeps.pure _ _
  · exact ((World.note_keeps_isGone _ _ _).bind fun _ => (World.openHandle_keeps_isGone _).bind fun _ =>
      (World.newSink_keeps_isGone _).bind fun _ => Keeps.pure _) _

theorem bind_keeps_isGone (target : Option Target) (stream : Nat) : Keeps World.isGone (bind target stream) := by
  unfold bind
  split
  · exact Keeps.pure _
  · refine (openTarget_keeps_isGone _).bind fun result => ?_
    split <;> exact Keeps.pure _

theorem apply_keeps_isGone (i : Invocation) (streams : Streams) : Keeps World.isGone (apply i streams) := by
  refine (bind_keeps_isGone _ _).bind fun result => ?_
  split
  · exact Keeps.pure _
  · refine (bind_keeps_isGone _ _).bind fun result => ?_
    split
    · exact (Keeps.forM World.close_keeps_isGone _).bind fun _ => Keeps.pure _
    · exact Keeps.pure _

end Redirection

namespace Shell

/-! ### Two ways -/

/-- The two ways to run a single stage. -/
inductive Way where
  /-- By itself. -/
  | alone
  /-- As all of a pipeline. -/
  | piped

/-- What a name stands for. -/
def callee? (shell : Shell) (name : String) (world : World) : Option Pipeline.Callee :=
  match shell.commands.get? name with
  | some command => some (.builtin command)
  | none => (shell.searchPath.resolve world name).map .program

/-- Start a program on the given streams; gives the number of its process and the workers on its streams. -/
def spawn (program : Program) (streams : Streams) : Run (Nat × List Worker) := do
  let (stdin, feeding) ← World.inputFor streams.stdin
  let (stdout, collecting) ← World.outputFor streams.stdout
  let (stderr, noticing) ← World.outputFor streams.stderr
  let workers := feeding ++ collecting ++ noticing
  countWorkers workers
  return (← program.start stdin stdout stderr, workers)

/-- Run a program on the given streams; gives its status. -/
def conduct (program : Program) (streams : Streams) : Run Int := do
  let (pid, workers) ← spawn program streams
  let status ← Program.wait pid
  workers.forM Worker.join
  return status

namespace Way

/-- What is noted of a stage. -/
inductive Event where
  /-- It is to be run. -/
  | started
  /-- Its redirections cannot be opened. -/
  | refused (failure : Failure)
  /-- It calls a built-in command. -/
  | called (name : String) (args : List String)
  /-- It has ended. -/
  | ended (status : Int)

/-- Note something. -/
def note : Way → Event → Run Unit
  | alone, .started | alone, .ended _ => pure ()
  | alone, .refused failure => World.note .warn .interpreter s!"redirection failed: {failure.message}"
  | alone, .called name args => World.note .debug .interpreter s!"built-in {name} {Text.quoteList args}"
  | piped, .started => World.note .debug .pipeline s!"pipeline of {1} stages"
  | piped, .refused failure => World.note .warn .pipeline s!"stage {0}: {failure.message}"
  | piped, .called name _ => World.note .debug .pipeline s!"stage {0}: built-in {name}"
  | piped, .ended status => World.note .debug .pipeline s!"pipeline finished with {status}"

/-- Run a built-in command: by itself on the main thread, in a pipeline on a thread of its own, which may break
off. -/
def call : Way → Run Conclusion → Run Conclusion
  | alone, op => op
  | piped, op => do
    let conclusion ← (do World.asThread (← World.newThread) op)
    return .returned (← Pipeline.statusOf conclusion)

/-- Tell that a name stands for nothing. -/
def miss : Way → String → Streams → Run Unit
  | alone, name, streams => do
    World.note .debug .interpreter s!"{name}: not found"
    World.say streams.stdout s!"{name}: command not found\n"
  | piped, name, streams => do
    World.note .debug .pipeline s!"stage {0}: {name} not found, aborting"
    World.say streams.stderr s!"{name}: command not found\n"

/-- Tell that a program cannot be started. -/
def fail : Way → String → String → Cause → Streams → Run Unit
  | alone, name, path, cause, streams => do
    let failure := cause.during (.executing name path)
    World.note .warn .interpreter failure.message
    World.say streams.stderr (failure.message ++ "\n")
  | piped, name, path, cause, streams => do
    World.note .warn .pipeline s!"stage {0}: cannot spawn {path}: {cause.message}"
    World.say streams.stderr s!"{name}: {cause.message}\n"

/-- Close a stage: only a stage by itself flushes the streams of its command. -/
def release : Way → Streams → Redirection → Conclusion → Run Unit
  | alone, streams, redirection, conclusion => do
    if conclusion ≠ .faulted then Shell.flush streams
    discard redirection.release
  | piped, _, redirection, _ => discard redirection.release

/-- Close a stage that has come to a conclusion. -/
def close (way : Way) (streams : Streams) (redirection : Redirection) (conclusion : Conclusion) : Run Conclusion := do
  way.release streams redirection conclusion
  way.note (.ended conclusion.status)
  return conclusion

/-- Run a single stage. Beside the records there are two differences between the ways: the thread of a built-in
command, and that streams are flushed. A name that stands for nothing, and a program that cannot be started, are
told in different words. -/
def run (way : Way) (shell : Shell) (words : List String) : Run Conclusion := do
  way.note .started
  let i := Invocation.ofWords words
  match ← Redirection.apply i shell.streams with
  | .error failure =>
    way.note (.refused failure)
    World.say shell.streams.stderr (failure.message ++ "\n")
    way.note (.ended Status.failure)
    return .returned Status.failure
  | .ok (streams, redirection) =>
    match i.words with
    | [] => way.close streams redirection (.returned 0)
    | name :: args =>
      match shell.callee? name (← get) with
      | none =>
        way.miss name streams
        way.release streams redirection (.returned Status.notFound)
        return .returned Status.notFound
      | some (.builtin command) =>
        way.note (.called name args)
        way.close streams redirection (← way.call (command args (shell.context streams)))
      | some (.program path) =>
        Shell.flush streams
        match shell.starter (← get) name path args with
        | .error cause =>
          way.fail name path cause streams
          way.close streams redirection (.returned Status.failure)
        | .ok program => way.close streams redirection (.returned (← conduct program streams))

end Way

section

variable {shell : Shell} {words : List String} {world : World}

/-- The end of a stage that is run by itself. -/
theorem close_alone (streams : Streams) (redirection : Redirection) (conclusion : Conclusion) :
    Way.alone.close streams redirection conclusion = (do
      if conclusion ≠ .faulted then flush streams
      discard redirection.release
      return conclusion) := by
  cases conclusion <;> rfl

/-- To run a program by itself is to conduct it, if it can be started. -/
theorem runProgram_eq (shell : Shell) (name path : String) (args : List String) (streams : Streams) (world : World) :
    shell.runProgram name path args streams world =
      match shell.starter (flush streams world).2 name path args with
      | .error cause => (.error (cause.during (.executing name path)), (flush streams world).2)
      | .ok program => (do return Except.ok (← conduct program streams) : Run (Except Failure Int))
          (flush streams world).2 := by
  rw [runProgram, Run.bind_apply, Run.get_bind]
  cases shell.starter (flush streams world).2 name path args with
  | error cause => rfl
  | ok program => simp only [conduct, spawn, bind_assoc, pure_bind]

/-- A stage that is run by itself dispatches its command. -/
theorem runSingle_of_command {name : String} {args : List String} {streams : Streams} {r : Redirection} {later : World}
    (happly : Redirection.apply (Invocation.ofWords words) shell.streams world = (.ok (streams, r), later))
    (hwords : (Invocation.ofWords words).words = name :: args) :
    shell.runSingle words world = (shell.dispatch name args streams >>= Way.alone.close streams r) later := by
  rw [runSingle, Run.bind_apply, happly, funext (close_alone streams r)]
  dsimp only
  rw [hwords]

/-- To run a stage by itself is one of the ways. -/
theorem runSingle_eq (shell : Shell) (words : List String) : shell.runSingle words = Way.alone.run shell words := by
  funext world
  rw [Way.run, Way.note, pure_bind, Run.bind_apply]
  cases happly : Redirection.apply (Invocation.ofWords words) shell.streams world with | mk result later
  cases result with
  | error failure =>
    rw [runSingle, Run.bind_apply, happly]
    rfl
  | ok opened =>
    obtain ⟨streams, redirection⟩ := opened
    dsimp only
    cases hwords : (Invocation.ofWords words).words with
    | nil =>
      rw [runSingle, Run.bind_apply, happly]
      dsimp only
      rw [hwords]
      rfl
    | cons name args =>
      rw [runSingle_of_command happly hwords]
      dsimp only
      rw [dispatch, Run.get_bind, callee?]
      cases shell.commands.get? name with
      | some command => rfl
      | none =>
        dsimp only
        rw [bind_assoc, Run.get_bind]
        cases shell.searchPath.resolve later name with
        | none => rfl
        | some path =>
          dsimp only [Option.map]
          rw [bind_assoc, Run.bind_apply, runProgram_eq, Run.bind_apply (flush streams), Run.get_bind]
          cases shell.starter (flush streams later).2 name path args with
          | error cause => rfl
          | ok program =>
            dsimp only
            rw [Run.bind_apply (conduct program streams), Run.bind_apply (conduct program streams)]
            cases conduct program streams (flush streams later).2
            rfl

/-! ### In a pipeline -/

/-- A status that was returned, with the world that was left. -/
abbrev returned (outcome : Int × World) : Conclusion × World := outcome.map .returned id

/-- To finish a single stage is to wait for it and for its workers, and to release its redirections. -/
theorem finish_single {flow : Pipeline.Flow} (standing : Pipeline.Standing) (hstages : flow.stages = [standing]) :
    flow.finish = (do
      let status ← standing.await
      flow.workers.forM Worker.join
      flow.close status) := by
  simp only [Pipeline.Flow.finish, hstages, List.mapM_cons, List.mapM_nil, bind_assoc, pure_bind,
    List.getLast?_singleton, Option.getD_some]

/-- To finish a single stage whose redirections were opened. -/
theorem returned_finish (flow : Pipeline.Flow) {standing : Pipeline.Standing} {r : Redirection}
    (hstages : flow.stages = [standing]) (hr : flow.redirections = [r]) (streams : Streams) (world : World) :
    returned (flow.finish world) = (do
      let status ← standing.await
      flow.workers.forM Worker.join
      Way.piped.close streams r (.returned status)) world := by
  rw [finish_single standing hstages, Run.bind_apply, Run.bind_apply, Pipeline.Flow.close, Pipeline.Flow.release, hr]
  rfl

/-- The stage of a pipeline that has no other one. -/
abbrev onlyStage (name : String) (args : List String) (streams : Streams) : Pipeline.Stage :=
  { index := 0, feedsNext := false, name, args, streams }

/-- The flow of a pipeline that has opened its only stage. -/
abbrev onlyFlow (r : Redirection) : Pipeline.Flow := { redirections := [r] }

/-- The flow of a pipeline whose only stage has come to nothing. -/
abbrev endedFlow (status : Int) (redirections : List Redirection) : Pipeline.Flow :=
  { supply := .nothing, stages := [.ended status], redirections }

theorem openStage_of_refused {failure : Failure} {later : World}
    (happly : Redirection.apply (Invocation.ofWords words) shell.streams world = (.error failure, later)) :
    Pipeline.openStage shell true words {} world =
      ((endedFlow Status.failure [], none), (Pipeline.refuse shell 0 failure later).2) := by
  rw [Pipeline.openStage, Run.bind_apply, happly]
  rfl

theorem openStage_of_bare {streams : Streams} {r : Redirection} {later : World}
    (happly : Redirection.apply (Invocation.ofWords words) shell.streams world = (.ok (streams, r), later))
    (hwords : (Invocation.ofWords words).words = []) :
    Pipeline.openStage shell true words {} world = ((endedFlow 0 [r], none), later) := by
  rw [Pipeline.openStage, Run.bind_apply, happly]
  dsimp only
  rw [hwords]
  rfl

theorem openStage_of_command {name : String} {args : List String} {streams : Streams} {r : Redirection} {later : World}
    (happly : Redirection.apply (Invocation.ofWords words) shell.streams world = (.ok (streams, r), later))
    (hwords : (Invocation.ofWords words).words = name :: args) :
    Pipeline.openStage shell true words {} world = ((onlyFlow r, some (onlyStage name args streams)), later) := by
  rw [Pipeline.openStage, Run.bind_apply, happly]
  dsimp only
  rw [hwords]
  rfl

/-- A stage that has come to nothing is finished. -/
theorem runFrom_of_ended {status : Int} {redirections : List Redirection} {later : World}
    (hopen : Pipeline.openStage shell true words {} world = ((endedFlow status redirections, none), later)) :
    Pipeline.runFrom shell [words] {} world = (endedFlow status redirections).close status later := by
  have hfinish : (endedFlow status redirections).finish = (endedFlow status redirections).close status := by
    rw [finish_single (.ended status) rfl]
    rfl
  rw [Pipeline.Executor.runFrom_cons, Pipeline.step, List.isEmpty_nil, bind_assoc, Run.bind_apply, hopen]
  dsimp only
  rw [pure_bind, Pipeline.Executor.resume, ← hfinish]
  rfl

/-- A stage that has a command looks it up. -/
theorem runFrom_of_command {name : String} {args : List String} {streams : Streams} {r : Redirection} {later : World}
    (hopen : Pipeline.openStage shell true words {} world = ((onlyFlow r, some (onlyStage name args streams)), later)) :
    Pipeline.runFrom shell [words] {} world =
      ((onlyStage name args streams).start shell (onlyFlow r) >>= Pipeline.Executor.resume shell []) later := by
  rw [Pipeline.Executor.runFrom_cons, Pipeline.step, List.isEmpty_nil, bind_assoc, Run.bind_apply, hopen]

section

variable {name : String} {args : List String} {streams : Streams} {r : Redirection}

theorem returned_unknown (hcallee : shell.callee? name world = none) :
    returned (((onlyStage name args streams).start shell (onlyFlow r) >>= Pipeline.Executor.resume shell []) world) =
      (do
        Way.piped.miss name streams
        Way.piped.release streams r (.returned Status.notFound)
        return Conclusion.returned Status.notFound : Run Conclusion) world := by
  have hstart : (onlyStage name args streams).start shell (onlyFlow r) world =
      (.unknown (onlyFlow r), ((onlyStage name args streams).miss world).2) := by
    have hfind : (onlyStage name args streams).find? shell world = none := hcallee
    rw [Pipeline.Stage.start, Run.get_bind, hfind]
    rfl
  have hmiss : (onlyStage name args streams).miss = Way.piped.miss name streams := rfl
  have habort : (onlyFlow r).abort = (do
      Way.piped.release streams r (.returned Status.notFound)
      return Status.notFound) := by
    simp only [Pipeline.Flow.abort, Pipeline.Flow.dropSupply, Pipeline.Flow.release, List.forM_eq_forM, List.forM_nil,
      List.forM_cons, pure_bind, Way.release, bind_pure_unit]
  rw [Run.bind_apply, hstart, hmiss, Pipeline.Executor.resume, habort]
  rfl

/-- A stage that stands for something is started and finished, unless the shell is gone. -/
theorem start_single {callee : Pipeline.Callee} (hcallee : shell.callee? name world = some callee)
    (hthere : world.isGone = false) :
    ((onlyStage name args streams).start shell (onlyFlow r) >>= Pipeline.Executor.resume shell []) world =
      ((onlyStage name args streams).launch shell callee (onlyFlow r) >>= Pipeline.Flow.finish) world := by
  have hgather : Pipeline.Stage.gather callee (onlyFlow r) = pure (onlyFlow r) := by
    cases callee <;> rfl
  have hgone : ¬ world.isGone = true := Bool.eq_false_iff.1 hthere
  have hlast : Pipeline.runFrom shell [] = Pipeline.Flow.finish := rfl
  have hfind : (onlyStage name args streams).find? shell world = some callee := hcallee
  rw [Pipeline.Executor.start_of_find? hfind, Pipeline.Executor.provide,
    Run.get_bind, if_neg hgone, hgather, pure_bind, Pipeline.Executor.proceed, Run.get_bind, if_neg hgone, hlast]

theorem returned_builtin (command : Builtin) :
    returned (((onlyStage name args streams).launch shell (.builtin command)
    (onlyFlow r) >>= Pipeline.Flow.finish) world) = (do
      Way.piped.note (.called name args)
      Way.piped.close streams r (← Way.piped.call (command args (shell.context streams)))) world := by
  have hlaunch : (onlyStage name args streams).launch shell (.builtin command) (onlyFlow r) = (do
      Way.piped.note (.called name args)
      let thread ← World.newThread
      let conclusion ← World.asThread thread (command args (shell.context streams))
      return { onlyFlow r with supply := .nothing, stages := [.finished conclusion] }) := rfl
  rw [hlaunch]
  exact returned_finish { onlyFlow r with supply := .nothing, stages := [.finished _] } rfl rfl streams _

theorem returned_failed {path : String} {cause : Cause}
    (hprogram : shell.starter (flush streams world).2 name path args = .error cause) :
    returned (((onlyStage name args streams).launch shell (.program path) (onlyFlow r) >>= Pipeline.Flow.finish)
      world) = (do
        Way.piped.fail name path cause streams
        Way.piped.close streams r (.returned Status.failure)) (flush streams world).2 := by
  have hlaunch : (onlyStage name args streams).launch shell (.program path) (onlyFlow r) world = (do
      Way.piped.fail name path cause streams
      return endedFlow Status.failure [r] : Run Pipeline.Flow) (flush streams world).2 := by
    have hskip : (onlyFlow r).skip Status.failure = pure (endedFlow Status.failure [r]) := rfl
    rw [Pipeline.Stage.launch, Pipeline.Stage.runProgram, Run.bind_apply, Run.get_bind, hprogram]
    simp only [hskip, Way.fail, bind_assoc]
  rw [Run.bind_apply, hlaunch]
  exact returned_finish (endedFlow Status.failure [r]) rfl rfl streams _

theorem returned_program {path : String} {program : Program}
    (hprogram : shell.starter (flush streams world).2 name path args = .ok program) :
    returned (((onlyStage name args streams).launch shell (.program path) (onlyFlow r) >>= Pipeline.Flow.finish)
      world) = (do
        Way.piped.close streams r (.returned (← conduct program streams))) (flush streams world).2 := by
  have hlaunch : (onlyStage name args streams).launch shell (.program path) (onlyFlow r) world = (do
      let (pid, workers) ← spawn program streams
      return { onlyFlow r with supply := .nothing, stages := [.running pid], workers } : Run Pipeline.Flow)
        (flush streams world).2 := by
    have hdrop : (onlyFlow r).dropSupply = pure () := rfl
    rw [Pipeline.Stage.launch, Pipeline.Stage.runProgram, Run.bind_apply, Run.get_bind, hprogram]
    simp only [Pipeline.Stage.programInput, Pipeline.Stage.programOutput, hdrop, spawn, bind_assoc, pure_bind,
      Bool.false_eq_true, if_false, Pipeline.Flow.next, List.nil_append]
  rw [Run.bind_apply, hlaunch, Run.bind_apply, Run.bind_apply, conduct, Run.bind_apply]
  cases spawn program streams (flush streams world).2 with | mk started later
  let flow : Pipeline.Flow :=
    { onlyFlow r with supply := .nothing, stages := [.running started.1], workers := started.2 }
  exact returned_finish flow rfl rfl streams later

/-- To run a pipeline of a single stage is the other way. -/
theorem run_eq (hthere : world.isGone = false) :
    returned (Pipeline.run shell [words] world) = Way.piped.run shell words world := by
  rw [Pipeline.run, Way.run, Run.bind_apply, Run.bind_apply (Way.note _ _)]
  have hnoted : (Way.piped.note .started world).2.isGone = false := (World.note_keeps_isGone _ _ _ _).trans hthere
  change returned (Pipeline.runFrom shell [words] {} (Way.piped.note .started world).2) = _
  generalize (Way.piped.note .started world).2 = noted at hnoted
  rw [Run.bind_apply]
  have hlater := (Redirection.apply_keeps_isGone (Invocation.ofWords words) shell.streams noted).trans hnoted
  cases happly : Redirection.apply (Invocation.ofWords words) shell.streams noted with | mk result later
  rw [happly] at hlater
  cases result with
  | error failure =>
    rw [runFrom_of_ended (openStage_of_refused happly)]
    rfl
  | ok opened =>
    obtain ⟨streams, r⟩ := opened
    cases hwords : (Invocation.ofWords words).words with
    | nil =>
      rw [runFrom_of_ended (openStage_of_bare happly hwords)]
      rfl
    | cons name args =>
      rw [runFrom_of_command (openStage_of_command happly hwords)]
      dsimp only
      rw [Run.get_bind]
      cases hcallee : shell.callee? name later with
      | none => exact returned_unknown hcallee
      | some callee =>
        rw [start_single hcallee hlater]
        cases callee with
        | builtin command => exact returned_builtin command
        | program path =>
          dsimp only
          rw [Run.bind_apply (flush streams), Run.get_bind]
          cases hprogram : shell.starter (flush streams later).2 name path args with
          | error cause => exact returned_failed hprogram
          | ok program => exact returned_program hprogram

end

end

end Shell

end LineShell
