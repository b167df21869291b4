import LineShell.Proofs.Executor

/-!
# The order of a run

What `Pipeline.run` does is one of the executions of a pipeline: the one in which every built-in command does all its
work as soon as it is started, and processes go on only while the shell waits. If the shell waits for something that
never comes, that execution gets stuck there.
-/

namespace LineShell

open Script (Machine Schedule)

namespace Pipeline

namespace Executor

variable {shell : Shell} {division : Division shell} {e e' : Executor}

/-- The pipeline has returned a status and left a world. -/
structure Returns (outcome : Int × World) (e : Executor) : Prop where
  /-- The status. -/
  phase : e.phase = .returned outcome.1
  /-- The world. -/
  world : e.world = outcome.2

/-- The pipeline has not returned, and nobody can go on. -/
structure Blocked (shell : Shell) (division : Division shell) (e : Executor) : Prop where
  /-- It has not returned. -/
  phase : ∀ status, e.phase ≠ .returned status
  /-- Nobody can go on. -/
  stuck : e.Stuck shell division

variable (shell division) in
/-- Some execution comes to an outcome, unless it gets stuck. -/
def ComesTo (outcome : Int × World) (e : Executor) : Prop :=
  ∃ e', Reaches shell division e e' ∧ (e'.Returns outcome ∨ e'.Blocked shell division)

variable {outcome : Int × World}

theorem ComesTo.of_reaches (hreaches : Reaches shell division e e') (h : e'.ComesTo shell division outcome) :
    e.ComesTo shell division outcome := by
  obtain ⟨e'', hthen, hends⟩ := h
  exact ⟨e'', hreaches.trans hthen, hends⟩

theorem comesTo_of_returns (h : e.Returns outcome) : e.ComesTo shell division outcome := ⟨e, .refl, .inl h⟩

/-- What the main thread does when it need not wait. -/
theorem ComesTo.of_action (hready : e.isReady = true)
    (h : (e.after (action shell division e.flow e.phase)).ComesTo shell division outcome) :
    e.ComesTo shell division outcome :=
  .of_reaches (.single (.thread (.main (if_pos hready)))) h

/-- Where all threads wait, processes do not go on. -/
theorem not_passes {world world' : World} {now : Nat}
    (h : ({ machine := world.machine, threads := world.tasks, now : Schedule }).step none = none) :
    ¬ world.Passes world' := by
  intro hpasses
  have hnone (s : Schedule) :
      ¬ Schedule.Turn { machine := world.machine, threads := world.tasks, now := world.clock } s := by
    intro hturn
    cases hturn with
    | gone now' hperm hready =>
      exact Schedule.ready_of_step_eq_none h now' _ (hperm.mem_iff.2 List.mem_cons_self) hready
    | work now' limit hperm hready =>
      exact Schedule.ready_of_step_eq_none h now' _ (hperm.mem_iff.2 List.mem_cons_self) hready
  cases hpasses with
  | intro clock hturns =>
    obtain ⟨s, hturn, -⟩ := Relation.TransGen.head'_iff.1 hturns
    exact hnone s hturn

/-! ### Waiting -/

end Executor

end Pipeline

namespace World

/-- What the shell waits for has come, or it is gone. -/
def isOver (holds : Machine → Bool) (m : Machine) : Bool := holds m || ! m.isAlive shellPid

/-- How things stand when the shell has waited. -/
def waited (holds : Machine → Bool) (world : World) : Schedule :=
  Schedule.run (isOver holds) none { machine := world.machine, threads := world.tasks, now := world.clock }

/-- The world as processes leave it. -/
def leftBy (world : World) (s : Schedule) : World :=
  { world with machine := s.machine, tasks := s.threads, clock := max world.clock s.now }

theorem await_apply (holds : Machine → Bool) (world : World) :
    await holds world = ((), { world.leftBy (world.waited holds) with
      stalled := world.stalled || ! isOver holds (world.waited holds).machine }) :=
  rfl

theorem await_of_isOver {holds : Machine → Bool} {world : World} (h : isOver holds (world.waited holds).machine = true) :
    await holds world = ((), world.leftBy (world.waited holds)) := by
  rw [await_apply, h, Bool.not_true, Bool.or_false]
  rfl

/-- The shell does not wait for what has come already. -/
theorem await_of_holds {holds : Machine → Bool} {world : World} (h : isOver holds world.machine = true) :
    await holds world = ((), world) := by
  have hwaited : world.waited holds = { machine := world.machine, threads := world.tasks, now := world.clock } := by
    rw [waited, Schedule.run_eq, if_pos h]
  rw [await_of_isOver (by rw [hwaited]; exact h), hwaited, leftBy, max_self]

end World

namespace Pipeline

namespace Executor

variable {shell : Shell} {division : Division shell} {e e' : Executor}

variable {world : World} {flow : Flow} {phase : Phase} {rest : List (List String)}

/-- The shell waits while processes go on. -/
theorem comesTo_await {holds : Machine → Bool} {op : Run Int} (hidle : Idle flow)
    (hphase : ∀ status, phase ≠ .returned status)
    (hready : ∀ world, ({ world, flow, phase : Executor }).isReady = World.isOver holds world.machine)
    (h : ∀ world, World.isOver holds world.machine = true →
      ({ world, flow, phase : Executor }).ComesTo shell division (op world)) :
    ({ world, flow, phase : Executor }).ComesTo shell division ((do World.await holds; op) world) := by
  have hreaches : Reaches shell division { world, flow, phase }
      { world := world.leftBy (world.waited holds), flow, phase } := by
    obtain heq | hturns := Relation.reflTransGen_iff_eq_or_transGen.1 (Schedule.reflTransGen_turn_run
      (World.isOver holds) none { machine := world.machine, threads := world.tasks, now := world.clock })
    · have hleft : world.leftBy (world.waited holds) = world := by
        rw [World.leftBy, World.waited, heq, max_self]
      rw [hleft]
    · exact .single (.process (.intro _ hturns))
  refine .of_reaches hreaches ?_
  by_cases hover : World.isOver holds (world.waited holds).machine = true
  · -- What the shell waits for has come.
    rw [Run.bind_apply, World.await_of_isOver hover]
    exact h _ hover
  · -- Nobody goes on.
    have hnone := (Schedule.run_ends (World.isOver holds) _).resolve_left hover
    refine ⟨_, .refl, .inr ⟨hphase, fun e' hmove => ?_⟩⟩
    cases hmove with
    | thread hstep =>
      cases hstep with
      | main hmain =>
        have hready := (hready (world.leftBy (world.waited holds))).trans (Bool.eq_false_iff.2 hover)
        rw [advance, hready] at hmain
        cases hmain
      | stage place hturn => simp [Idle.turn (e := { world := _, flow, phase }) hidle place] at hturn
    | process hpasses => exact not_passes hnone hpasses

/-- The shell waits for a stage, if that is not a thread. -/
theorem comesTo_standing {standing : Standing} (next : Int → Run Int) (hidle : Idle flow)
    (hphase : ∀ status, phase ≠ .returned status) (hmem : standing ∈ flow.stages)
    (hready : ∀ world, ({ world, flow, phase : Executor }).isReady = standing.isOver world)
    (h : ∀ world, ({ world, flow, phase : Executor }).isReady = true →
      ({ world, flow, phase : Executor }).ComesTo shell division ((standing.await >>= next) world)) :
    ({ world, flow, phase : Executor }).ComesTo shell division ((standing.await >>= next) world) := by
  cases standing with
  | ended status => exact h world (hready world)
  | finished conclusion => exact h world (hready world)
  | task thread act later => exact (hidle _ hmem _ rfl).elim
  | running pid =>
    rw [Standing.await, Program.wait, bind_assoc] at h ⊢
    refine comesTo_await hidle hphase hready fun world hover => ?_
    have hdone := h world ((hready world).trans hover)
    rwa [Run.bind_apply, World.await_of_holds hover] at hdone

/-- The shell waits for a worker. -/
theorem comesTo_worker {worker : Worker} {next : Run Int} (hidle : Idle flow)
    (hphase : ∀ status, phase ≠ .returned status)
    (hready : ∀ world, ({ world, flow, phase : Executor }).isReady = (worker.isDone world.machine || world.isGone))
    (h : ∀ world, ({ world, flow, phase : Executor }).isReady = true →
      ({ world, flow, phase : Executor }).ComesTo shell division ((do worker.join; next) world)) :
    ({ world, flow, phase : Executor }).ComesTo shell division ((do worker.join; next) world) := by
  rw [Worker.join, bind_assoc] at h ⊢
  refine comesTo_await hidle hphase hready fun world hover => ?_
  have hdone := h world ((hready world).trans hover)
  rwa [Run.bind_apply, World.await_of_holds hover] at hdone

/-! ### The end -/

theorem comesTo_collecting (hidle : Idle flow) (workers : List Worker) (status : Int) (world : World) :
    ({ world, flow, phase := .collecting workers status : Executor }).ComesTo shell division
      ((do workers.forM Worker.join; flow.close status) world) := by
  induction workers generalizing world with
  | nil => exact .of_action rfl (comesTo_of_returns ⟨rfl, rfl⟩)
  | cons worker workers ih =>
    rw [List.forM_eq_forM, List.forM_cons, bind_assoc, ← List.forM_eq_forM]
    exact comesTo_worker hidle nofun (fun _ => rfl) fun world hready => .of_action hready (ih _)

theorem comesTo_leaving (hidle : Idle flow) (workers : List Worker) (world : World) :
    ({ world, flow, phase := .leaving workers : Executor }).ComesTo shell division
      ((do workers.forM Worker.join; flow.release; return Status.notFound) world) := by
  induction workers generalizing world with
  | nil => exact .of_action rfl (comesTo_of_returns ⟨rfl, rfl⟩)
  | cons worker workers ih =>
    rw [List.forM_eq_forM, List.forM_cons, bind_assoc, ← List.forM_eq_forM]
    exact comesTo_worker hidle nofun (fun _ => rfl) fun world hready => .of_action hready (ih _)

/-- The induction is on how many stages are yet to be waited for. -/
theorem comesTo_joining (hidle : Idle flow) {left place : Nat} (hplace : place + left = flow.stages.length)
    (status : Int) (world : World) :
    ({ world, flow, phase := .joining place status : Executor }).ComesTo shell division ((do
      let statuses ← (flow.stages.drop place).mapM Standing.await
      flow.workers.forM Worker.join
      flow.close (statuses.getLast?.getD status)) world) := by
  induction left generalizing place status world with
  | zero =>
    have hnone : flow.stages[place]? = none := List.getElem?_eq_none (by omega)
    refine .of_action (by simp only [isReady, hnone, Option.all_none]) ?_
    rw [List.drop_of_length_le (by omega), List.mapM_nil, pure_bind, action, join, hnone]
    exact comesTo_collecting hidle _ _ _
  | succ left ih =>
    have hlt : place < flow.stages.length := by omega
    have hsome : flow.stages[place]? = some flow.stages[place] := List.getElem?_eq_getElem hlt
    rw [List.drop_eq_getElem_cons hlt, List.mapM_cons]
    simp only [bind_assoc, pure_bind, List.getLast?_cons, Option.getD_some]
    refine comesTo_standing _ hidle nofun (List.getElem_mem hlt)
      (fun world => by simp only [isReady, hsome, Option.all_some]) fun world hready => .of_action hready ?_
    rw [action, join, hsome]
    exact ih (by omega) _ _

/-- The induction is on how many stages are yet to be waited for. -/
theorem comesTo_stopping (hidle : Idle flow) {left place : Nat} (hplace : place + left = flow.stages.length)
    (world : World) :
    ({ world, flow, phase := .stopping place : Executor }).ComesTo shell division ((do
      (flow.stages.drop place).forM Standing.quit
      flow.workers.forM Worker.join
      flow.release
      return Status.notFound) world) := by
  induction left generalizing place world with
  | zero =>
    have hnone : flow.stages[place]? = none := List.getElem?_eq_none (by omega)
    refine .of_action rfl ?_
    rw [List.drop_of_length_le (by omega), List.forM_eq_forM, List.forM_nil, pure_bind, action, stop, hnone]
    exact comesTo_leaving hidle _ _
  | succ left ih =>
    have hlt : place < flow.stages.length := by omega
    have hsome : flow.stages[place]? = some flow.stages[place] := List.getElem?_eq_getElem hlt
    rw [List.drop_eq_getElem_cons hlt, List.forM_eq_forM, List.forM_cons, ← List.forM_eq_forM, bind_assoc,
      Standing.quit, bind_assoc, Run.bind_apply]
    refine .of_action rfl ?_
    rw [action, stop, hsome]
    refine comesTo_standing (fun _ => _) hidle nofun (List.getElem_mem hlt)
      (fun world => by simp only [isReady, hsome, Option.all_some]) fun world hready => .of_action hready ?_
    rw [action, quit, hsome]
    exact ih (by omega) _

theorem comesTo_finish (hidle : Idle flow) (world : World) :
    ({ world, flow, phase := .opening [] : Executor }).ComesTo shell division (flow.finish world) :=
  .of_action rfl (comesTo_joining hidle (Nat.zero_add _) 0 world)

theorem comesTo_abort (hidle : Idle flow) (world : World) :
    ({ world := (flow.dropSupply world).2, flow, phase := .stopping 0 : Executor }).ComesTo shell division
      (flow.abort world) :=
  comesTo_stopping hidle (Nat.zero_add _) _

/-! ### One stage -/

/-- The last stage makes a step. -/
theorem turn_next (world : World) (flow : Flow) (supply : Supply) (phase : Phase) (thread : Nat) (act : World → World)
    (next : World → Work) :
    let before := { world with thread }
    ({ world, flow := flow.next (.task thread act next) supply, phase : Executor }).turn flow.stages.length =
      some { world := { act before with thread := world.thread }
             flow := flow.next (.ofWork (act before).thread (next before)) supply, phase } := by
  have hset (standing standing' : Standing) :
      (flow.next standing supply).with flow.stages.length standing' = flow.next standing' supply := by
    rw [Flow.with, Flow.next, List.set_append_right _ _ (Nat.le_refl _), Nat.sub_self]
    rfl
  have hget : (flow.next (.task thread act next) supply).stages[flow.stages.length]? = some (.task thread act next) :=
    List.getElem?_concat_length
  simp only [Executor.turn, hget, hset]

/-- A thread does its work. -/
theorem reaches_finished (work : Work) (thread : Nat) (world : World) (flow : Flow) (supply : Supply)
    (phase : Phase) :
    Reaches shell division { world, flow := flow.next (.ofWork thread work) supply, phase }
      { world := (World.asThread thread work.run world).2
        flow := flow.next (.finished (World.asThread thread work.run world).1) supply, phase } := by
  induction work generalizing thread world with
  | ended conclusion => exact .refl
  | step act next ih => exact .head (.thread (.stage _ (turn_next ..))) (ih _ _ _)

/-- What is done from the opening of a stage on. -/
def Goes (shell : Shell) (division : Division shell) (rest : List (List String)) : Prop :=
  ∀ flow world, Idle flow →
    ({ world, flow, phase := .opening rest : Executor }).ComesTo shell division (runFrom shell rest flow world)

variable (shell) in
/-- Start a stage on what was gathered for it, and go on. -/
def proceed (stage : Stage) (callee : Callee) (rest : List (List String)) (flow : Flow) : Run Int := do
  if (← get).isGone then return Status.failure
  else stage.launch shell callee flow >>= runFrom shell rest

variable (shell) in
/-- Gather what a stage is to read, and go on. -/
def provide (stage : Stage) (callee : Callee) (rest : List (List String)) (flow : Flow) : Run Int := do
  if (← get).isGone then return Status.failure
  else Stage.gather callee flow >>= proceed shell stage callee rest

section

variable {stage : Stage} {callee : Callee} (hrest : Goes shell division rest) (hidle : Idle flow)
  (hcallee : ∀ command, callee = .builtin command → shell.commands.get? stage.name = some command)

include hrest hidle hcallee

theorem comesTo_launching (world : World) :
    ({ world, flow, phase := .launching stage callee rest : Executor }).ComesTo shell division
      (proceed shell stage callee rest flow world) := by
  refine .of_action rfl ?_
  rw [proceed, Run.get_bind]
  simp only [after, action, unlessGone, Run.get_bind]
  split
  · exact comesTo_of_returns ⟨rfl, rfl⟩
  · cases callee with
    | program path => exact hrest _ _ (hidle.kept (Changes.runProgram (fun _ => rfl) (fun _ => rfl) stage path world))
    | builtin command =>
      refine .of_reaches (reaches_finished _ _ _ _ _ _) ?_
      rw [division.run_work (hcallee command rfl)]
      exact hrest _ _ (allWork_next hidle _ fun _ hmem => by cases hmem)

theorem comesTo_draining (file : Nat) (world : World) :
    ({ world, flow, phase := .draining stage callee file rest : Executor }).ComesTo shell division ((do
      World.await (Flow.isDry file)
      let bs ← Flow.empty file
      proceed shell stage callee rest { flow with supply := .taken bs }) world) :=
  comesTo_await hidle nofun (fun _ => rfl) fun world hover =>
    .of_action hover <| @comesTo_launching shell division { flow with supply := .taken (Flow.empty file world).1 } rest
      stage callee hrest hidle hcallee _

theorem comesTo_fetching (world : World) :
    ({ world, flow, phase := .fetching stage callee rest : Executor }).ComesTo shell division
      (provide shell stage callee rest flow world) := by
  refine .of_action hidle.isSettled ?_
  rw [provide, Run.get_bind]
  simp only [after, action, unlessGone, Run.get_bind]
  split
  · exact comesTo_of_returns ⟨rfl, rfl⟩
  · have hfetched : Idle (flow.fetch world).1 := hidle.kept (Changes.fetch trivial world)
    rw [Stage.gather, bind_assoc, Run.bind_apply]
    simp only [fetch, Run.bind_apply flow.fetch]
    cases hfetch : flow.fetch world with | mk fetched later
    rw [hfetch] at hfetched
    cases callee with
    | program path => exact comesTo_launching hrest hfetched hcallee later
    | builtin command =>
      cases hsupply : fetched.supply with
      | piped file =>
        simp only [Flow.drain, hsupply]
        exact comesTo_draining hrest hfetched hcallee file _
      | shellInput | nothing | captured | taken =>
        simp only [Flow.drain, hsupply]
        exact comesTo_launching hrest hfetched hcallee later

end

variable (shell) in
/-- Go on after a stage. -/
def resume (rest : List (List String)) : Sequel → Run Int
  | .on flow => runFrom shell rest flow
  | .unknown flow => flow.abort
  | .gone => return Status.failure

theorem runFrom_cons (words : List String) (rest : List (List String)) (flow : Flow) :
    runFrom shell (words :: rest) flow = step shell rest.isEmpty words flow >>= resume shell rest :=
  rfl

/-- A stage that has a command is provided for and started. -/
theorem start_of_find? {stage : Stage} {callee : Callee} {world : World}
    (hfind : stage.find? shell world = some callee) :
    (stage.start shell flow >>= resume shell rest) world = provide shell stage callee rest flow world := by
  simp only [Stage.start, bind_assoc, provide, Run.get_bind, hfind]
  split
  · rfl
  · rw [Run.bind_apply, Run.bind_apply (Stage.gather callee flow), Run.bind_apply (Stage.gather callee flow)]
    simp only [proceed, Run.get_bind]
    split <;> rfl

theorem comesTo_finding (hrest : Goes shell division rest) (hidle : Idle flow) (stage : Stage) (world : World) :
    ({ world, flow, phase := .finding stage rest : Executor }).ComesTo shell division
      ((stage.start shell flow >>= resume shell rest) world) := by
  refine .of_action rfl ?_
  simp only [after, action, look, Run.get_bind]
  cases hfind : stage.find? shell world with
  | none =>
    have hstart : stage.start shell flow world = (.unknown flow, (stage.miss world).2) := by
      simp only [Stage.start, Run.get_bind, hfind]
      rfl
    rw [Run.bind_apply, hstart]
    exact comesTo_abort hidle _
  | some callee =>
    rw [start_of_find? hfind]
    refine comesTo_fetching hrest hidle (fun command heq => ?_) world
    subst heq
    exact Stage.get?_of_find? hfind

/-- The induction is on the stages. -/
theorem comesTo_runFrom (stages : List (List String)) : Goes shell division stages := by
  induction stages with
  | nil => exact fun flow world hidle => comesTo_finish hidle world
  | cons words rest ih =>
    intro flow world hidle
    refine .of_action rfl ?_
    have hopened : Idle (openStage shell rest.isEmpty words flow world).1.1 :=
      hidle.kept (Changes.openStage (fun _ => rfl) rest.isEmpty words world)
    rw [runFrom_cons, step, bind_assoc, Run.bind_apply]
    simp only [after, action, openNext, Run.bind_apply]
    cases hopen : openStage shell rest.isEmpty words flow world with | mk opened later
    obtain ⟨next, stage?⟩ := opened
    rw [hopen] at hopened
    cases stage? with
    | none => exact ih _ _ hopened
    | some stage => exact comesTo_finding ih hopened stage later

/-- **What a pipeline does is one of its executions**, unless that one gets stuck. -/
theorem comesTo_run (division : Division shell) (stages : List (List String)) (world : World) :
    (start stages world).ComesTo shell division (run shell stages world) :=
  comesTo_runFrom stages {} _ nofun

end Executor

end Pipeline

end LineShell
