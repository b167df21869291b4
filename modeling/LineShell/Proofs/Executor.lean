import LineShell.Proofs.Bearings
import LineShell.Proofs.Schedules
import Mathlib.Data.Prod.Lex
import Mathlib.Logic.Hydra

/-!
# Pipelines in any order

`Pipeline.run` fixes who goes on when: a built-in command does all its work as soon as it is started, and processes go
on only while the shell waits. An `Executor` leaves that open. Its main thread does what `Pipeline.run` does, piece by
piece, and waits where that waits; between any two of its steps the threads of built-in stages make steps, and processes
have turns, in any order.

## The model

A command is divided into steps (`Work`) between which others can go on; a `Division` does that to all commands of a
shell, in any way that leaves a command that runs alone as it is. `Executor.advance` is the next step of the main thread,
if it need not wait (`isReady`), `Executor.turn` that of a built-in stage, and `World.Passes` what processes do. A `Step`
is one of the first two kinds, a `Move` one of all three. Nothing goes on for ever (`wellFounded_move`), so an executor
comes to whatever holds wherever it can stop (`inevitable_of_stuck`).
-/

namespace LineShell

open Script (Schedule Task)

/-! ### Work in steps -/

/-- A way to divide the commands of a shell into steps. -/
structure Division (shell : Shell) where
  /-- The steps of a call. -/
  work : String → List String → Context → Work
  /-- They are those of the command. -/
  run_work : ∀ {name command}, shell.commands.get? name = some command →
    ∀ args context, (work name args context).run = command args context

/-- Every command is a single step. -/
def Division.whole (shell : Shell) : Division shell where
  work name args context :=
    match shell.commands.get? name with
    | none => .ended .faulted
    | some command =>
      .step (fun world => (command args context world).2) fun world => .ended (command args context world).1
  run_work hcommand _ _ := by
    rw [hcommand]
    rfl

namespace Work

/-- What is left after a step. -/
inductive Below : Work → Work → Prop where
  /-- What follows the step. -/
  | next (act : World → World) (next : World → Work) (world : World) : Below (next world) (.step act next)

theorem wellFounded_below : WellFounded Below := by
  refine ⟨fun work => ?_⟩
  induction work with
  | ended conclusion => exact ⟨_, fun _ h => nomatch h⟩
  | step act next ih =>
    refine ⟨_, fun w h => ?_⟩
    cases h with
    | next _ _ world => exact ih world

end Work

/-! ### Results -/

namespace Run

variable {α β : Type}

/-- Whatever the world is in which it is run, an operation has a result of some kind. -/
def Yields (op : Run α) (Q : α → Prop) : Prop := ∀ world, Q (op world).1

namespace Yields

variable {op : Run α} {P : α → Prop} {f : α → Run β} {Q : β → Prop}

theorem pure {a : α} (h : P a) : Yields (Pure.pure a) P := fun _ => h

theorem bind (h : op.Yields P) (hf : ∀ a, P a → (f a).Yields Q) : (op >>= f).Yields Q := fun world => hf _ (h world) _

/-- The result of a first operation does not matter. -/
theorem after (hf : ∀ a, (f a).Yields Q) : (op >>= f).Yields Q := fun _ => hf _ _

end Yields

end Run

/-! ### Processes -/

/-- Processes go on beside the shell. -/
inductive World.Passes (world : World) : World → Prop where
  /-- Some of them have turns. -/
  | intro {s : Schedule} (clock : Nat) :
    Relation.TransGen Schedule.Turn { machine := world.machine, threads := world.tasks, now := world.clock } s →
      Passes world { world with machine := s.machine, tasks := s.threads, clock }

namespace Pipeline

/-! ### The executor -/

/-- What the main thread does next. -/
inductive Phase where
  /-- Open the next stage. -/
  | opening (stages : List (List String))
  /-- Look up the name of a stage. -/
  | finding (stage : Stage) (rest : List (List String))
  /-- Take what the stage before has written, once it has ended. -/
  | fetching (stage : Stage) (callee : Callee) (rest : List (List String))
  /-- Take what comes through an open file, once nothing more comes. -/
  | draining (stage : Stage) (callee : Callee) (file : Nat) (rest : List (List String))
  /-- Start a stage on its input. -/
  | launching (stage : Stage) (callee : Callee) (rest : List (List String))
  /-- Wait for the stages from a place on; so far there is a status. -/
  | joining (place : Nat) (status : Int)
  /-- Wait for workers; there is a status. -/
  | collecting (workers : List Worker) (status : Int)
  /-- Give up: kill the process of the stage at a place. -/
  | stopping (place : Nat)
  /-- Give up: wait for the stage at a place. -/
  | ending (place : Nat)
  /-- Give up: wait for workers. -/
  | leaving (workers : List Worker)
  /-- Nothing more: the pipeline has a status. -/
  | returned (status : Int)

/-- A pipeline that is running, and the world that its threads share. -/
structure Executor where
  /-- The world, as the main thread sees it. -/
  world : World
  /-- What the stages have in common. -/
  flow : Flow := {}
  /-- What the main thread does next. -/
  phase : Phase

/-- A stage has ended. A shell that is gone waits for no process. -/
def Standing.isOver (world : World) : Standing → Bool
  | .ended _ | .finished _ => true
  | .running pid => ! world.machine.isAlive pid || world.isGone
  | .task .. => false

/-- What is to be taken from the stage before is there. -/
def Flow.isSettled (flow : Flow) : Bool :=
  match flow.supply with
  | .captured producer _ =>
    match flow.stages[producer]? with
    | some (.task ..) => false
    | _ => true
  | _ => true

/-- The flow when a stage stands in another way. -/
def Flow.with (flow : Flow) (place : Nat) (standing : Standing) : Flow :=
  { flow with stages := flow.stages.set place standing }

namespace Executor

/-- The pipeline before its first step. -/
def start (stages : List (List String)) (world : World) : Executor where
  world := (World.note .debug .pipeline s!"pipeline of {stages.length} stages" world).2
  phase := .opening stages

variable (shell : Shell) (division : Division shell)

/-! ### The main thread -/

/-- The main thread need not wait. -/
def isReady (e : Executor) : Bool :=
  match e.phase with
  | .fetching .. => e.flow.isSettled
  | .draining _ _ file _ => Flow.isDry file e.world.machine || e.world.isGone
  | .joining place _ | .ending place => e.flow.stages[place]?.all (·.isOver e.world)
  | .collecting (worker :: _) _ | .leaving (worker :: _) => worker.isDone e.world.machine || e.world.isGone
  | .returned _ => false
  | _ => true

/-- Open a stage. -/
def openNext (words : List String) (rest : List (List String)) (flow : Flow) : Run (Flow × Phase) := do
  match ← openStage shell rest.isEmpty words flow with
  | (flow, none) => return (flow, .opening rest)
  | (flow, some stage) => return (flow, .finding stage rest)

/-- Look up the name of a stage; give up if it stands for nothing. -/
def look (stage : Stage) (rest : List (List String)) (flow : Flow) : Run (Flow × Phase) := do
  match stage.find? shell (← get) with
  | none =>
    stage.miss
    flow.dropSupply
    return (flow, .stopping 0)
  | some callee => return (flow, .fetching stage callee rest)

/-- A shell that is gone does nothing more. -/
def unlessGone (flow : Flow) (next : Run (Flow × Phase)) : Run (Flow × Phase) := do
  if (← get).isGone then return (flow, .returned Status.failure) else next

/-- Take what a built-in stage has written. A pipe that is to be read is read as soon as something comes. -/
def fetch (stage : Stage) (callee : Callee) (rest : List (List String)) (flow : Flow) : Run (Flow × Phase) := do
  let flow ← flow.fetch
  match callee, flow.supply with
  | .builtin _, .piped file =>
    Flow.widen file
    return (flow, .draining stage callee file rest)
  | _, _ => return (flow, .launching stage callee rest)

/-- Take what came through an open file. -/
def drain (stage : Stage) (callee : Callee) (file : Nat) (rest : List (List String)) (flow : Flow) :
    Run (Flow × Phase) := do
  let bs ← Flow.empty file
  return ({ flow with supply := .taken bs }, .launching stage callee rest)

/-- Start a stage. The work of a built-in command is all to be done. -/
def launch (stage : Stage) (callee : Callee) (rest : List (List String)) (flow : Flow) : Run (Flow × Phase) := do
  match callee with
  | .builtin _ =>
    let streams ← stage.builtinStreams flow.supply
    let thread ← World.newThread
    let work := division.work stage.name stage.args (shell.context streams)
    return (flow.next (.ofWork thread work) (stage.captured streams), .opening rest)
  | .program path => return (← stage.runProgram shell path flow, .opening rest)

/-- Learn how the stage at a place has ended. -/
def join (place : Nat) (status : Int) (flow : Flow) : Run (Flow × Phase) :=
  match flow.stages[place]? with
  | none => return (flow, .collecting flow.workers status)
  | some standing => do
    let status ← standing.await
    return (flow, .joining (place + 1) status)

/-- Give up: kill the process of the stage at a place. -/
def stop (place : Nat) (flow : Flow) : Run (Flow × Phase) :=
  match flow.stages[place]? with
  | none => return (flow, .leaving flow.workers)
  | some standing => do
    standing.stop
    return (flow, .ending place)

/-- Give up: learn how the stage at a place has ended. -/
def quit (place : Nat) (flow : Flow) : Run (Flow × Phase) :=
  match flow.stages[place]? with
  | none => return (flow, .leaving flow.workers)
  | some standing => do
    discard standing.await
    return (flow, .stopping (place + 1))

/-- What the main thread does next. -/
def action (flow : Flow) : Phase → Run (Flow × Phase)
  | .opening [] => return (flow, .joining 0 0)
  | .opening (words :: rest) => openNext shell words rest flow
  | .finding stage rest => look shell stage rest flow
  | .fetching stage callee rest => unlessGone flow <| fetch stage callee rest flow
  | .draining stage callee file rest => drain stage callee file rest flow
  | .launching stage callee rest => unlessGone flow <| launch shell division stage callee rest flow
  | .joining place status => join place status flow
  | .collecting [] status => do
    let status ← flow.close status
    return (flow, .returned status)
  | .collecting (worker :: workers) status => do
    worker.join
    return (flow, .collecting workers status)
  | .stopping place => stop place flow
  | .ending place => quit place flow
  | .leaving [] => do
    flow.release
    return (flow, .returned Status.notFound)
  | .leaving (worker :: workers) => do
    worker.join
    return (flow, .leaving workers)
  | .returned status => return (flow, .returned status)

/-- What becomes of a pipeline when its main thread does something. -/
def after (e : Executor) (op : Run (Flow × Phase)) : Executor :=
  let ((flow, phase), world) := op e.world
  { world, flow, phase }

/-- The next step of the main thread, if it need not wait. -/
def advance (e : Executor) : Option Executor :=
  if e.isReady then some (e.after (action shell division e.flow e.phase)) else none

/-! ### Steps -/

/-- The next step of the stage at a place, if it is a thread that has one. Each thread makes its steps under its own
number. -/
def turn (e : Executor) (place : Nat) : Option Executor :=
  match e.flow.stages[place]? with
  | some (.task thread act next) =>
    let before := { e.world with thread }
    some { e with
      world := { act before with thread := e.world.thread }
      flow := e.flow.with place (.ofWork (act before).thread (next before)) }
  | _ => none

/-- One step of one thread of the shell, whichever it is. -/
inductive Step : Executor → Executor → Prop where
  /-- A step of the main thread. -/
  | main {e e' : Executor} : e.advance shell division = some e' → Step e e'
  /-- A step of a stage. -/
  | stage {e e' : Executor} (place : Nat) : e.turn place = some e' → Step e e'

/-- One step of a thread of the shell, or some turns of processes. -/
inductive Move : Executor → Executor → Prop where
  /-- A step of a thread. -/
  | thread {e e' : Executor} : Step shell division e e' → Move e e'
  /-- Processes go on. -/
  | process {e : Executor} {world : World} : e.world.Passes world → Move e { e with world }

/-- The executor comes to be in a state. -/
abbrev Reaches : Executor → Executor → Prop := Relation.ReflTransGen (Move shell division)

/-- Nobody can go on. -/
def Stuck (e : Executor) : Prop := ∀ e', ¬ Move shell division e e'

/-! ### Every execution ends

A step of the main thread brings it closer to its end, a step of a stage leaves that stage less to do, and a turn leaves
processes less to do. What a step adds counts less than what it takes away. -/

/-- How far the main thread is from its end: what it has yet to do, and how many it has yet to wait for. -/
def distance (flow : Flow) : Phase → Nat ×ₗ Nat
  | .opening stages => toLex (5 * stages.length + 3, 0)
  | .finding _ rest => toLex (5 * rest.length + 7, 0)
  | .fetching _ _ rest => toLex (5 * rest.length + 6, 0)
  | .draining _ _ _ rest => toLex (5 * rest.length + 5, 0)
  | .launching _ _ rest => toLex (5 * rest.length + 4, 0)
  | .joining place _ => toLex (2, flow.stages.length - place)
  | .stopping place => toLex (2, 2 * (flow.stages.length - place))
  | .ending place => toLex (2, 2 * (flow.stages.length - place) - 1)
  | .collecting workers _ | .leaving workers => toLex (1, workers.length)
  | .returned _ => toLex (0, 0)

/-- What a stage has yet to do, if it is a thread. -/
def workOf : Standing → Option Work
  | .task _ act next => some (.step act next)
  | .ended _ | .running _ | .finished _ => none

/-- What the stages have yet to do. -/
def works (e : Executor) : Multiset Work := e.flow.stages.filterMap workOf

/-- What processes have yet to do. -/
def tasks (e : Executor) : List Task := e.world.tasks.map (·.task)

/-- There is less to do: for the main thread, or for the stages, or for processes. -/
def Less : Executor → Executor → Prop :=
  InvImage (Prod.Lex (· < ·) (Prod.Lex (Relation.CutExpand Work.Below) (Relation.TransGen Task.Fewer)))
    fun e => (distance e.flow e.phase, e.works, e.tasks)

theorem wellFounded_less : WellFounded Less :=
  InvImage.wf _ (wellFounded_lt.prod_lex (Work.wellFounded_below.cutExpand.prod_lex Task.fewer_wf.transGen))

section

variable {shell division} {e e' : Executor} {flow : Flow} {stage : Stage} {callee : Callee} {words : List String}
  {rest : List (List String)} {place : Nat} {status : Int}

theorem toLex_lt {n m k l : Nat} (h : n < m) : (toLex (n, k) : Nat ×ₗ Nat) < toLex (m, l) :=
  Prod.Lex.toLex_lt_toLex.2 (.inl h)

theorem toLex_lt_right {n k l : Nat} (h : k < l) : (toLex (n, k) : Nat ×ₗ Nat) < toLex (n, l) :=
  Prod.Lex.toLex_lt_toLex.2 (.inr ⟨rfl, h⟩)

/-- After an operation the main thread is closer to its end. -/
abbrev Nears (bound : Nat ×ₗ Nat) (op : Run (Flow × Phase)) : Prop := op.Yields fun next => distance next.1 next.2 < bound

theorem nears_pure {bound : Nat ×ₗ Nat} {phase : Phase} (h : distance flow phase < bound) :
    Nears bound (pure (flow, phase)) :=
  .pure h

theorem nears_unlessGone {phase : Phase} {next : Run (Flow × Phase)} (h : Nears (distance flow phase) next)
    (hphase : 0 < (distance flow phase).1) : Nears (distance flow phase) (unlessGone flow next) := by
  refine .after fun world => ?_
  split
  · exact nears_pure (Prod.Lex.lt_iff.2 (.inl hphase))
  · exact h

theorem nears_openNext : Nears (distance flow (.opening (words :: rest))) (openNext shell words rest flow) := by
  refine .after fun opened => ?_
  split
  · exact nears_pure (toLex_lt (by simp only [List.length_cons]; omega))
  · exact nears_pure (toLex_lt (by simp only [List.length_cons]; omega))

theorem nears_look : Nears (distance flow (.finding stage rest)) (look shell stage rest flow) := by
  refine .after fun world => ?_
  split
  · exact .after fun _ => .after fun _ => nears_pure (toLex_lt (by omega))
  · exact nears_pure (toLex_lt (by omega))

theorem nears_fetch : Nears (distance flow (.fetching stage callee rest)) (fetch stage callee rest flow) := by
  refine .after fun fetched => ?_
  split
  · exact .after fun _ => nears_pure (toLex_lt (by omega))
  · exact nears_pure (toLex_lt (by omega))

theorem nears_launch :
    Nears (distance flow (.launching stage callee rest)) (launch shell division stage callee rest flow) := by
  cases callee with
  | builtin command => exact .after fun streams => .after fun thread => nears_pure (toLex_lt (by omega))
  | program path => exact .after fun flow => nears_pure (toLex_lt (by omega))

theorem nears_join : Nears (distance flow (.joining place status)) (join place status flow) := by
  unfold join
  split
  · exact nears_pure (toLex_lt (by omega))
  · next standing hstanding =>
    have hplace := (List.getElem?_eq_some_iff.1 hstanding).1
    exact .after fun status => nears_pure (toLex_lt_right (by omega))

theorem nears_stop : Nears (distance flow (.stopping place)) (stop place flow) := by
  unfold stop
  split
  · exact nears_pure (toLex_lt (by omega))
  · next standing hstanding =>
    have hplace := (List.getElem?_eq_some_iff.1 hstanding).1
    exact .after fun _ => nears_pure (toLex_lt_right (by omega))

theorem nears_quit : Nears (distance flow (.ending place)) (quit place flow) := by
  unfold quit
  split
  · exact nears_pure (toLex_lt (by omega))
  · next standing hstanding =>
    have hplace := (List.getElem?_eq_some_iff.1 hstanding).1
    exact .after fun _ => nears_pure (toLex_lt_right (by omega))

/-- A step of the main thread brings it closer to its end. -/
theorem distance_advance (h : e.advance shell division = some e') :
    distance e'.flow e'.phase < distance e.flow e.phase := by
  unfold advance at h
  split at h
  · next hready =>
    obtain rfl := Option.some.inj h
    obtain ⟨world, flow, phase⟩ := e
    suffices hnears : Nears (distance flow phase) (action shell division flow phase) from hnears world
    cases phase with
    | opening stages =>
      cases stages with
      | nil => exact nears_pure (toLex_lt (by decide))
      | cons words rest => exact nears_openNext
    | finding stage rest => exact nears_look
    | fetching stage callee rest => exact nears_unlessGone nears_fetch (Nat.succ_pos _)
    | draining stage callee file rest => exact .after fun bs => nears_pure (toLex_lt (by omega))
    | launching stage callee rest => exact nears_unlessGone nears_launch (Nat.succ_pos _)
    | joining place status => exact nears_join
    | collecting workers status =>
      cases workers with
      | nil => exact .after fun _ => nears_pure (toLex_lt (by decide))
      | cons worker workers => exact .after fun _ => nears_pure (toLex_lt_right (Nat.lt_succ_self _))
    | stopping place => exact nears_stop
    | ending place => exact nears_quit
    | leaving workers =>
      cases workers with
      | nil => exact .after fun _ => nears_pure (toLex_lt (by decide))
      | cons worker workers => exact .after fun _ => nears_pure (toLex_lt_right (Nat.lt_succ_self _))
    | returned status => cases hready
  · cases h

theorem distance_with (flow : Flow) (place : Nat) (standing : Standing) (phase : Phase) :
    distance (flow.with place standing) phase = distance flow phase := by
  have hlength : (flow.with place standing).stages.length = flow.stages.length := List.length_set
  cases phase <;> simp only [distance, hlength]

theorem eq_of_mem_workOf_ofWork {thread : Nat} {work work' : Work} (h : work' ∈ workOf (.ofWork thread work)) :
    work' = work := by
  cases work with
  | ended conclusion => cases h
  | step act next => exact (Option.some.inj h).symm

/-- A stage that has less to do counts less. -/
theorem cutExpand_set {stages : List Standing} {standing standing' : Standing} {work : Work}
    (hstage : stages[place]? = some standing) (hwork : workOf standing = some work)
    (hbelow : ∀ work' ∈ workOf standing', work'.Below work) :
    Relation.CutExpand Work.Below ((stages.set place standing').filterMap workOf : Multiset Work)
      (stages.filterMap workOf) := by
  obtain ⟨hplace, hget⟩ := List.getElem?_eq_some_iff.1 hstage
  have hstages : stages = stages.take place ++ standing :: stages.drop (place + 1) := by
    rw [← hget, ← List.drop_eq_getElem_cons, List.take_append_drop]
  have hmiddle (before after : List Work) (w : Work) : (↑(before ++ w :: after) : Multiset Work) =
      w ::ₘ ↑(before ++ after) := Multiset.coe_eq_coe.2 List.perm_middle
  rw [List.set_eq_take_append_cons_drop, if_pos hplace]
  conv => rhs; rw [hstages]
  simp only [List.filterMap_append, List.filterMap_cons, hwork, hmiddle]
  refine ⟨(workOf standing').toList, work, fun work' h => hbelow work' (by simpa using h), ?_⟩
  cases workOf standing' with
  | none =>
    rw [Multiset.add_comm, Multiset.singleton_add, Option.toList_none, Multiset.coe_nil, add_zero]
  | some work' =>
    rw [hmiddle, Multiset.add_comm, Multiset.add_comm _ (Multiset.ofList _), Multiset.singleton_add]
    exact Multiset.cons_swap ..

/-- A step of a stage leaves that stage less to do. -/
theorem less_turn (h : e.turn place = some e') : Less e' e := by
  unfold turn at h
  split at h
  · next thread act next hstage =>
    obtain rfl := Option.some.inj h
    refine Prod.lex_iff.2 (.inr ⟨distance_with _ _ _ _, Prod.lex_iff.2 (.inl ?_)⟩)
    refine cutExpand_set hstage rfl fun work hwork => ?_
    rw [eq_of_mem_workOf_ofWork hwork]
    exact .next _ _ _
  · cases h

/-- Turns leave processes less to do. -/
theorem less_of_passes {world : World} (h : e.world.Passes world) : Less { e with world } e := by
  refine Prod.lex_iff.2 (.inr ⟨rfl, Prod.lex_iff.2 (.inr ⟨rfl, ?_⟩)⟩)
  cases h with
  | intro clock hturns =>
    have hfewer {s s' : Schedule} (h : Relation.TransGen Schedule.Turn s s') :
        Relation.TransGen Task.Fewer s'.tasks s.tasks := by
      induction h with
      | single hturn => exact .single hturn.fewer
      | tail _ hturn ih => exact .head hturn.fewer ih
    exact hfewer hturns

theorem less_of_move (h : Move shell division e e') : Less e' e := by
  cases h with
  | thread hstep =>
    cases hstep with
    | main hmain => exact Prod.lex_iff.2 (.inl (distance_advance hmain))
    | stage place hturn => exact less_turn hturn
  | process hpasses => exact less_of_passes hpasses

variable (shell division) in
/-- **No execution goes on for ever.** -/
theorem wellFounded_move : WellFounded fun e' e => Move shell division e e' :=
  Subrelation.wf less_of_move wellFounded_less

end

/-! ### What stages have yet to do -/

/-- All that the stages have yet to do is of some kind. -/
def AllWork (Q : Work → Prop) (flow : Flow) : Prop := ∀ standing ∈ flow.stages, ∀ work ∈ workOf standing, Q work

/-- The stages have nothing to do. -/
abbrev Idle (flow : Flow) : Prop := AllWork (fun _ => False) flow

section

variable {flow : Flow} {Q : Work → Prop}

theorem allWork_next {standing : Standing} (h : AllWork Q flow) (supply : Supply)
    (hstanding : ∀ work ∈ workOf standing, Q work) : AllWork Q (flow.next standing supply) := by
  intro standing' hmem
  obtain hmem | hmem := List.mem_append.1 hmem
  · exact h standing' hmem
  · exact List.mem_singleton.1 hmem ▸ hstanding

theorem allWork_with {standing : Standing} (h : AllWork Q flow) (place : Nat)
    (hstanding : ∀ work ∈ workOf standing, Q work) : AllWork Q (flow.with place standing) := by
  intro standing' hmem
  obtain hmem | rfl := List.mem_or_eq_of_mem_set hmem
  · exact h standing' hmem
  · exact hstanding

/-- What an operation of the main thread does to the stages that were started: nothing, or it starts one more, of some
kind, or it learns how one has ended, if it waits for that. -/
inductive Changes (P : Standing → Prop) (waits : Prop) (flow flow' : Flow) : Prop where
  /-- The stages are as they were. -/
  | same : flow'.stages = flow.stages → Changes P waits flow flow'
  /-- There is one more. -/
  | started {standing : Standing} : P standing → flow'.stages = flow.stages ++ [standing] →
    Changes P waits flow flow'
  /-- The one that was to be waited for has ended. -/
  | settled {producer sink : Nat} {standing : Standing} (world : World) : waits →
    flow.supply = .captured producer sink → flow.stages[producer]? = some standing →
    (∀ status, standing ≠ .ended status) → (∀ pid, standing ≠ .running pid) →
    flow'.stages = flow.stages.set producer (.ended (standing.await world).1) → Changes P waits flow flow'

namespace Changes

variable {P : Standing → Prop} {waits : Prop} {flow' : Flow}

theorem skip (hP : ∀ status, P (.ended status)) (status : Int) : (flow.skip status).Yields (Changes P waits flow) :=
  .after fun _ => .pure (.started (hP status) rfl)

theorem openStage {shell : Shell} (hP : ∀ status, P (.ended status)) (isLast : Bool) (words : List String) :
    (Pipeline.openStage shell isLast words flow).Yields fun opened => Changes P waits flow opened.1 := by
  refine .after fun result => ?_
  split
  · exact .after fun _ => (skip hP _).bind fun _ h => .pure h
  · split
    · refine .bind (P := Changes P waits flow) ?_ fun _ h => .pure h
      exact .after fun _ => .pure (.started (hP 0) rfl)
    · exact .pure (.same rfl)

theorem fetch (hwaits : waits) : flow.fetch.Yields (Changes P waits flow) := by
  unfold Flow.fetch
  split
  · next producer sink hsupply =>
    have hsettle : (flow.settle producer).Yields (Changes P waits flow) := by
      unfold Flow.settle
      split
      · exact .pure (.same rfl)
      · exact .pure (.same rfl)
      · exact .pure (.same rfl)
      · next standing hended hrunning hstage => exact fun world => .settled world hwaits hsupply hstage hended hrunning rfl
    refine hsettle.bind fun settled h => .after fun _ => .pure ?_
    cases h with
    | same hstages => exact .same hstages
    | started hP hstages => exact .started hP hstages
    | settled world hwaits hsupply hstage hended hrunning hstages =>
      exact .settled world hwaits hsupply hstage hended hrunning hstages
  · exact .pure (.same rfl)

theorem runProgram {shell : Shell} (hended : ∀ status, P (.ended status)) (hrunning : ∀ pid, P (.running pid))
    (stage : Stage) (path : String) : (stage.runProgram shell path flow).Yields (Changes P waits flow) := by
  refine .after fun _ => .after fun world => ?_
  split
  · exact .after fun _ => .after fun _ => skip hended _
  · exact .after fun _ => .after fun _ => .after fun _ => .after fun _ => .after fun pid => .after fun _ =>
      .pure (.started (hrunning pid) rfl)

theorem join (place : Nat) (status : Int) :
    (Executor.join place status flow).Yields fun next => Changes P waits flow next.1 := by
  unfold Executor.join
  split
  · exact .pure (.same rfl)
  · exact .after fun _ => .pure (.same rfl)

theorem stop (place : Nat) : (Executor.stop place flow).Yields fun next => Changes P waits flow next.1 := by
  unfold Executor.stop
  split
  · exact .pure (.same rfl)
  · exact .after fun _ => .pure (.same rfl)

theorem quit (place : Nat) : (Executor.quit place flow).Yields fun next => Changes P waits flow next.1 := by
  unfold Executor.quit
  split
  · exact .pure (.same rfl)
  · exact .after fun _ => .pure (.same rfl)

end Changes

/-- How a stage stands that the main thread starts: with the work of its command, if that is a built-in one, or else with
nothing to do. -/
def Starts (shell : Shell) (division : Division shell) (flow : Flow) (world : World) : Phase → Standing → Prop
  | .launching stage (.builtin _) _, standing => ∃ thread, standing =
    .ofWork thread (division.work stage.name stage.args (shell.context (stage.builtinStreams flow.supply world).1))
  | _, standing => workOf standing = none

/-- The main thread waits for the stage before. -/
def Fetches (phase : Phase) : Prop := ∃ stage callee rest, phase = .fetching stage callee rest

/-- What the main thread does to the stages that were started. -/
theorem changes_action {shell : Shell} {division : Division shell} (phase : Phase) (world : World) :
    Changes (Starts shell division flow world phase) (Fetches phase) flow (action shell division flow phase world).1.1 := by
  have hsame {P : Standing → Prop} {waits : Prop} {op : Run Unit} {next : Phase} :
      (do op; return (flow, next)).Yields fun next => Changes P waits flow next.1 :=
    .after fun _ => .pure (.same rfl)
  have hunlessGone {P : Standing → Prop} {waits : Prop} {next : Run (Flow × Phase)} (hnext : Changes P waits flow (next world).1.1) :
      Changes P waits flow (unlessGone flow next world).1.1 := by
    cases hgone : world.isGone with
    | true =>
      rw [unlessGone, Run.get_bind, if_pos hgone]
      exact .same rfl
    | false =>
      rw [unlessGone, Run.get_bind, if_neg (Bool.eq_false_iff.1 hgone)]
      exact hnext
  cases phase with
  | opening stages =>
    cases stages with
    | nil => exact .same rfl
    | cons words rest =>
      have hopen : (Pipeline.openStage shell rest.isEmpty words flow).Yields fun opened =>
          Changes (workOf · = none) (Fetches (.opening (words :: rest))) flow opened.1 :=
        Changes.openStage (fun _ => rfl) _ _
      suffices h : (openNext shell words rest flow).Yields fun next =>
          Changes (workOf · = none) (Fetches (.opening (words :: rest))) flow next.1 from h world
      refine hopen.bind fun opened hopened => ?_
      obtain ⟨next, stage?⟩ := opened
      cases stage? <;> exact .pure hopened
  | finding stage rest =>
    suffices h : (look shell stage rest flow).Yields fun next =>
        Changes (workOf · = none) (Fetches (.finding stage rest)) flow next.1 from h world
    refine .after fun world => ?_
    split
    · exact .after fun _ => hsame
    · exact .pure (.same rfl)
  | fetching stage callee rest =>
    have hfetch : flow.fetch.Yields (Changes (workOf · = none) (Fetches (.fetching stage callee rest)) flow) :=
      Changes.fetch ⟨stage, callee, rest, rfl⟩
    suffices h : (fetch stage callee rest flow).Yields fun next =>
        Changes (workOf · = none) (Fetches (.fetching stage callee rest)) flow next.1 from hunlessGone (h world)
    refine hfetch.bind fun fetched hfetched => ?_
    split
    · exact .after fun _ => .pure hfetched
    · exact .pure hfetched
  | draining stage callee file rest => exact .same rfl
  | launching stage callee rest =>
    refine hunlessGone ?_
    cases callee with
    | builtin command => exact .started ⟨_, rfl⟩ rfl
    | program path => exact Changes.runProgram (fun _ => rfl) (fun _ => rfl) stage path world
  | joining place status => exact Changes.join place status world
  | collecting workers status =>
    cases workers with
    | nil => exact .same rfl
    | cons worker workers => exact hsame world
  | stopping place => exact Changes.stop place world
  | ending place => exact Changes.quit place world
  | leaving workers =>
    cases workers with
    | nil => exact hsame world
    | cons worker workers => exact hsame world
  | returned status => exact .same rfl

/-- What the stages have yet to do is of some kind still, if what is started is. -/
theorem AllWork.changes {P : Standing → Prop} {waits : Prop} {flow' : Flow} (h : AllWork Q flow)
    (hchanges : Changes P waits flow flow')
    (hstarts : ∀ standing, P standing → ∀ work ∈ workOf standing, Q work) : AllWork Q flow' := by
  intro standing hmem
  cases hchanges with
  | same hstages => exact h standing (hstages ▸ hmem)
  | started hP hstages =>
    obtain hmem | hmem := List.mem_append.1 (hstages ▸ hmem)
    · exact h standing hmem
    · obtain rfl := List.mem_singleton.1 hmem
      exact hstarts _ hP
  | settled world _ _ _ _ _ hstages =>
    obtain hmem | rfl := List.mem_or_eq_of_mem_set (hstages ▸ hmem)
    · exact h standing hmem
    · exact nofun

/-- No work is added where none is started. -/
theorem AllWork.kept {flow' : Flow} (h : AllWork Q flow) (hchanges : Changes (workOf · = none) True flow flow') :
    AllWork Q flow' :=
  h.changes hchanges fun _ hnone _ hwork => by rw [hnone] at hwork; cases hwork

/-- A stage that makes a step leaves what follows it. -/
theorem allWork_turn {e e' : Executor} {place : Nat} (h : AllWork Q e.flow)
    (hnext : ∀ act next world, Q (.step act next) → Q (next world)) (hturn : e.turn place = some e') :
    AllWork Q e'.flow := by
  unfold Executor.turn at hturn
  split at hturn
  · next thread act next hstage =>
    obtain rfl := Option.some.inj hturn
    refine allWork_with h place fun work hwork => ?_
    rw [eq_of_mem_workOf_ofWork hwork]
    exact hnext act next _ (h _ (List.mem_of_getElem? hstage) _ rfl)
  · cases hturn

theorem Idle.turn {e : Executor} (h : Idle e.flow) (place : Nat) : e.turn place = none := by
  unfold Executor.turn
  split
  · next thread act next hstage => exact (h _ (List.mem_of_getElem? hstage) _ rfl).elim
  · rfl

theorem Idle.isSettled (h : Idle flow) : flow.isSettled = true := by
  unfold Flow.isSettled
  split
  · split
    · next thread act later hstage => exact (h _ (List.mem_of_getElem? hstage) _ rfl).elim
    · rfl
  · rfl

end

theorem unlessGone_of_there {world : World} (hthere : world.isGone = false) (flow : Flow) (next : Run (Flow × Phase)) :
    unlessGone flow next world = next world := by
  rw [unlessGone, Run.get_bind, if_neg (Bool.eq_false_iff.1 hthere)]

theorem unlessGone_of_isGone {world : World} (hgone : world.isGone = true) (flow : Flow)
    (next : Run (Flow × Phase)) :
    unlessGone flow next world = ((flow, .returned Status.failure), world) := by
  rw [unlessGone, Run.get_bind, if_pos hgone]
  rfl

/-! ### What comes in the end -/

/-- Whatever steps are made, they lead to a goal, and there always is a step before. -/
inductive Inevitable (step : Executor → Executor → Prop) (goal : Executor → Prop) : Executor → Prop where
  /-- The goal has been reached. -/
  | here {e : Executor} : goal e → Inevitable step goal e
  /-- Some step can be made, and every step that can be made leads to the goal. -/
  | later {e : Executor} : (∃ e', step e e') → (∀ e', step e e' → Inevitable step goal e') → Inevitable step goal e

/-- What holds wherever nobody can go on is inevitable. The induction is on what there is to do. -/
theorem inevitable_of_stuck {goal : Executor → Prop} {e : Executor}
    (h : ∀ e', Reaches shell division e e' → Stuck shell division e' → goal e') :
    Inevitable (Move shell division) goal e := by
  induction e using (wellFounded_move shell division).induction with
  | _ e ih =>
    by_cases hstuck : Stuck shell division e
    · exact .here (h e .refl hstuck)
    · simp only [Stuck, not_forall, not_not] at hstuck
      exact .later hstuck fun e' hmove => ih e' hmove fun e'' hreaches => h e'' (.head hmove hreaches)

end Executor

end Pipeline

end LineShell
