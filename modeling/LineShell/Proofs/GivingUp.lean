import LineShell.Proofs.SparedExecutions

/-!
# Giving up a pipeline

A stage whose name stands for nothing stops its pipeline: programs that are still running are killed, threads are waited
for, and the pipeline has come to its end. Nothing is written on the way, but a record of a thread that ended in a fault.

## The model

`Executor.abandoned` is the state in which giving up begins; nothing of the stages that were to come is left in it.
`GivingUp` is what every state after it has in common: the main thread is waiting for one stage after the other, and those
it has waited for have nothing left to do. So nobody can go on only when the pipeline has its status, or when the main
thread waits for something that others hold on to (`Awaits`).
-/

namespace LineShell

open Script (Seal)

namespace Pipeline

/-! ### How a stage goes on -/

/-- From standing in one way a stage comes to stand in another: a thread makes steps to its conclusion, which is taken
note of. -/
inductive Standing.GoesOn (standing : Standing) : Standing → Prop where
  /-- Nothing happens. -/
  | refl : GoesOn standing standing
  /-- A thread makes a step. -/
  | step {thread : Nat} {act : World → World} {next : World → Work} (world : World) :
    GoesOn standing (.task thread act next) → GoesOn standing (.ofWork (act world).thread (next world))
  /-- The conclusion of a thread is taken note of. -/
  | settled {conclusion : Conclusion} (world : World) : GoesOn standing (.finished conclusion) →
    GoesOn standing (.ended (statusOf conclusion world).1)

theorem Standing.GoesOn.trans {standing standing' standing'' : Standing} (h : standing.GoesOn standing')
    (h' : standing'.GoesOn standing'') : standing.GoesOn standing'' := by
  induction h' with
  | refl => exact h
  | step world _ ih => exact .step world ih
  | settled world _ ih => exact .settled world ih

/-- Every stage that was started goes on. -/
def Flow.GoesOn (flow flow' : Flow) : Prop :=
  ∀ (place : Nat) (standing : Standing), flow.stages[place]? = some standing →
    ∃ standing', flow'.stages[place]? = some standing' ∧ standing.GoesOn standing'

namespace Flow.GoesOn

variable {flow flow' flow'' : Flow}

theorem refl (flow : Flow) : flow.GoesOn flow := fun _ _ hstage => ⟨_, hstage, .refl⟩

theorem trans (h : flow.GoesOn flow') (h' : flow'.GoesOn flow'') : flow.GoesOn flow'' := by
  intro place standing hstage
  obtain ⟨standing', hstage', hgoesOn⟩ := h place standing hstage
  obtain ⟨standing'', hstage'', hgoesOn'⟩ := h' place standing' hstage'
  exact ⟨standing'', hstage'', hgoesOn.trans hgoesOn'⟩

theorem next (h : flow.GoesOn flow') (standing : Standing) (supply : Supply) :
    flow.GoesOn (flow'.next standing supply) := by
  refine h.trans fun place standing hstage => ⟨standing, ?_, .refl⟩
  exact (List.getElem?_append_left (List.getElem?_eq_some_iff.1 hstage).1).trans hstage

theorem set {producer : Nat} {standing standing' : Standing} (hstage : flow.stages[producer]? = some standing)
    (h : standing.GoesOn standing') : flow.GoesOn (flow.with producer standing') := by
  intro place standing₁ hstage₁
  have hlt := (List.getElem?_eq_some_iff.1 hstage₁).1
  rw [Flow.with, List.getElem?_set]
  split
  · next heq =>
    subst heq
    obtain rfl := Option.some.inj (hstage₁.symm.trans hstage)
    exact ⟨standing', if_pos hlt, h⟩
  · exact ⟨standing₁, hstage₁, .refl⟩

end Flow.GoesOn

namespace Executor

variable {shell : Shell} {division : Division shell} {e e' : Executor}

/-- An operation of the main thread lets every stage go on, as long as the one that it learns about is no thread with
something to do. -/
theorem Changes.goesOn {P : Standing → Prop} {waits : Prop} {flow flow' : Flow} (h : Changes P waits flow flow')
    (hsettled : waits → flow.isSettled = true) : flow.GoesOn flow' := by
  intro place standing hstage
  cases h with
  | same hstages => exact ⟨standing, hstages ▸ hstage, .refl⟩
  | started _ hstages =>
    refine ⟨standing, ?_, .refl⟩
    rw [hstages, List.getElem?_append_left (List.getElem?_eq_some_iff.1 hstage).1, hstage]
  | @settled producer sink standing' world hwaits hsupply hproducer hended hrunning hstages =>
    refine hstages ▸ Flow.GoesOn.set hproducer ?_ place standing hstage
    cases standing' with
    | ended status => exact (hended status rfl).elim
    | running pid => exact (hrunning pid rfl).elim
    | finished conclusion => exact .settled world .refl
    | task thread act next =>
      have hready := hsettled hwaits
      simp only [Flow.isSettled, hsupply, hproducer, Bool.false_eq_true] at hready

/-- What the main thread does when it need not wait lets every stage go on. -/
theorem goesOn_advance (h : e.advance shell division = some e') : e.flow.GoesOn e'.flow := by
  unfold advance at h
  split at h
  · next hready =>
    obtain rfl := Option.some.inj h
    refine (changes_action e.phase e.world).goesOn ?_
    rintro ⟨stage, callee, rest, hphase⟩
    rwa [isReady, hphase] at hready
  · cases h

/-- Whoever goes on, every stage that was started goes on. -/
theorem goesOn_move (h : Move shell division e e') : e.flow.GoesOn e'.flow := by
  cases h with
  | process hpasses => exact .refl _
  | thread hstep =>
    cases hstep with
    | main hmain => exact goesOn_advance hmain
    | stage place hturn =>
      unfold turn at hturn
      split at hturn
      · next thread act next hstage =>
        obtain rfl := Option.some.inj hturn
        exact .set hstage (.step _ .refl)
      · cases hturn

theorem goesOn_of_reaches (h : Reaches shell division e e') : e.flow.GoesOn e'.flow := by
  induction h with
  | refl => exact .refl _
  | tail _ hmove ih => exact ih.trans (goesOn_move hmove)

/-! ### The end -/

/-- The state in which giving up begins: the name of a stage was told, and nobody will read what the stage before writes.
Nothing of the stages that were to come is left in it. -/
def abandoned (e : Executor) (stage : Stage) : Executor where
  world := (e.flow.dropSupply (stage.miss e.world).2).2
  flow := e.flow
  phase := .stopping 0

/-- A name that stands for nothing stops a pipeline, whatever is to come. -/
theorem advance_of_unknown {stage : Stage} {rest : List (List String)} (hphase : e.phase = .finding stage rest)
    (hunknown : stage.find? shell e.world = none) : e.advance shell division = some (e.abandoned stage) := by
  have hready : e.isReady = true := by rw [isReady, hphase]
  rw [advance, if_pos hready, hphase, after, action, look, Run.get_bind, hunknown]
  rfl

/-- How many stages have been waited for when a pipeline is given up. -/
def passed (flow : Flow) : Phase → Nat
  | .stopping place | .ending place => place
  | _ => flow.stages.length

/-- The pipeline is being given up. -/
structure GivingUp (e : Executor) : Prop where
  /-- The main thread does nothing else. -/
  phase : match e.phase with
    | .stopping _ | .ending _ | .leaving _ => True
    | .returned status => status = Status.notFound
    | _ => False
  /-- The stages that it has waited for have nothing to do. -/
  done : ∀ (place : Nat) (standing : Standing), place < passed e.flow e.phase →
    e.flow.stages[place]? = some standing → workOf standing = none

theorem givingUp_abandoned (e : Executor) (stage : Stage) : (e.abandoned stage).GivingUp :=
  ⟨trivial, fun _ _ hplace => absurd hplace (Nat.not_lt_zero _)⟩

/-- A stage that has ended has nothing to do. -/
theorem workOf_of_isOver {world : World} {standing : Standing} (h : standing.isOver world = true) :
    workOf standing = none := by
  cases standing with
  | task thread act next => cases h
  | ended | running | finished => rfl

theorem GivingUp.advance (h : e.GivingUp) (hmain : e.advance shell division = some e') : e'.GivingUp := by
  unfold Executor.advance at hmain
  split at hmain
  · next hready =>
    obtain rfl := Option.some.inj hmain
    obtain ⟨world, flow, phase⟩ := e
    obtain ⟨hphase, hover⟩ := h
    -- When the last stage has been waited for, all have.
    have hall {place : Nat} (hnone : flow.stages[place]? = none) (i : Nat) (hi : i < flow.stages.length) : i < place :=
      Nat.lt_of_lt_of_le hi (List.getElem?_eq_none_iff.1 hnone)
    cases phase with
    | stopping place =>
      rw [after, action, stop]
      cases hstage : flow.stages[place]? with
      | none => exact ⟨trivial, fun i standing hi => hover i standing (hall hstage i hi)⟩
      | some standing => exact ⟨trivial, hover⟩
    | ending place =>
      rw [after, action, quit]
      cases hstage : flow.stages[place]? with
      | none => exact ⟨trivial, fun i standing hi => hover i standing (hall hstage i hi)⟩
      | some standing =>
        refine ⟨trivial, fun i standing' hi hstage' => ?_⟩
        obtain hi | rfl := Nat.lt_succ_iff_lt_or_eq.1 hi
        · exact hover i standing' hi hstage'
        · obtain rfl := Option.some.inj (hstage'.symm.trans hstage)
          have hended : standing'.isOver world = true := by simpa only [isReady, hstage, Option.all_some] using hready
          exact workOf_of_isOver hended
    | leaving workers =>
      cases workers with
      | nil => exact ⟨rfl, hover⟩
      | cons worker workers => exact ⟨trivial, hover⟩
    | returned status => cases hready
    | opening | finding | fetching | draining | launching | joining | collecting => exact hphase.elim
  · cases hmain

theorem GivingUp.turn (h : e.GivingUp) {place : Nat} (hturn : e.turn place = some e') : e'.GivingUp := by
  unfold Executor.turn at hturn
  split at hturn
  · next thread act next hstage =>
    obtain rfl := Option.some.inj hturn
    -- The stage that makes a step has not been waited for.
    have hlater : passed e.flow e.phase ≤ place := by
      by_contra hlt
      cases h.done place _ (Nat.lt_of_not_le hlt) hstage
    have hpassed (standing : Standing) : passed (e.flow.with place standing) e.phase = passed e.flow e.phase := by
      have hlength : (e.flow.with place standing).stages.length = e.flow.stages.length := List.length_set
      cases e.phase <;> simp only [passed, hlength]
    refine ⟨h.phase, fun i standing hi hstage' => h.done i standing (hpassed _ ▸ hi) ?_⟩
    rw [← hstage', Flow.with, List.getElem?_set_ne]
    have hi' : i < passed e.flow e.phase := hpassed _ ▸ hi
    omega
  · cases hturn

/-- Whoever goes on, the pipeline is being given up still. -/
theorem GivingUp.move (h : e.GivingUp) (hmove : Move shell division e e') : e'.GivingUp := by
  cases hmove with
  | process hpasses => exact ⟨h.phase, h.done⟩
  | thread hstep =>
    cases hstep with
    | main hmain => exact h.advance hmain
    | stage place hturn => exact h.turn hturn

theorem GivingUp.reaches (h : e.GivingUp) (hreaches : Reaches shell division e e') : e'.GivingUp := by
  induction hreaches with
  | refl => exact h
  | tail _ hmove ih => exact ih.move hmove

/-- What the main thread may wait for in vain when it gives up: a process that was killed but is alive, or a worker on a
stream that somebody else holds open. -/
inductive Awaits (e : Executor) : Prop where
  /-- A process. -/
  | process {place pid : Nat} : e.phase = .ending place → e.flow.stages[place]? = some (.running pid) →
    e.world.machine.isAlive pid = true → Awaits e
  /-- A worker. -/
  | worker {worker : Worker} {workers : List Worker} : e.phase = .leaving (worker :: workers) →
    worker.isDone e.world.machine = false → Awaits e

variable (shell division) in
/-- The pipeline has been given up. -/
structure GivenUp (e : Executor) : Prop where
  /-- It has returned the status of a command that was not found, unless the shell waits for ever. -/
  ended : e.phase = .returned Status.notFound ∨ e.Stuck shell division ∧ e.world.isGone = false ∧ e.Awaits
  /-- No stage has anything left to do. -/
  idle : Idle e.flow

/-- When nobody can go on, all stages have nothing left to do. -/
theorem idle_of_stuck (h : e.Stuck shell division) : Idle e.flow := by
  intro standing hmem work hwork
  obtain ⟨place, hstage⟩ := List.mem_iff_getElem?.1 hmem
  cases standing with
  | ended | running | finished => cases hwork
  | task thread act next =>
    have hturn : ∃ e', e.turn place = some e' := ⟨_, by rw [turn, hstage]⟩
    exact h _ (.thread (.stage place hturn.choose_spec))

/-- When nobody can go on, the main thread has to wait. -/
theorem isReady_of_stuck (h : e.Stuck shell division) : e.isReady = false :=
  Bool.eq_false_iff.2 fun hready => h _ (.thread (.main (if_pos hready)))

theorem GivingUp.givenUp_of_stuck (h : e.GivingUp) (hstuck : e.Stuck shell division) : e.GivenUp shell division := by
  have hidle := idle_of_stuck hstuck
  refine ⟨?_, hidle⟩
  have hready := isReady_of_stuck hstuck
  have hphase := h.phase
  cases hp : e.phase with
  | stopping place => rw [isReady, hp] at hready; cases hready
  | ending place =>
    cases hstage : e.flow.stages[place]? with
    | none => simp only [isReady, hp, hstage, Option.all_none, Bool.true_eq_false] at hready
    | some standing =>
      simp only [isReady, hp, hstage, Option.all_some] at hready
      cases standing with
      | ended | finished => cases hready
      | task thread act next => exact (hidle _ (List.mem_of_getElem? hstage) _ rfl).elim
      | running pid =>
        obtain ⟨halive, hthere⟩ := Bool.or_eq_false_iff.1 hready
        exact .inr ⟨hstuck, hthere, .process hp hstage (Bool.not_eq_false_eq_eq_true _ ▸ halive)⟩
  | leaving workers =>
    rw [isReady, hp] at hready
    cases workers with
    | nil => cases hready
    | cons worker workers =>
      obtain ⟨hwaits, hthere⟩ := Bool.or_eq_false_iff.1 hready
      exact .inr ⟨hstuck, hthere, .worker hp hwaits⟩
  | returned status =>
    rw [hp] at hphase
    exact .inl (hphase ▸ rfl)
  | opening | finding | fetching | draining | launching | joining | collecting => rw [hp] at hphase; exact hphase.elim

/-- **Whoever goes on, a pipeline that is being given up comes to its end.** -/
theorem GivingUp.inevitable (h : e.GivingUp) : Inevitable (Move shell division) (GivenUp shell division) e :=
  inevitable_of_stuck shell division fun _ hreaches hstuck => (h.reaches hreaches).givenUp_of_stuck hstuck

end Executor

end Pipeline

/-! ### What is killed -/

namespace Script.Machine

variable {m : Machine}

theorem isAlive_buried (m : Machine) (p : Process) (ending : Ending) (pid : Nat) :
    (m.buried p ending).isAlive pid = m.isAlive pid := by
  have hupdate (m : Machine) (parent : Nat) : (m.update parent (·.noting childSignal)).isAlive pid = m.isAlive pid :=
    World.isAlive_update m parent (fun p => by unfold Process.noting; split <;> rfl) pid
  unfold buried
  dsimp only
  split
  · rfl
  · split
    · exact hupdate _ _
    · rfl

/-- A process that is not running does not survive the signal that kills. -/
theorem not_isAlive_killed {pid : Nat} (h : m.process.pid ≠ pid) : (m.send pid killSignal).2.isAlive pid = false := by
  have hrunning : (decide (m.process.pid = pid)) = false := decide_eq_false h
  unfold send
  cases hfind : m.others.find? (·.pid = pid) with
  | none =>
    rw [List.find?_eq_none] at hfind
    simpa only [isAlive, living, List.any_cons, hrunning, Bool.false_or, List.any_eq_false] using hfind
  | some p =>
    have hpid : p.pid = pid := of_decide_eq_true (List.find?_some hfind :)
    have hfatal : p.reception killSignal = .fatal := if_pos rfl
    simp only [hfatal, fell, isAlive_buried]
    simp only [isAlive, living, List.any_cons, hrunning, Bool.false_or, List.any_filter, hpid]
    exact List.any_eq_false.2 fun q _ => by by_cases hq : q.pid = pid <;> simp [hq]

end Script.Machine

/-! ### What writes nothing -/

/-- An output stream with its file closed, if the shell has opened that. -/
def Sink.shut : Sink → Sink
  | .opened file _ => .opened file false
  | sink => sink

/-- Nothing was written: the output streams are as they were, but for those that were closed, and so is every file that
no process has open. -/
structure World.Unwritten (world after : World) : Prop where
  /-- Log records go where they went. -/
  log : after.log = world.log
  /-- The output streams. -/
  sinks : after.sinks.map Sink.shut = world.sinks.map Sink.shut
  /-- The files. -/
  files : ∀ σ : Seal, σ.Holds world.machine → σ.ConfinesAll world.tasks →
    σ.Spares world.machine after.machine ∧ σ.ConfinesAll after.tasks

namespace World.Unwritten

variable {world mid after : World}

theorem refl (world : World) : world.Unwritten world := ⟨rfl, rfl, fun _ hm ht => ⟨hm.refl, ht⟩⟩

theorem trans (h : world.Unwritten mid) (h' : mid.Unwritten after) : world.Unwritten after where
  log := h'.log.trans h.log
  sinks := h'.sinks.trans h.sinks
  files σ hm ht :=
    have ⟨hspares, htasks⟩ := h.files σ hm ht
    have ⟨hspares', htasks'⟩ := h'.files σ hspares.holds htasks
    ⟨hspares.trans hspares', htasks'⟩

/-- What changes nothing but the machine. -/
theorem of_machine {machine : Script.Machine}
    (h : ∀ σ : Seal, σ.Holds world.machine → σ.Spares world.machine machine) :
    world.Unwritten { world with machine } :=
  ⟨rfl, rfl, fun σ hm ht => ⟨h σ hm, ht⟩⟩

end World.Unwritten

/-- Without a log, the operation writes nothing. -/
def Run.Silent {α : Type} (op : Run α) : Prop := ∀ world : World, world.log = none → world.Unwritten (op world).2

namespace Run.Silent

variable {α β : Type} {op : Run α}

theorem pure (a : α) : Silent (Pure.pure a : Run α) := fun world _ => .refl world

theorem bind (h : op.Silent) {f : α → Run β} (hf : ∀ a, (f a).Silent) : (op >>= f).Silent := by
  intro world hlog
  have hop := h world hlog
  exact hop.trans (hf _ _ (hop.log.trans hlog))

theorem discard (h : op.Silent) : Silent (discard op) := h

theorem forM {f : α → Run PUnit} (h : ∀ a, (f a).Silent) (as : List α) : Silent (as.forM f) := by
  induction as with
  | nil => exact pure _
  | cons a as ih => exact (h a).bind fun _ => ih

end Run.Silent

section

open Run (Silent)

theorem World.letGo_silent (file : Nat) : (World.letGo file).Silent := by
  intro world _
  have hupdate (σ : Seal) (hm : σ.Holds world.machine) :
      σ.Spares world.machine (world.machine.update shellPid fun p => { p with fds := p.fds.filter (·.2.file ≠ file) }) :=
    hm.spares_update fun _ => ⟨rfl, .inl σ.shell⟩
  exact .of_machine fun σ hm => (hupdate σ hm).trans (hupdate σ hm).holds.spares_stir

theorem World.await_silent (holds : Script.Machine → Bool) : (World.await holds).Silent := fun world _ =>
  ⟨rfl, rfl, fun _ hm ht => Seal.spares_turns hm ht (Script.Schedule.reflTransGen_turn_run _ none
    { machine := world.machine, threads := world.tasks, now := world.clock })⟩

theorem World.note_silent (level : Level) (origin : Origin) (text : String) :
    (World.note level origin text).Silent := by
  intro world hlog
  rw [World.note, Run.get_bind, hlog]
  exact .refl world

theorem World.close_silent (id : Nat) : (World.close id).Silent := by
  intro world hlog
  rw [World.close_eq]
  split
  · next file hsink =>
    have hset : world.Unwritten (world.setSink id (.opened file false)) := by
      refine ⟨rfl, ?_, fun _ hm ht => ⟨hm.refl, ht⟩⟩
      refine Array.ext_getElem? fun n => ?_
      rw [Array.getElem?_map, Array.getElem?_map, World.setSink, Array.getElem?_setIfInBounds]
      split
      · next heq => rw [← heq, hsink, if_pos (Array.getElem?_eq_some_iff.1 hsink).1]; rfl
      · rfl
    exact hset.trans (World.letGo_silent file _ (hset.log.trans hlog))
  · exact .refl world

theorem Program.wait_silent (pid : Nat) : (Program.wait pid).Silent :=
  (World.await_silent _).bind fun _ _ _ => .of_machine fun _ hm => hm.spares_ended _

theorem Worker.join_silent (worker : Worker) : worker.join.Silent := by
  cases worker with
  | collect node => exact (World.await_silent _).bind fun _ => .pure _
  | feed file source =>
    refine (World.await_silent _).bind fun _ world _ => ?_
    have hsupplies (σ : Seal) (hm : σ.Holds world.machine) :=
      hm.spares_supplies (world.machine.supplies.filter (·.1 ≠ file))
    cases source <;> exact ⟨rfl, rfl, fun σ hm ht => ⟨hsupplies σ hm, ht⟩⟩

namespace Pipeline

theorem Standing.await_silent (standing : Standing) : standing.await.Silent := by
  cases standing with
  | ended status => exact .pure _
  | running pid => exact Program.wait_silent pid
  | task thread act next => exact (World.await_silent _).bind fun _ => .pure _
  | finished conclusion =>
    cases conclusion with
    | returned status => exact .pure _
    | faulted => exact (World.note_silent _ _ _).bind fun _ => .pure _

theorem Standing.stop_silent (standing : Standing) : standing.stop.Silent := by
  cases standing with
  | running pid => exact fun world _ => .of_machine fun _ hm => hm.spares_send _ _
  | ended | task | finished => exact .pure _

theorem Flow.release_silent (flow : Flow) : flow.release.Silent := by
  have hrelease (r : Redirection) : r.release.Silent := (Silent.forM World.close_silent _).bind fun _ => .pure _
  exact .forM (fun r => (hrelease r).discard) _

end Pipeline

end

namespace Pipeline

namespace Executor

variable {shell : Shell} {division : Division shell} {e e' : Executor}

/-- What the main thread does to give up writes nothing, if there is no log. -/
theorem GivingUp.unwritten (h : e.GivingUp) (hlog : e.world.log = none)
    (hmain : e.advance shell division = some e') : e.world.Unwritten e'.world := by
  unfold Executor.advance at hmain
  split at hmain
  · next hready =>
    obtain rfl := Option.some.inj hmain
    obtain ⟨world, flow, phase⟩ := e
    suffices hsilent : (action shell division flow phase).Silent from hsilent world hlog
    have hphase := h.phase
    cases phase with
    | stopping place =>
      rw [action, stop]
      cases flow.stages[place]? with
      | none => exact .pure _
      | some standing => exact standing.stop_silent.bind fun _ => .pure _
    | ending place =>
      rw [action, quit]
      cases flow.stages[place]? with
      | none => exact .pure _
      | some standing => exact standing.await_silent.discard.bind fun _ => .pure _
    | leaving workers =>
      cases workers with
      | nil => exact flow.release_silent.bind fun _ => .pure _
      | cons worker workers => exact worker.join_silent.bind fun _ => .pure _
    | returned status => exact .pure _
    | opening | finding | fetching | draining | launching | joining | collecting => exact hphase.elim
  · cases hmain

/-- A stream that was left alone so far is left alone when the pipeline is given up. -/
theorem GivingUp.spares {σ : Seal} {s : Nat} {before : World} (hguarded : before.Guarded σ s)
    (hstderr : shell.streams.stderr ≠ s) (h : e.GivingUp) (hspares : e.Spares σ s before)
    (hreaches : Reaches shell division e e') : e'.Spares σ s before := by
  induction hreaches with
  | refl => exact hspares
  | @tail mid after hfirst hmove ih =>
    have hmid := h.reaches hfirst
    have hafter := (hmid.move hmove).phase
    have hclear : mid.Clear shell division σ s := by
      have hphase := hmid.phase
      unfold Clear
      split
      · next heq => rw [heq] at hphase; exact hphase.elim
      · next heq => rw [heq] at hphase; exact hphase.elim
      · next heq => rw [heq] at hphase; exact hphase.elim
      · trivial
    exact ih.move hguarded hstderr hclear (fun stage callee heq => by rw [heq] at hafter; exact hafter) hmove

end Executor

end Pipeline

end LineShell
