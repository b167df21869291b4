import LineShell.Proofs.Executor
import LineShell.Proofs.SparedStreams

/-!
# Executions that leave a stream alone

Whichever thread of a pipeline goes on when, a stream of the shell stays as it is as long as it has its file to itself:
redirections lead elsewhere, programs do not have the file, and built-in commands write to the streams that they are
given.

## The model

`Executor.Clear` is what is asked of a state, about what its main thread is going to do. A step from a clear state keeps
`Executor.Spares` (`spares_step`): the stream has been left alone so far, and neither what was opened or started nor what
the stages have yet to do has to do with it.
-/

namespace LineShell

open Script (Seal)

variable {σ : Seal} {s : Nat}

/-- Every step leaves a guarded stream alone. -/
def Work.Heeds (σ : Seal) (s : Nat) : Work → Prop
  | .ended _ => True
  | .step act next =>
    (∀ world, world.Guarded σ s → World.Spared σ s world (act world)) ∧ ∀ world, (next world).Heeds σ s

/-- A command that writes to the streams that it is given does so in a single step. -/
theorem Shell.Heeds.whole {shell : Shell} {name : String} {args : List String} (h : shell.Heeds σ s name args)
    {context : Context} (hstdout : context.streams.stdout ≠ s) (hstderr : context.streams.stderr ≠ s) :
    ((Division.whole shell).work name args context).Heeds σ s := by
  cases hcommand : shell.commands.get? name with
  | none => simp only [Division.whole, hcommand, Work.Heeds]
  | some command =>
    simp only [Division.whole, hcommand, Work.Heeds]
    exact ⟨fun world hg => (h command hcommand context hstdout hstderr world hg).1, fun _ => trivial⟩

/-- What processes do leaves a guarded stream alone. -/
theorem World.Guarded.spared_of_passes {world after : World} (hg : world.Guarded σ s) (h : world.Passes after) :
    World.Spared σ s world after := by
  cases h with
  | intro clock hturns =>
    have ⟨hrun, htasks⟩ := Seal.spares_turns hg.machine hg.tasks hturns.to_reflTransGen
    exact hg.spared_of_machine hrun htasks rfl rfl rfl

namespace Pipeline

/-- What the main thread is about to do has nothing to do with a stream and its file. The last stage of a pipeline may
write there, but then its name stands for nothing. -/
def Phase.Avoids (σ : Seal) (s : Nat) : Phase → Prop
  | .finding stage rest => stage.streams.stderr ≠ s ∧ (rest ≠ [] → stage.Avoids s)
  | .fetching stage _ _ | .launching stage _ _ => stage.Avoids s
  | .draining stage _ file _ => stage.Avoids s ∧ ¬ σ.files file
  | .opening _ | .joining .. | .collecting .. | .stopping _ | .ending _ | .leaving _ | .returned _ => True

namespace Executor

variable {shell : Shell} {division : Division shell} {e e' : Executor}

/-- The targets of the stage that is opened next do not lead to the sealed file, a program that is started next does not
write to it, and a built-in command that is started next writes to the streams that it is given. -/
def Clear (shell : Shell) (division : Division shell) (σ : Seal) (s : Nat) (e : Executor) : Prop :=
  match e.phase with
  | .opening (words :: _) => ∀ node ∈ (Invocation.ofWords words).nodes shell.streams e.world, σ.Avoids node
  | .launching stage (.builtin _) _ => ∀ context : Context, context.streams.stdout ≠ s → context.streams.stderr ≠ s →
    (division.work stage.name stage.args context).Heeds σ s
  | .launching stage (.program path) _ => ∀ program,
    shell.starter (Shell.flush stage.streams e.world).2 stage.name path stage.args = .ok program → program.Confined σ
  | _ => True

/-- A stream has been left alone since some world, and nothing that goes on has to do with it and its file. -/
structure Spares (σ : Seal) (s : Nat) (before : World) (e : Executor) : Prop where
  /-- The stream is as it was. -/
  world : World.Spared σ s before e.world
  /-- What the stages have in common has nothing to do with it. -/
  flow : e.flow.Avoids σ s
  /-- Nor has what the stages have yet to do. -/
  works : AllWork (Work.Heeds σ s) e.flow
  /-- Nor has what the main thread is about to do. -/
  phase : e.phase.Avoids σ s

/-- After an operation nothing that goes on has to do with the stream and its file. -/
abbrev Leaves (σ : Seal) (s : Nat) (world : World) (op : Run (Flow × Phase)) : Prop :=
  SafeFrom σ s world op fun next => next.1.Avoids σ s ∧ next.2.Avoids σ s

section

variable {flow : Flow} {stage : Stage} {callee : Callee} {rest : List (List String)} {world : World}

theorem leaves_openNext (hstderr : shell.streams.stderr ≠ s) {words : List String}
    (htargets : ∀ node ∈ (Invocation.ofWords words).nodes shell.streams world, σ.Avoids node)
    (hflow : flow.Avoids σ s) : Leaves σ s world (openNext shell words rest flow) := by
  refine SafeFrom.bind (openStage_safe hstderr rest.isEmpty htargets hflow) fun hopened => ?_
  cases hopen : openStage shell rest.isEmpty words flow world with | mk opened later
  obtain ⟨next, stage?⟩ := opened
  rw [hopen] at hopened
  cases stage? with
  | none => exact .pure ⟨hopened.1, trivial⟩
  | some stage =>
    obtain ⟨hmessages, hstage, -⟩ := hopened.2 stage rfl
    refine .pure ⟨hopened.1, hmessages, fun hmore => hstage fun hlast => ?_⟩
    exact absurd (List.isEmpty_iff.1 hlast) hmore

theorem leaves_look (hstderr : stage.streams.stderr ≠ s)
    (hstage : stage.Avoids s ∨ stage.find? shell world = none) (hflow : flow.Avoids σ s) :
    Leaves σ s world (look shell stage rest flow) := by
  refine .get_bind ?_
  split
  · exact ((Stage.miss_safe hstderr).bind fun _ _ => (Flow.dropSupply_safe flow).bind fun _ _ =>
      .pure ⟨hflow, trivial⟩) world
  · next hfind => exact .pure ⟨hflow, hstage.resolve_right (by simp [hfind])⟩

theorem leaves_unlessGone {next : Run (Flow × Phase)} (hflow : flow.Avoids σ s) (h : Leaves σ s world next) :
    Leaves σ s world (unlessGone flow next) := by
  refine .get_bind ?_
  split
  · exact .pure ⟨hflow, trivial⟩
  · exact h

theorem leaves_fetch (hstage : stage.Avoids s) (hflow : flow.Avoids σ s) :
    Leaves σ s world (fetch stage callee rest flow) := by
  refine (Flow.fetch_safe hflow).bind (fun fetched hfetched => ?_) world
  split
  · next file hsupply =>
    have hfile : ¬ σ.files file := show Supply.Avoids σ s (.piped file) from hsupply ▸ hfetched.supply
    exact (Flow.widen_safe hfile).bind fun _ _ => .pure ⟨hfetched, hstage, hfile⟩
  · exact .pure ⟨hfetched, hstage⟩

theorem leaves_drain (hstage : stage.Avoids s) {file : Nat} (hfile : ¬ σ.files file) (hflow : flow.Avoids σ s) :
    Leaves σ s world (drain stage callee file rest flow) :=
  (Flow.empty_safe hfile).bind (fun _ _ => .pure ⟨⟨trivial, hflow.redirections⟩, hstage⟩) world

theorem leaves_launch (hstage : stage.Avoids s) (hflow : flow.Avoids σ s)
    (hprogram : ∀ path program, callee = .program path →
      shell.starter (Shell.flush stage.streams world).2 stage.name path stage.args = .ok program →
        program.Confined σ) :
    Leaves σ s world (launch shell division stage callee rest flow) := by
  cases callee with
  | builtin command =>
    refine (Stage.builtinStreams_safe hstage _).bind (fun streams hstreams => ?_) world
    exact World.newThread_safe.bind fun thread _ =>
      .pure ⟨Flow.avoids_next hflow _ (Stage.captured_avoids hstreams.1), trivial⟩
  | program path =>
    exact SafeFrom.bind (Stage.runProgram_safe hstage hflow fun program hstarts => hprogram path program rfl hstarts)
      fun hnext => .pure ⟨hnext, trivial⟩

end

/-- What the main thread does in a clear state leaves the stream alone. -/
theorem leaves_action (hstderr : shell.streams.stderr ≠ s) (hflow : e.flow.Avoids σ s) (hphase : e.phase.Avoids σ s)
    (hclear : e.Clear shell division σ s)
    (hlast : ∀ stage, e.phase = .finding stage [] → stage.find? shell e.world = none) :
    Leaves σ s e.world (action shell division e.flow e.phase) := by
  obtain ⟨world, flow, phase⟩ := e
  cases phase with
  | opening stages =>
    cases stages with
    | nil => exact .pure ⟨hflow, trivial⟩
    | cons words rest => exact leaves_openNext hstderr hclear hflow
  | finding stage rest =>
    refine leaves_look hphase.1 ?_ hflow
    cases rest with
    | nil => exact .inr (hlast stage rfl)
    | cons => exact .inl (hphase.2 (List.cons_ne_nil _ _))
  | fetching stage callee rest => exact leaves_unlessGone hflow (leaves_fetch hphase hflow)
  | draining stage callee file rest => exact leaves_drain hphase.1 hphase.2 hflow
  | launching stage callee rest =>
    refine leaves_unlessGone hflow (leaves_launch hphase hflow fun path program hcallee => ?_)
    subst hcallee
    exact hclear program
  | joining place status =>
    dsimp only [action, join]
    split
    · exact .pure ⟨hflow, trivial⟩
    · exact (Standing.await_safe _).bind (fun _ _ => .pure ⟨hflow, trivial⟩) world
  | collecting workers status =>
    cases workers with
    | nil => exact (Flow.close_safe hflow _).bind (fun _ _ => .pure ⟨hflow, trivial⟩) world
    | cons worker workers => exact worker.join_safe.bind (fun _ _ => .pure ⟨hflow, trivial⟩) world
  | stopping place =>
    dsimp only [action, stop]
    split
    · exact .pure ⟨hflow, trivial⟩
    · exact (Standing.stop_safe _).bind (fun _ _ => .pure ⟨hflow, trivial⟩) world
  | ending place =>
    dsimp only [action, quit]
    split
    · exact .pure ⟨hflow, trivial⟩
    · exact (Standing.await_safe _).discard.bind (fun _ _ => .pure ⟨hflow, trivial⟩) world
  | leaving workers =>
    cases workers with
    | nil => exact (Flow.release_safe hflow).bind (fun _ _ => .pure ⟨hflow, trivial⟩) world
    | cons worker workers => exact worker.join_safe.bind (fun _ _ => .pure ⟨hflow, trivial⟩) world
  | returned status => exact .pure ⟨hflow, trivial⟩

/-- What the main thread starts in a clear state has nothing to do with the stream. -/
theorem heeds_action (hguarded : e.world.Guarded σ s) (hphase : e.phase.Avoids σ s)
    (hclear : e.Clear shell division σ s) (hworks : AllWork (Work.Heeds σ s) e.flow) :
    AllWork (Work.Heeds σ s) (action shell division e.flow e.phase e.world).1.1 := by
  refine hworks.changes (changes_action e.phase e.world) fun standing hstarts work hwork => ?_
  unfold Starts at hstarts
  split at hstarts
  · next stage command rest heq =>
    obtain ⟨thread, rfl⟩ := hstarts
    rw [heq] at hphase
    rw [Clear, heq] at hclear
    obtain ⟨-, hstreams⟩ := Stage.builtinStreams_safe hphase e.flow.supply e.world hguarded
    rw [eq_of_mem_workOf_ofWork hwork]
    exact hclear _ hstreams.1 hstreams.2
  · rw [hstarts] at hwork
    cases hwork

/-- A step from a clear state leaves the stream alone, unless the last stage is found. -/
theorem Spares.move {before : World} (hguarded : before.Guarded σ s) (hstderr : shell.streams.stderr ≠ s)
    (h : e.Spares σ s before) (hclear : e.Clear shell division σ s)
    (hlast : ∀ stage callee, e'.phase ≠ .fetching stage callee []) (hmove : Move shell division e e') :
    e'.Spares σ s before := by
  cases hmove with
  | thread hstep =>
    cases hstep with
    | main hmain =>
      unfold advance at hmain
      split at hmain
      · obtain rfl := Option.some.inj hmain
        have hmissing (stage : Stage) (hphase : e.phase = .finding stage []) :
            stage.find? shell e.world = none := by
          refine Option.eq_none_iff_forall_ne_some.2 fun callee hfind => hlast stage callee ?_
          rw [hphase, after, action, look, Run.get_bind, hfind]
          rfl
        obtain ⟨hspared, hflow, hphase⟩ := leaves_action hstderr h.flow h.phase hclear hmissing h.world.guarded
        exact ⟨h.world.trans hguarded hspared, hflow, heeds_action h.world.guarded h.phase hclear h.works, hphase⟩
      · cases hmain
    | stage place hturn =>
      have hworks := allWork_turn h.works (fun act next world hheeds => hheeds.2 world) hturn
      unfold turn at hturn
      split at hturn
      · next thread act next hstage =>
        obtain rfl := Option.some.inj hturn
        have hheeds := h.works _ (List.mem_of_getElem? hstage) _ rfl
        have hact : Safe σ s (World.asThread thread (fun world => ((), act world))) :=
          World.asThread_safe thread fun world hg => ⟨hheeds.1 world hg, trivial⟩
        exact ⟨h.world.trans hguarded (hact e.world h.world.guarded).1, ⟨h.flow.supply, h.flow.redirections⟩, hworks,
          h.phase⟩
      · cases hturn
  | process hpasses =>
    exact ⟨h.world.trans hguarded (h.world.guarded.spared_of_passes hpasses), h.flow, h.works, h.phase⟩

theorem distance_move (h : Move shell division e e') : distance e'.flow e'.phase ≤ distance e.flow e.phase := by
  cases h with
  | process hpasses => exact le_refl _
  | thread hstep =>
    cases hstep with
    | main hmain => exact (distance_advance hmain).le
    | stage place hturn =>
      unfold turn at hturn
      split at hturn
      · obtain rfl := Option.some.inj hturn
        exact (distance_with _ _ _ _).le
      · cases hturn

theorem distance_of_reaches (h : Reaches shell division e e') :
    distance e'.flow e'.phase ≤ distance e.flow e.phase := by
  induction h with
  | refl => exact le_refl _
  | tail _ hmove ih => exact (distance_move hmove).trans ih

/-- On the way through clear states to the look for a stage the stream is left alone. -/
theorem Spares.path {before : World} (hguarded : before.Guarded σ s) (hstderr : shell.streams.stderr ≠ s)
    (h : e.Spares σ s before)
    (hpath : Relation.ReflTransGen (fun e e' => e.Clear shell division σ s ∧ Move shell division e e') e e')
    {stage : Stage} {rest : List (List String)} (hphase : e'.phase = .finding stage rest) : e'.Spares σ s before := by
  induction hpath using Relation.ReflTransGen.head_induction_on with
  | refl => exact h
  | @head e mid hfirst hthen ih =>
    refine ih (h.move hguarded hstderr hfirst.1 (fun last callee hfetching => ?_) hfirst.2)
    -- After the last stage there is none to look for.
    have hle := distance_of_reaches (Relation.ReflTransGen.mono (fun _ _ hstep => hstep.2) _ _ hthen)
    rw [hphase, hfetching] at hle
    exact absurd (toLex_lt (by simp only [List.length_nil]; omega)) (not_lt.2 hle)

end Executor

end Pipeline

end LineShell
