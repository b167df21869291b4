import LineShell.Launch
import LineShell.Proofs.Oblivious
import LineShell.Proofs.Threads
import LineShell.Proofs.Ways

/-!
# A single stage, by itself and in a pipeline

The two ways to run a single stage come to the same where nothing but faults is logged: the same status, files,
processes, streams, history, working directory and request to leave.

## The model

`Comes` lists what a stage comes to: its redirections are refused, it has no command, it calls a built-in command, or
it starts a program. For each there is a lemma on what `Way.run` does then. Two differences remain when there are no
records. A pipeline runs a built-in command on a thread of its own, which the command cannot tell (`Oblivious`). And
only a stage by itself flushes the streams of its command, before its redirections are released; it could as well do
so afterwards (`flush_release`). The thread of a built-in command is the only one that goes on beside the main thread,
which waits for it (`inevitable_run`).
-/

namespace LineShell

namespace World

/-! ### Flushing and closing -/

/-- An operation that cannot tell its thread does the same on a thread of its own. -/
theorem asThread_of_oblivious {α : Type} {op : Run α} {world : World} (h : Oblivious op) (hquiet : world.IsQuiet) :
    ∃ after, (op world).2.Alike after ∧ (do asThread (← newThread) op : Run α) world = ((op world).1, after) := by
  obtain ⟨-, hresult, thread, threads, hworld⟩ := h world (world.threads + 1) (world.threads + 1) hquiet
  refine ⟨(op world).2.seenFrom world.thread threads, ⟨_, _, rfl⟩, ?_⟩
  have hthread : (do asThread (← newThread) op : Run α) world =
      ((op (world.seenFrom (world.threads + 1) (world.threads + 1))).1,
        { (op (world.seenFrom (world.threads + 1) (world.threads + 1))).2 with thread := world.thread }) := rfl
  rw [hthread, hresult, hworld]
  rfl

theorem oblivious_flush (id : Nat) : Oblivious (flush id) := by
  refine .look (fun _ _ _ => rfl) fun world => ?_
  split
  · split
    · exact .pure _
    · exact (oblivious_setSink _ _).bind fun _ => (oblivious_writeFile _ _).discard
  · exact .pure _

theorem oblivious_letGo (file : Nat) : Oblivious (letGo file) :=
  fun _ thread threads hquiet => ⟨hquiet, rfl, thread, threads, rfl⟩

theorem oblivious_close (id : Nat) : Oblivious (close id) := by
  refine .look (fun _ _ _ => rfl) fun world => ?_
  split
  · exact (oblivious_setSink _ _).bind fun _ => oblivious_letGo _
  · exact .pure _

theorem isGone_letGo (file : Nat) (world : World) : (letGo file world).2.isGone = world.isGone :=
  congrArg Plumbing.isGone (letGo_keeps_plumbing file world)

/-- What becomes of the files and the open files has nothing to do with a change to a process. -/
theorem update_comm (m : Script.Machine) (pid : Nat) (f : Script.Process → Script.Process) (files : FileSystem)
    (file : Nat) (handle : Handle) :
    { m.update pid f with files }.setHandle file handle = ({ m with files }.setHandle file handle).update pid f := by
  unfold Script.Machine.update
  split
  · next h => exact (if_pos h).symm
  · next h => exact (if_neg h).symm

theorem writeFile_letGo (file file' : Nat) (bs : Bytes) (world : World) :
    (writeFile file bs (letGo file' world).2).2 = (letGo file' (writeFile file bs world).2).2 := by
  have hhandles : (letGo file' world).2.machine.handles = world.machine.handles := handles_update ..
  have hfiles : (letGo file' world).2.files = world.files := by
    change (world.machine.update shellPid _).files = world.machine.files
    unfold Script.Machine.update
    split <;> rfl
  rw [writeFile, Run.get_bind, Run.get_bind, hhandles, hfiles]
  cases world.machine.handles[file]? with
  | none => rfl
  | some handle =>
    dsimp only
    cases world.files.write handle bs with
    | error cause => rfl
    | ok written =>
      exact congrArg (fun machine : Script.Machine => { world with machine := machine.stir })
        (update_comm world.machine shellPid _ written.2 file written.1)

theorem flush_eq (id : Nat) (world : World) :
    (flush id world).2 = match world.sinks[id]? with
      | some (.inherited file (some buffer)) =>
        if world.isGone then world
        else (writeFile file buffer (world.setSink id (.inherited file (some [])))).2
      | _ => world := by
  rw [flush, Run.get_bind]
  match world.sinks[id]? with
  | some (.inherited file (some buffer)) => cases world.isGone <;> rfl
  | some (.inherited _ none) | some (.opened _ _) | some (.memory _ _) | none => rfl

theorem IsQuiet.alike {world after : World} (h : world.IsQuiet) (halike : world.Alike after) : after.IsQuiet := by
  obtain ⟨thread, threads, rfl⟩ := halike
  exact h

/-- No output stream has a buffer. -/
def IsUnbuffered (world : World) : Prop :=
  ∀ (id file : Nat) (buffer : Bytes), world.sinks[id]? ≠ some (.inherited file (some buffer))

theorem flush_of_unbuffered {world : World} (h : world.IsUnbuffered) (id : Nat) : (flush id world).2 = world := by
  rw [flush_eq]
  split
  · next file buffer hsink => exact absurd hsink (h id file buffer)
  · rfl

theorem writeFile_setSink (file : Nat) (bs : Bytes) (id : Nat) (sink : Sink) (world : World) :
    (writeFile file bs (world.setSink id sink)).2 = (writeFile file bs world).2.setSink id sink := by
  have hmachine : (world.setSink id sink).machine = world.machine := rfl
  have hfiles : (world.setSink id sink).files = world.files := rfl
  rw [writeFile, Run.get_bind, Run.get_bind, hmachine, hfiles]
  cases world.machine.handles[file]? with
  | none => rfl
  | some handle =>
    dsimp only
    cases world.files.write handle bs <;> rfl

theorem setSink_comm {id id' : Nat} (h : id ≠ id') (sink sink' : Sink) (world : World) :
    (world.setSink id sink).setSink id' sink' = (world.setSink id' sink').setSink id sink :=
  congrArg (fun sinks => { world with sinks }) (Array.setIfInBounds_comm _ _ h)

/-- To flush a stream has nothing to do with the file that another one is closed with. -/
theorem flush_shut {id id' : Nat} (h : id' ≠ id) (file : Nat) (sink : Sink) (world : World) :
    (flush id (letGo file (world.setSink id' sink)).2).2 = (letGo file ((flush id world).2.setSink id' sink)).2 := by
  have hsink : (letGo file (world.setSink id' sink)).2.sinks[id]? = world.sinks[id]? := sinks_setSink h _
  have hgone : (letGo file (world.setSink id' sink)).2.isGone = world.isGone := isGone_letGo ..
  rw [flush_eq, flush_eq, hsink, hgone]
  match world.sinks[id]? with
  | some (.inherited file' (some buffer)) =>
    cases world.isGone with
    | true => rfl
    | false =>
      simp only [Bool.false_eq_true, if_false]
      rw [← writeFile_setSink, setSink_comm (Ne.symm h), ← writeFile_letGo]
      rfl
  | some (.inherited _ none) | some (.opened _ _) | some (.memory _ _) | none => rfl

theorem close_of_opened {id file : Nat} {world : World} (h : world.plumbing.outlets[id]? = some (.opened file true)) :
    (close id world).2 = (letGo file (world.setSink id (.opened file false))).2 := by
  rw [close_eq, outlet_eq_opened_iff.1 h]

theorem close_of_not_opened {id : Nat} {world : World}
    (h : ∀ file, world.plumbing.outlets[id]? ≠ some (.opened file true)) : (close id world).2 = world := by
  rw [close_eq]
  split
  · next file hopened => exact absurd (outlet_eq_opened_iff.2 hopened) (h file)
  · rfl

/-- Whether a stream is flushed first or another one is closed first does not matter. -/
theorem flush_close (id id' : Nat) (world : World) :
    (flush id (close id' world).2).2 = (close id' (flush id world).2).2 := by
  have hplumbing : (flush id world).2.plumbing = world.plumbing := flush_keeps_plumbing id world
  by_cases hopened : ∃ file, world.plumbing.outlets[id']? = some (.opened file true)
  · obtain ⟨file, hopened⟩ := hopened
    rw [close_of_opened hopened, close_of_opened (hplumbing ▸ hopened)]
    by_cases hsame : id' = id
    · -- A stream with a file that the shell has opened has no buffer, whether it is closed or not.
      subst hsame
      have hopen := outlet_eq_opened_iff.1 hopened
      have hclosed :
          (letGo file (world.setSink id' (.opened file false))).2.sinks[id']? = some (.opened file false) :=
        Array.getElem?_setIfInBounds_self_of_lt (Array.getElem?_eq_some_iff.1 hopen).1
      rw [flush_eq, flush_eq, hclosed, hopen]
    · exact flush_shut hsame file _ world
  · have hclosed (file : Nat) := not_exists.1 hopened file
    rw [close_of_not_opened hclosed, close_of_not_opened (hplumbing ▸ hclosed)]

end World

namespace Redirection

theorem oblivious_release (r : Redirection) : Oblivious (r.release) :=
  (Oblivious.forM World.oblivious_close _).bind fun _ => .pure _

/-- Whether streams are flushed first or redirections are released first does not matter. -/
theorem flush_release (id : Nat) (r : Redirection) (world : World) :
    (World.flush id (r.release world).2).2 = (r.release (World.flush id world).2).2 := by
  obtain ⟨opened⟩ := r
  change (World.flush id (opened.forM World.close world).2).2 = (opened.forM World.close (World.flush id world).2).2
  induction opened generalizing world with
  | nil => rfl
  | cons id' opened ih =>
    rw [List.forM_eq_forM, List.forM_cons, ← List.forM_eq_forM, Run.bind_apply, Run.bind_apply, ih, World.flush_close]

end Redirection

namespace World

theorem writeFile_keeps_stalled (file : Nat) (bs : Bytes) : Keeps stalled (writeFile file bs) := by
  refine Keeps.get_bind fun world => ?_
  split
  · exact Keeps.pure _ _
  · split <;> rfl

theorem flush_keeps_stalled (id : Nat) : Keeps stalled (flush id) := by
  intro world
  rw [KeepsFrom, flush_eq]
  split
  · split
    · rfl
    · exact writeFile_keeps_stalled _ _ _
  · rfl

end World

namespace Shell

theorem oblivious_flush (streams : Streams) : Oblivious (flush streams) :=
  (World.oblivious_flush _).bind fun _ => World.oblivious_flush _

theorem flush_release (streams : Streams) (r : Redirection) (world : World) :
    (flush streams (r.release world).2).2 = (r.release (flush streams world).2).2 := by
  change (World.flush _ (World.flush _ (r.release world).2).2).2 =
    (r.release (World.flush _ (World.flush _ world).2).2).2
  rw [Redirection.flush_release, Redirection.flush_release]

section

variable {shell : Shell} {words : List String} {world : World}

/-! ### Where nothing but faults is logged -/

/-- What a single stage comes to. -/
inductive Comes (shell : Shell) (words : List String) (world : World) : Prop where
  /-- Its redirections cannot be opened. -/
  | refused {failure : Failure} {later : World} :
    Redirection.apply (Invocation.ofWords words) shell.streams world = (.error failure, later) →
      Comes shell words world
  /-- It has no command. -/
  | bare {streams : Streams} {r : Redirection} {later : World} :
    Redirection.apply (Invocation.ofWords words) shell.streams world = (.ok (streams, r), later) →
      (Invocation.ofWords words).words = [] → Comes shell words world
  /-- It calls a built-in command that cannot tell its thread, and does not break off. -/
  | builtin {streams : Streams} {r : Redirection} {later : World} {name : String} {args : List String}
    {command : Builtin} :
    Redirection.apply (Invocation.ofWords words) shell.streams world = (.ok (streams, r), later) →
      (Invocation.ofWords words).words = name :: args → shell.commands.get? name = some command →
      Oblivious (command args (shell.context streams)) →
      (command args (shell.context streams) later).1 ≠ .faulted → Comes shell words world
  /-- It starts a program. -/
  | program {streams : Streams} {r : Redirection} {later : World} {name path : String} {args : List String}
    {program : Program} :
    Redirection.apply (Invocation.ofWords words) shell.streams world = (.ok (streams, r), later) →
      (Invocation.ofWords words).words = name :: args → shell.commands.get? name = none →
      shell.searchPath.resolve later name = some path →
      shell.starter (flush streams later).2 name path args = .ok program → Comes shell words world

/-- Flush the output streams of the command of a single stage, if its redirections can be opened. -/
def flushOf (shell : Shell) (words : List String) (world : World) : Run Unit :=
  match (Redirection.apply (Invocation.ofWords words) shell.streams world).1 with
  | .ok (streams, _) => flush streams
  | .error _ => pure ()

section

variable {later : World} {streams : Streams} {r : Redirection} {name : String} {args : List String}

theorem isQuiet_apply (hquiet : world.IsQuiet) {result : Except Failure (Streams × Redirection)}
    (happly : Redirection.apply (Invocation.ofWords words) shell.streams world = (result, later)) :
    later.IsQuiet := by
  have hlater : (Redirection.apply (Invocation.ofWords words) shell.streams world).2 = later :=
    congrArg Prod.snd happly
  exact hlater ▸ hquiet.kept (Redirection.apply_keeps _ _ world)

theorem spawn_keeps (program : Program) (streams : Streams) : Keeps World.bearings (spawn program streams) :=
  (World.inputFor_keeps _).bind fun _ => (World.outputFor_keeps _).bind fun _ =>
    (World.outputFor_keeps _).bind fun _ => (countWorkers_keeps _).bind fun _ =>
      (Program.start_keeps _ _ _ _).bind fun _ => .pure _

theorem conduct_keeps (program : Program) (streams : Streams) : Keeps World.bearings (conduct program streams) :=
  (spawn_keeps _ _).bind fun _ => (Program.wait_keeps _).bind fun _ =>
    (Keeps.forM Worker.join_keeps _).bind fun _ => .pure _

namespace Way

theorem note_of_quiet (hquiet : world.IsQuiet) (way : Way) (event : Event) : way.note event world = ((), world) := by
  cases way with
  | alone =>
    cases event with
    | started | ended => rfl
    | refused => exact World.note_warn_of_quiet hquiet _ _
    | called => exact World.note_debug_of_quiet hquiet _ _
  | piped =>
    cases event with
    | refused => exact World.note_warn_of_quiet hquiet _ _
    | started | called | ended => exact World.note_debug_of_quiet hquiet _ _

theorem release_keeps (way : Way) (streams : Streams) (r : Redirection) (conclusion : Conclusion) :
    Keeps World.bearings (way.release streams r conclusion) := by
  have hrelease : Keeps World.bearings (discard r.release) := (Redirection.release_keeps r).discard
  cases way with
  | alone =>
    cases conclusion with
    | returned status => exact (flush_keeps streams).bind fun _ => hrelease
    | faulted => exact hrelease
  | piped => exact hrelease

theorem close_of_quiet (hquiet : world.IsQuiet) (way : Way) (streams : Streams) (r : Redirection)
    (conclusion : Conclusion) :
    way.close streams r conclusion world = (conclusion, (way.release streams r conclusion world).2) := by
  have hreleased := hquiet.kept (way.release_keeps streams r conclusion world)
  rw [close, Run.bind_apply, Run.bind_apply, note_of_quiet hreleased]
  rfl

theorem run_of_refused {failure : Failure} (hquiet : world.IsQuiet)
    (happly : Redirection.apply (Invocation.ofWords words) shell.streams world = (.error failure, later)) (way : Way) :
    way.run shell words world =
      (.returned Status.failure, (World.say shell.streams.stderr (failure.message ++ "\n") later).2) := by
  have hlater := isQuiet_apply hquiet happly
  have hsaid := hlater.kept (World.say_keeps shell.streams.stderr (failure.message ++ "\n") later)
  rw [run, Run.bind_apply, note_of_quiet hquiet]
  dsimp only
  rw [Run.bind_apply, happly]
  dsimp only
  rw [Run.bind_apply, note_of_quiet hlater, Run.bind_apply, Run.bind_apply, note_of_quiet hsaid]
  rfl

theorem run_of_bare (hquiet : world.IsQuiet)
    (happly : Redirection.apply (Invocation.ofWords words) shell.streams world = (.ok (streams, r), later))
    (hwords : (Invocation.ofWords words).words = []) (way : Way) :
    way.run shell words world = (.returned 0, (way.release streams r (.returned 0) later).2) := by
  rw [run, Run.bind_apply, note_of_quiet hquiet]
  dsimp only
  rw [Run.bind_apply, happly]
  dsimp only
  rw [hwords]
  exact close_of_quiet (isQuiet_apply hquiet happly) way _ _ _

theorem run_of_builtin {command : Builtin} (hquiet : world.IsQuiet)
    (happly : Redirection.apply (Invocation.ofWords words) shell.streams world = (.ok (streams, r), later))
    (hwords : (Invocation.ofWords words).words = name :: args) (hcommand : shell.commands.get? name = some command)
    (way : Way) :
    way.run shell words world = (way.call (command args (shell.context streams)) >>= way.close streams r) later := by
  have hcallee : shell.callee? name later = some (.builtin command) := by rw [callee?, hcommand]
  rw [run, Run.bind_apply, note_of_quiet hquiet]
  dsimp only
  rw [Run.bind_apply, happly]
  dsimp only
  rw [hwords]
  dsimp only
  rw [Run.get_bind, hcallee]
  dsimp only
  rw [Run.bind_apply, note_of_quiet (isQuiet_apply hquiet happly)]

theorem run_of_program {path : String} {program : Program} (hquiet : world.IsQuiet)
    (happly : Redirection.apply (Invocation.ofWords words) shell.streams world = (.ok (streams, r), later))
    (hwords : (Invocation.ofWords words).words = name :: args) (hcommand : shell.commands.get? name = none)
    (hpath : shell.searchPath.resolve later name = some path)
    (hprogram : shell.starter (Shell.flush streams later).2 name path args = .ok program) (way : Way) :
    let ended := conduct program streams (Shell.flush streams later).2
    way.run shell words world = (.returned ended.1, (way.release streams r (.returned ended.1) ended.2).2) := by
  intro ended
  have hcallee : shell.callee? name later = some (.program path) := by
    rw [callee?, hcommand]
    dsimp only
    rw [hpath, Option.map]
  have hended : ended.2.IsQuiet :=
    ((isQuiet_apply hquiet happly).kept (flush_keeps streams later)).kept (conduct_keeps _ _ _)
  rw [run, Run.bind_apply, note_of_quiet hquiet]
  dsimp only
  rw [Run.bind_apply, happly]
  dsimp only
  rw [hwords]
  dsimp only
  rw [Run.get_bind, hcallee]
  dsimp only
  rw [Run.bind_apply, Run.get_bind, hprogram]
  dsimp only
  rw [Run.bind_apply, close_of_quiet hended]

end Way

theorem flushOf_of_ok
    (happly : Redirection.apply (Invocation.ofWords words) shell.streams world = (.ok (streams, r), later)) :
    shell.flushOf words world = flush streams := by
  rw [flushOf, happly]

theorem flushOf_of_refused {failure : Failure}
    (happly : Redirection.apply (Invocation.ofWords words) shell.streams world = (.error failure, later)) :
    shell.flushOf words world = pure () := by
  rw [flushOf, happly]

theorem flush_unbuffered {after : World} (h : after.IsUnbuffered) : (flush streams after).2 = after := by
  change (World.flush streams.stderr (World.flush streams.stdout after).2).2 = after
  rw [World.flush_of_unbuffered h, World.flush_of_unbuffered h]

/-- Where there are no buffers, there is nothing to flush. -/
theorem flushOf_unbuffered {after : World} (h : after.IsUnbuffered) :
    (shell.flushOf words world after).2 = after := by
  cases happly : Redirection.apply (Invocation.ofWords words) shell.streams world with
  | mk result later =>
    cases result with
    | error failure => rw [flushOf_of_refused happly]; rfl
    | ok opened => rw [flushOf_of_ok happly, flush_unbuffered h]

/-- The end of a single stage, where its command was run on this thread or on another one. -/
theorem alike_release {after after' : World} (h : after.Alike after') (hquiet : after.IsQuiet) (status : Int) :
    (Way.alone.release streams r (.returned status) after).2.Alike
      (flush streams (Way.piped.release streams r (.returned status) after').2).2 := by
  obtain ⟨thread, threads, rfl⟩ := h
  change (r.release (flush streams after).2).2.Alike (flush streams (r.release (after.seenFrom thread threads)).2).2
  rw [flush_release]
  exact (((oblivious_flush streams).bind fun _ => r.oblivious_release) after thread threads hquiet).2.2

end

theorem agrees_flushed (hquiet : world.IsQuiet) (h : shell.Comes words world) :
    ∃ status, (Way.alone.run shell words world).1 = .returned status ∧
      (Way.piped.run shell words world).1 = .returned status ∧
      (Way.alone.run shell words world).2.Alike (shell.flushOf words world (Way.piped.run shell words world).2).2 := by
  cases h with
  | refused happly =>
    rw [Way.run_of_refused hquiet happly, Way.run_of_refused hquiet happly, flushOf_of_refused happly]
    exact ⟨_, rfl, rfl, .refl _⟩
  | bare happly hwords =>
    rw [Way.run_of_bare hquiet happly hwords, Way.run_of_bare hquiet happly hwords, flushOf_of_ok happly]
    exact ⟨_, rfl, rfl, alike_release (.refl _) (isQuiet_apply hquiet happly) 0⟩
  | @builtin streams r later name args command happly hwords hcommand hoblivious hended =>
    have hlater := isQuiet_apply hquiet happly
    have hquietly := hoblivious.isQuiet hlater
    obtain ⟨status, hstatus⟩ : ∃ status, (command args (shell.context streams) later).1 = .returned status := by
      cases hconclusion : (command args (shell.context streams) later).1 with
      | returned status => exact ⟨status, rfl⟩
      | faulted => exact absurd hconclusion hended
    obtain ⟨after, halike, hthread⟩ := World.asThread_of_oblivious hoblivious hlater
    have hcall : Way.piped.call (command args (shell.context streams)) later = (.returned status, after) := by
      rw [Way.call, Run.bind_apply, hthread, hstatus]
      rfl
    rw [Way.run_of_builtin hquiet happly hwords hcommand, Way.run_of_builtin hquiet happly hwords hcommand,
      flushOf_of_ok happly, Run.bind_apply, Run.bind_apply, hcall, Way.call, hstatus, Way.close_of_quiet hquietly,
      Way.close_of_quiet (hquietly.alike halike)]
    exact ⟨status, rfl, rfl, alike_release halike hquietly status⟩
  | @program streams r later name path args program happly hwords hcommand hpath hprogram =>
    have hrun (way : Way) := way.run_of_program hquiet happly hwords hcommand hpath hprogram
    have hquietly := ((isQuiet_apply hquiet happly).kept (flush_keeps streams later)).kept
      (conduct_keeps program streams _)
    generalize conduct program streams (flush streams later).2 = ended at hrun hquietly
    rw [hrun .alone, hrun .piped, flushOf_of_ok happly]
    exact ⟨ended.1, rfl, rfl, alike_release (.refl _) hquietly ended.1⟩

end

end Shell

namespace Pipeline

namespace Executor

variable {shell : Shell} {division : Division shell} {words : List String} {world : World} {e : Executor}
  {outcome : Int × World}

/-- A main thread that has opened a single stage, which has come to nothing. -/
theorem inevitable_ended {status : Int} (hphase : e.phase = .opening []) (hstages : e.flow.stages = [.ended status])
    (hworkers : e.flow.workers = []) (houtcome : e.flow.close status e.world = outcome) :
    Inevitable (Step shell division) (Ends shell division outcome) e := by
  have hidle : Idle e.flow := by
    intro standing hmem
    rw [hstages] at hmem
    obtain rfl := List.mem_singleton.1 hmem
    exact nofun
  have hopen : e.advance shell division = some { e with phase := .joining 0 0 } := by
    simp only [advance, isReady, hphase, action]
    rfl
  have hjoin : ({ e with phase := .joining 0 0 } : Executor).advance shell division =
      some { e with phase := .joining 1 status } := by
    simp only [advance, isReady, action, join, hstages]
    rfl
  refine .of_advance hopen hidle (.of_advance hjoin hidle ?_)
  exact inevitable_joined rfl (by simp [hstages]) hworkers hidle houtcome

/-- A main thread that has opened a single stage, which calls a built-in command. -/
theorem inevitable_single {name : String} {args : List String} {streams : Streams} {r : Redirection} {command : Builtin}
    (hcommand : shell.commands.get? name = some command) (hthere : world.isGone = false)
    (houtcome : ((Shell.onlyStage name args streams).launch shell (.builtin command) (Shell.onlyFlow r) >>=
      Flow.finish) world = outcome) :
    Inevitable (Step shell division) (Ends shell division outcome)
      { world, flow := Shell.onlyFlow r, phase := .finding (Shell.onlyStage name args streams) [] } := by
  let stage := Shell.onlyStage name args streams
  let opened (phase : Phase) : Executor := { world, flow := Shell.onlyFlow r, phase }
  have hidle (phase : Phase) : Idle (opened phase).flow := idle_of_stages_eq_nil rfl
  have hcallee : stage.find? shell world = some (.builtin command) := by rw [Stage.find?, hcommand]
  have hfind : (opened (.finding stage [])).advance shell division =
      some (opened (.fetching stage (.builtin command) [])) := by
    simp only [advance, isReady, opened, action, look, after, if_true, Run.get_bind, hcallee]
    rfl
  have hfetch : (opened (.fetching stage (.builtin command) [])).advance shell division =
      some (opened (.launching stage (.builtin command) [])) := by
    simp only [advance, isReady, opened, action, after, Flow.isSettled, if_true, unlessGone_of_there hthere]
    rfl
  cases hstreams : stage.builtinStreams .shellInput world with | mk streams' ready
  let work := division.work name args (shell.context streams')
  let launched : Executor :=
    { world, flow := { Shell.onlyFlow r with supply := .nothing }, phase := .opening [] }
  have hlaunch : (opened (.launching stage (.builtin command) [])).advance shell division =
      some (launched.beside [] (World.newThread ready).1 work (World.newThread ready).2) := by
    simp only [advance, isReady, opened, action, after, if_true, unlessGone_of_there hthere, launch, Run.bind_apply,
      hstreams]
    rfl
  refine .of_advance hfind (hidle _) (.of_advance hfetch (hidle _) (.of_advance hlaunch (hidle _) ?_))
  refine inevitable_finishing rfl rfl ?_
  have hrun : work.run = command args (shell.context streams') := division.run_work hcommand _ _
  rw [← houtcome, Stage.launch, Stage.runBuiltin, bind_assoc, Run.bind_apply (stage.builtinStreams _), hstreams]
  have hfinish (conclusion : Conclusion) :
      ((Shell.onlyFlow r).next (.finished conclusion) .nothing).finish =
      statusOf conclusion >>= launched.flow.close := by
    have hclose : ((Shell.onlyFlow r).next (.finished conclusion) .nothing).close = launched.flow.close :=
      funext fun _ => by simp only [Flow.close, Flow.release, Flow.next, launched]
    rw [Shell.finish_single (.finished conclusion) rfl, hclose]
    rfl
  have hcaptured : stage.captured streams' = .nothing := rfl
  simp only [settle, hrun, bind_assoc, pure_bind]
  rw [hcaptured]
  simp only [hfinish]
  rfl

/-- A pipeline of a single stage that starts no program comes to its outcome, whichever thread goes on when. -/
theorem inevitable_run (hthere : world.isGone = false)
    (hbuiltin : ∀ name ∈ (Invocation.ofWords words).words.head?, (shell.commands.get? name).isSome) :
    Inevitable (Step shell division) (Ends shell division (run shell [words] world)) (start [words] world) := by
  have hnoted : (start [words] world).world.isGone = false := (World.note_keeps_isGone _ _ _ _).trans hthere
  have hrun : run shell [words] world = runFrom shell [words] {} (start [words] world).world := rfl
  have hopen (flow : Flow) (phase : Phase) (later : World)
      (h : openNext shell words [] {} (start [words] world).world = ((flow, phase), later)) :
      (start [words] world).advance shell division = some { world := later, flow, phase } := by
    have hadvance : (start [words] world).advance shell division =
        some ((start [words] world).after (openNext shell words [] {})) := rfl
    rw [hadvance, after, h]
  rw [hrun]
  generalize (start [words] world).world = noted at hnoted hopen
  have hlater := (Redirection.apply_keeps_isGone (Invocation.ofWords words) shell.streams noted).trans hnoted
  cases happly : Redirection.apply (Invocation.ofWords words) shell.streams noted with | mk result later
  rw [happly] at hlater
  have hended (status : Int) (redirections : List Redirection) (later : World)
      (h : openStage shell true words {} noted = ((Shell.endedFlow status redirections, none), later)) :
      Inevitable (Step shell division) (Ends shell division (runFrom shell [words] {} noted))
      (start [words] world) := by
    rw [Shell.runFrom_of_ended h]
    refine .of_advance (hopen (Shell.endedFlow status redirections) (.opening []) later ?_) (idle_of_stages_eq_nil rfl)
      (inevitable_ended rfl rfl rfl rfl)
    rw [openNext, List.isEmpty_nil, Run.bind_apply, h]
    rfl
  cases result with
  | error failure => exact hended _ _ _ (Shell.openStage_of_refused happly)
  | ok opened =>
    obtain ⟨streams, r⟩ := opened
    cases hwords : (Invocation.ofWords words).words with
    | nil => exact hended _ _ _ (Shell.openStage_of_bare happly hwords)
    | cons name args =>
      have hcommand : (shell.commands.get? name).isSome := hbuiltin name (by simp [hwords])
      obtain ⟨command, hcommand⟩ := Option.isSome_iff_exists.1 hcommand
      have hstage := Shell.openStage_of_command happly hwords
      have hcallee : shell.callee? name later = some (.builtin command) := by rw [Shell.callee?, hcommand]
      refine .of_advance (hopen (Shell.onlyFlow r) (.finding (Shell.onlyStage name args streams) []) later ?_)
        (idle_of_stages_eq_nil rfl) (inevitable_single hcommand hlater ?_)
      · rw [openNext, List.isEmpty_nil, Run.bind_apply, hstage]
        rfl
      · rw [Shell.runFrom_of_command hstage, Shell.start_single hcallee hlater]

end Executor

end Pipeline

namespace Shell

theorem stalled_flushOf (shell : Shell) (words : List String) (world after : World) :
    (shell.flushOf words world after).2.stalled = after.stalled := by
  rw [flushOf]
  cases (Redirection.apply (Invocation.ofWords words) shell.streams world).1 with
  | error failure => rfl
  | ok opened => exact ((World.flush_keeps_stalled _).bind fun _ => World.flush_keeps_stalled _) after

/-- **A stage that is all of a pipeline does what it does by itself**, but for three differences. Both ways go through
the same operations, whatever is logged: only the records differ, the thread on which a built-in command runs, and
that the streams of the command are flushed by the one and not by the other. So let nothing but faults be logged, and
let the redirections fail to open, or let the stage have no command, call a built-in command that cannot tell its
thread and does not break off, or start a program. Then both ways give the same status, unless both wait for ever, and
leave the same world once the streams of the command are flushed; if nothing is buffered, they leave the same world
right away. And unless a program is started, whichever thread of the pipeline goes on when makes no difference. -/
theorem runSingle_agrees {shell : Shell} {words : List String} {world : World} (hthere : world.isGone = false) :
    let single := shell.runSingle words world
    let piped := Pipeline.run shell [words] world
    (single = Way.alone.run shell words world ∧ returned piped = Way.piped.run shell words world) ∧
      (world.IsQuiet → shell.Comes words world →
        single.1 = .returned piped.1 ∧ single.2.stalled = piped.2.stalled ∧
          single.2.Alike (shell.flushOf words world piped.2).2 ∧
          (piped.2.IsUnbuffered → single.2.Alike piped.2)) ∧
      ((∀ name ∈ (Invocation.ofWords words).words.head?, (shell.commands.get? name).isSome) →
        ∀ division, Pipeline.Executor.Inevitable (Pipeline.Executor.Step shell division)
          (Pipeline.Executor.Ends shell division piped) (Pipeline.Executor.start [words] world)) := by
  intro single piped
  have hsingle : single = Way.alone.run shell words world := congrFun (runSingle_eq shell words) world
  have hpiped : returned piped = Way.piped.run shell words world := run_eq hthere
  refine ⟨⟨hsingle, hpiped⟩, fun hquiet hcomes => ?_, fun hbuiltin division =>
    Pipeline.Executor.inevitable_run hthere hbuiltin⟩
  obtain ⟨status, halone, htogether, halike⟩ := agrees_flushed hquiet hcomes
  rw [← hsingle, ← hpiped] at halike
  rw [← hpiped] at htogether
  have hstatus : Conclusion.returned piped.1 = .returned status := htogether
  refine ⟨(hsingle ▸ halone).trans hstatus.symm, ?_, halike, fun hunbuffered => flushOf_unbuffered hunbuffered ▸ halike⟩
  obtain ⟨thread, threads, hworld⟩ := halike
  exact (congrArg World.stalled hworld).symm.trans (stalled_flushOf shell words world piped.2)

/-- A stage whose output is redirected to a new file. -/
theorem runSingle_agrees_echo :
    let shell : Shell := { streams := { stdin := 0, stdout := 0, stderr := 1 } }
    let words := ["echo", "a", ">", "f"]
    let world : World := { sources := #[.memory []], sinks := #[.memory [] none, .memory [] none] }
    let single := shell.runSingle words world
    let piped := Pipeline.run shell [words] world
    world.isGone = false ∧ world.IsQuiet ∧ shell.Comes words world ∧
      single.1 = .returned piped.1 ∧ single.2.Alike piped.2 ∧
      Pipeline.Executor.Inevitable (Pipeline.Executor.Step shell (.whole shell))
        (Pipeline.Executor.Ends shell (.whole shell) piped) (Pipeline.Executor.start [words] world) ∧
      (piped.2.files.read FileSystem.root "f").toOption = some (Text.encode "a\n") := by
  intro shell words world single piped
  have hoblivious : shell.IsOblivious := isOblivious_defaults rfl
  have hcomes : shell.Comes words world :=
    .builtin rfl rfl rfl (hoblivious "echo" _ rfl _ _) (by decide +kernel)
  have hquiet : world.IsQuiet := World.isQuiet_of_none rfl
  have hthere : world.isGone = false := by decide +kernel
  obtain ⟨-, hagrees, hinevitable⟩ := @runSingle_agrees shell words world hthere
  obtain ⟨hstatus, -, -, halike⟩ := hagrees hquiet hcomes
  have hsinks : piped.2.sinks = #[.memory [] none, .memory [] none, .opened 0 false] := by decide +kernel
  have hunbuffered : piped.2.IsUnbuffered := by
    intro id file buffer
    rw [hsinks]
    rcases id with _ | _ | _ | id <;> simp
  exact ⟨by decide +kernel, hquiet, hcomes, hstatus, halike hunbuffered, hinevitable (by decide +kernel) _,
    by decide +kernel⟩

/-- What a stage has written may stay in the buffer of a stream. -/
theorem differs_in_buffer :
    let shell : Shell := { streams := Launch.streams }
    let world : World := ({} : Launch).world {} FileSystem.root []
    (shell.runSingle ["echo", "-n", "hi"] world).2.collected 0 = Text.encode "hi" ∧
      (Pipeline.run shell [["echo", "-n", "hi"]] world).2.collected 0 = [] := by
  decide +kernel

/-- The records of a stage tell how it was run. -/
theorem differs_in_records :
    let shell : Shell := { streams := { stdin := 0, stdout := 0, stderr := 0 } }
    let world : World := { sinks := #[.memory [] none], log := some { level := .debug, sink := 0, time := "" } }
    (shell.runSingle ["echo", "a"] world).2.collected 0 ≠ (Pipeline.run shell [["echo", "a"]] world).2.collected 0 := by
  decide +kernel

/-- A command that can tell its thread does something else in a pipeline. -/
theorem differs_in_thread :
    let tell : Builtin := fun _ _ => do return .returned (← get).thread
    let shell : Shell := { commands := .ofList [("tell", tell)], streams := { stdin := 0, stdout := 0, stderr := 0 } }
    (shell.runSingle ["tell"] {}).1 ≠ .returned (Pipeline.run shell [["tell"]] {}).1 := by
  decide +kernel

/-- A stage by itself and a pipeline of that stage may come to different things: what was written may stay in a buffer,
log records are different, and a command may tell its thread. -/
theorem runSingle_differs :
    let shell : Shell := { streams := Launch.streams }
    let world : World := ({} : Launch).world {} FileSystem.root []
    let joined : Shell := { streams := { stdin := 0, stdout := 0, stderr := 0 } }
    let logged : World := { sinks := #[.memory [] none], log := some { level := .debug, sink := 0, time := "" } }
    let tell : Builtin := fun _ _ => do return .returned (← get).thread
    let teller : Shell := { commands := .ofList [("tell", tell)], streams := { stdin := 0, stdout := 0, stderr := 0 } }
    (shell.runSingle ["echo", "-n", "hi"] world).2.collected 0 = Text.encode "hi" ∧
      (Pipeline.run shell [["echo", "-n", "hi"]] world).2.collected 0 = [] ∧
      (joined.runSingle ["echo", "a"] logged).2.collected 0 ≠
        (Pipeline.run joined [["echo", "a"]] logged).2.collected 0 ∧
      (teller.runSingle ["tell"] {}).1 ≠ .returned (Pipeline.run teller [["tell"]] {}).1 :=
  ⟨differs_in_buffer.1, differs_in_buffer.2, differs_in_records, differs_in_thread⟩

end Shell

end LineShell
