import LineShell.Proofs.Executor
import LineShell.Proofs.InOrder
import LineShell.Samples

/-!
# The threads of a pipeline

The stages of a pipeline of built-in commands run on threads of their own, beside the thread that starts them. All of
them share the world, so in general the outcome would depend on who comes first. Without redirections it does not:
whichever thread goes on whenever, the pipeline ends, and it ends with the status and the world of its commands run
one after the other.

## The model

The threads are those of an `Executor`. `Inevitable` says that every row of their steps leads to an end of some kind,
and never gets stuck before. The main thread goes on beside a running stage, but all it can do until that stage has
ended is to open the redirections of the next one, and there are none. So at most the last stage is running, and each
step leaves what is going to come out as it is.
-/

namespace LineShell

namespace Pipeline

namespace Executor

variable (shell : Shell) (division : Division shell)

/-- The pipeline has returned a status and left a world, and no thread can make a step any more. -/
structure Ends (outcome : Int × World) (e : Executor) : Prop where
  phase : e.phase = .returned outcome.1
  world : e.world = outcome.2
  still : ∀ e', ¬ Step shell division e e'

/-! ### A stage that is running -/

/-- Do the rest of the work of a thread under its number, and make out its status. -/
def settle (thread : Nat) (work : Work) : Run Int := do
  statusOf (← World.asThread thread work.run)

theorem settle_ended (thread : Nat) (conclusion : Conclusion) :
    settle thread (.ended conclusion) = statusOf conclusion := rfl

/-- A step more or less makes no difference in the end. -/
theorem settle_step (thread : Nat) (act : World → World) (next : World → Work) (world : World) :
    settle thread (.step act next) world =
      settle (act { world with thread }).thread (next { world with thread })
        { act { world with thread } with thread := world.thread } := rfl

/-- The pipeline when the earlier stages have ended and the last one is still running. -/
def beside (e : Executor) (statuses : List Int) (thread : Nat) (work : Work) (world : World) : Executor :=
  { e with world, flow := { e.flow with stages := statuses.map .ended ++ [.ofWork thread work] } }

/-- The pipeline when the stages that were started have ended. -/
def past (e : Executor) (statuses : List Int) (world : World) : Executor :=
  { e with world, flow := { e.flow with stages := statuses.map .ended } }

/-- Nothing is redirected, and no program was started. -/
structure Plain (e : Executor) : Prop where
  /-- No stream needs a worker. -/
  workers : e.flow.workers = []
  /-- The redirections opened nothing. -/
  redirections : ∀ r ∈ e.flow.redirections, r = {}

section

variable {shell division} {e e' : Executor} {statuses : List Int} {thread : Nat} {work : Work} {world : World}

theorem getElem?_ended_append {statuses : List Int} {place : Nat} (hplace : place < statuses.length)
    (stages : List Standing) :
    (statuses.map Standing.ended ++ stages)[place]? = some (.ended statuses[place]) := by
  simp [List.getElem?_append_left, hplace]

theorem getElem?_length_append (statuses : List Int) (standing : Standing) :
    (statuses.map Standing.ended ++ [standing])[statuses.length]? = some standing := by
  simp

/-- Only the last stage can make a step. -/
theorem turn_beside {place : Nat} (h : (e.beside statuses thread work world).turn place = some e') :
    ∃ act next, work = .step act next ∧
      e' = e.beside statuses (act { world with thread }).thread (next { world with thread })
        { act { world with thread } with thread := world.thread } := by
  unfold turn beside at h
  obtain hlt | rfl | hgt := Nat.lt_trichotomy place statuses.length
  · simp [getElem?_ended_append hlt] at h
  · simp only [getElem?_length_append] at h
    cases work with
    | ended conclusion => cases h
    | step act next =>
      refine ⟨act, next, rfl, (Option.some.inj h).symm.trans ?_⟩
      simp [beside, Flow.with]
  · rw [List.getElem?_eq_none (by simpa using Nat.succ_le_of_lt hgt)] at h
    cases h

theorem turn_step (e : Executor) (statuses : List Int) (thread : Nat) (world : World) (act : World → World)
    (next : World → Work) :
    ∃ e', (e.beside statuses thread (.step act next) world).turn statuses.length = some e' :=
  ⟨_, by simp only [turn, beside, getElem?_length_append, Standing.ofWork]; rfl⟩

theorem idle_of_stages_eq_nil (h : e.flow.stages = []) : Idle e.flow := by
  intro standing hmem
  rw [h] at hmem
  exact absurd hmem List.not_mem_nil

theorem idle_past : Idle (e.past statuses world).flow := by
  intro standing hmem
  obtain ⟨status, -, rfl⟩ := List.mem_map.1 hmem
  exact nofun

theorem idle_beside {conclusion : Conclusion} : Idle (e.beside statuses thread (.ended conclusion) world).flow := by
  intro standing hmem
  obtain hmem | hmem := List.mem_append.1 hmem
  · obtain ⟨status, -, rfl⟩ := List.mem_map.1 hmem
    exact nofun
  · obtain rfl := List.mem_singleton.1 hmem
    exact nofun

variable {goal : Executor → Prop}

/-- Where no stage can make a step, the main thread makes the next one. -/
theorem Inevitable.of_advance (hmain : e.advance shell division = some e') (hidle : Idle e.flow)
    (h : Inevitable (Step shell division) goal e') : Inevitable (Step shell division) goal e := by
  refine .later ⟨e', .main hmain⟩ fun e'' hstep => ?_
  cases hstep with
  | main hmain' =>
    obtain rfl := Option.some.inj (hmain.symm.trans hmain')
    exact h
  | stage place hturn => simp [hidle.turn place] at hturn

theorem ends_returned {status : Int} (hphase : e.phase = .returned status) (hidle : Idle e.flow) :
    Ends shell division (status, e.world) e where
  phase := hphase
  world := rfl
  still e' hstep := by
    cases hstep with
    | main hmain => simp [advance, isReady, hphase] at hmain
    | stage place hturn => simp [hidle.turn place] at hturn

/-- Let the main thread be able to go on beside a stage that has done all its work, and let what it does beside a
stage lead to what that stage does on and what follows it. Then so does what the two do, whoever comes first. The
induction is on the work of the stage. -/
theorem inevitable_beside {follow : Int → Run Int} {outcome : Int × World}
    (hprogress : ∀ thread conclusion world,
      ∃ e', (e.beside statuses thread (.ended conclusion) world).advance shell division = some e')
    (hmain : ∀ thread work world e', (settle thread work >>= follow) world = outcome →
      (e.beside statuses thread work world).advance shell division = some e' →
      Inevitable (Step shell division) (Ends shell division outcome) e')
    (houtcome : (settle thread work >>= follow) world = outcome) :
    Inevitable (Step shell division) (Ends shell division outcome) (e.beside statuses thread work world) := by
  induction work generalizing thread world with
  | ended conclusion =>
    obtain ⟨e', hadvance⟩ := hprogress thread conclusion world
    refine .later ⟨e', .main hadvance⟩ fun e'' hstep => ?_
    cases hstep with
    | main hadvance' => exact hmain _ _ _ _ houtcome hadvance'
    | stage place hturn =>
      obtain ⟨act, next, hwork, -⟩ := turn_beside hturn
      cases hwork
  | step act next ih =>
    obtain ⟨e', hturn⟩ := turn_step e statuses thread world act next
    refine .later ⟨e', .stage _ hturn⟩ fun e'' hstep => ?_
    cases hstep with
    | main hadvance => exact hmain _ _ _ _ houtcome hadvance
    | stage place hturn' =>
      obtain ⟨act', next', hwork, rfl⟩ := turn_beside hturn'
      obtain ⟨rfl, rfl⟩ := Work.step.inj hwork
      rw [Run.bind_apply, settle_step] at houtcome
      exact ih _ houtcome

/-- What the main thread does beside a stage whose work does not matter to it. -/
theorem inevitable_beside_of_advance {follow : Int → Run Int} {outcome : Int × World}
    {f : Nat → Work → World → Executor}
    (hadvance : ∀ thread work world, (e.beside statuses thread work world).advance shell division =
    some (f thread work world)) (hmain : ∀ thread work world, (settle thread work >>= follow) world = outcome →
      Inevitable (Step shell division) (Ends shell division outcome) (f thread work world))
    (houtcome : (settle thread work >>= follow) world = outcome) :
    Inevitable (Step shell division) (Ends shell division outcome) (e.beside statuses thread work world) := by
  refine inevitable_beside (fun thread conclusion world => ⟨_, hadvance thread _ world⟩) ?_ houtcome
  intro thread work world e' houtcome hadvance'
  obtain rfl := Option.some.inj ((hadvance thread work world).symm.trans hadvance')
  exact hmain thread work world houtcome

/-! ### What the main thread does -/

variable {name : String} {command : Builtin} {args : List String} {stages : List (List String)} {calls : List Call}

/-- What follows a stage: the calls after it, the first of which reads what it has written. -/
def follow (shell : Shell) (index sink : Nat) (calls : List Call) (status : Int) : Run Int :=
  shell.follow index sink calls status >>= closing

theorem follow_nil (index sink : Nat) : follow shell index sink [] = closing := rfl

theorem follow_cons (index sink : Nat) (call : Call) (calls : List Call) :
    follow shell index sink (call :: calls) = fun _ => shell.inOrder index (call :: calls) (some sink) >>= closing :=
  rfl

/-- A main thread that has waited for all stages returns. -/
theorem inevitable_joined {outcome : Int × World} {place : Nat} {status : Int}
    (hphase : e.phase = .joining place status)
    (hplace : e.flow.stages.length ≤ place) (hworkers : e.flow.workers = []) (hidle : Idle e.flow)
    (houtcome : e.flow.close status e.world = outcome) :
    Inevitable (Step shell division) (Ends shell division outcome) e := by
  have hnone : e.flow.stages[place]? = none := List.getElem?_eq_none hplace
  have hjoin : e.advance shell division = some { e with phase := .collecting [] status } := by
    simp only [advance, isReady, hphase, hnone, Option.all_none, action, join, after, if_true, hworkers]
    rfl
  let returned : Executor := { e with world := (e.flow.close status e.world).2, phase := .returned status }
  have hclose : ({ e with phase := .collecting [] status } : Executor).advance shell division = some returned := rfl
  have hreturned : Ends shell division (e.flow.close status e.world) returned := ends_returned (e := returned) rfl hidle
  exact .of_advance hjoin hidle (.of_advance hclose hidle (.here (houtcome ▸ hreturned)))

/-- A main thread that waits for all stages comes to the status of the last one. The induction is on how many
stages it has yet to wait for before that one. -/
theorem inevitable_joining {outcome : Int × World} {left place : Nat} {status : Int}
    (hplace : place + left = statuses.length) (hphase : e.phase = .joining place status)
    (hworkers : e.flow.workers = []) (houtcome : (settle thread work >>= e.flow.close) world = outcome) :
    Inevitable (Step shell division) (Ends shell division outcome) (e.beside statuses thread work world) := by
  induction left generalizing e place status thread work world with
  | zero =>
    obtain rfl : place = statuses.length := hplace
    have hjoin (thread : Nat) (conclusion : Conclusion) (world : World) :
        (e.beside statuses thread (.ended conclusion) world).advance shell division =
          some ({ e with phase := .joining (statuses.length + 1) (statusOf conclusion world).1 }.beside statuses
            thread (.ended conclusion) (statusOf conclusion world).2) := by
      simp only [advance, isReady, beside, hphase, action, join, getElem?_length_append]
      rfl
    refine inevitable_beside (fun thread conclusion world => ⟨_, hjoin thread conclusion world⟩) ?_ houtcome
    intro thread work world e' houtcome hadvance
    cases work with
    | step act next =>
      simp [advance, isReady, beside, hphase, Standing.ofWork, Standing.isOver] at hadvance
    | ended conclusion =>
      obtain rfl := Option.some.inj ((hjoin thread conclusion world).symm.trans hadvance)
      exact inevitable_joined rfl (by simp [beside]) hworkers idle_beside houtcome
  | succ left ih =>
    have hlt : place < statuses.length := by omega
    have hleft : place + 1 + left = statuses.length := by omega
    refine inevitable_beside_of_advance (f := fun thread work world =>
      { e with phase := .joining (place + 1) statuses[place] }.beside statuses thread work world)
      (fun thread work world => ?_)
      (fun thread work world => ih (e := { e with phase := .joining (place + 1) statuses[place] }) hleft rfl
        hworkers) houtcome
    simp only [advance, isReady, beside, hphase, action, join, getElem?_ended_append hlt]
    rfl

/-- A main thread that has started the last stage. -/
theorem inevitable_finishing {outcome : Int × World} (hphase : e.phase = .opening []) (hworkers : e.flow.workers = [])
    (houtcome : (settle thread work >>= e.flow.close) world = outcome) :
    Inevitable (Step shell division) (Ends shell division outcome) (e.beside statuses thread work world) := by
  refine inevitable_beside_of_advance (f := fun thread work world =>
    { e with phase := .joining 0 0 }.beside statuses thread work world) (fun thread work world => ?_)
    (fun thread work world => inevitable_joining (e := { e with phase := .joining 0 0 }) (Nat.zero_add _) rfl
      hworkers) houtcome
  simp only [advance, isReady, beside, hphase, action]
  rfl

variable (division) in
/-- What a stage that is started leads to is what its call and the later ones do in order. -/
theorem inOrder_eq_settle (hcommand : shell.commands.get? name = some command) (hthere : world.isGone = false)
    (index : Nat) (written : Option Nat) :
    (shell.inOrder index ({ name, command, args } :: calls) written >>= closing) world = (do
      let supply ← Supply.of written
      let streams ← (Stage.plain shell index (! calls.isEmpty) name args).builtinStreams supply
      let thread ← World.newThread
      settle thread (division.work name args (shell.context streams)) >>=
        follow shell (index + 1) streams.stdout calls) world := by
  have hfollow (sink : Nat) : follow shell (index + 1) sink calls =
      fun status => shell.follow (index + 1) sink calls status >>= closing := rfl
  rw [Run.bind_congr (Shell.inOrder_eq_builtinStreams hthere ..)]
  simp only [settle, division.run_work hcommand, hfollow, bind_assoc]

variable (shell division) in
/-- Whatever stage is running, to open some stages then leads to what it does on, followed by some calls. -/
def OpensInto (stages : List (List String)) (calls : List Call) : Prop :=
  ∀ (e : Executor) (statuses : List Int) (thread : Nat) (work : Work) (world : World) (sink : Nat)
    (outcome : Int × World), e.phase = .opening stages →
    (stages ≠ [] → e.flow.supply = .captured statuses.length sink) → e.Plain →
    (settle thread work >>= follow shell (statuses.length + 1) sink calls) world = outcome →
    Inevitable (Step shell division) (Ends shell division outcome) (e.beside statuses thread work world)

/-- A main thread that starts a stage when all earlier ones have ended. -/
theorem inevitable_launching {outcome : Int × World} {index : Nat} (hchain : shell.Chain stages calls)
    (hopening : OpensInto shell division stages calls) (hindex : index = statuses.length)
    (hphase : e.phase = .launching (.plain shell index (! stages.isEmpty) name args) (.builtin command) stages)
    (hplain : e.Plain) (hthere : world.isGone = false)
    (houtcome : (do
      let streams ← (Stage.plain shell index (! calls.isEmpty) name args).builtinStreams e.flow.supply
      let thread ← World.newThread
      settle thread (division.work name args (shell.context streams)) >>=
        follow shell (index + 1) streams.stdout calls) world = outcome) :
    Inevitable (Step shell division) (Ends shell division outcome) (e.past statuses world) := by
  subst hindex
  rw [← isEmpty_of_chain hchain, Run.bind_apply] at houtcome
  cases hstreams : (Stage.plain shell statuses.length (! stages.isEmpty) name args).builtinStreams e.flow.supply world
    with | mk streams ready
  rw [hstreams, Run.bind_apply] at houtcome
  let launched : Executor := { e with
    flow := { e.flow with supply := if ! stages.isEmpty then .captured statuses.length streams.stdout else .nothing }
    phase := .opening stages }
  have hadvance : (e.past statuses world).advance shell division =
      some (launched.beside statuses (World.newThread ready).1 (division.work name args (shell.context streams))
        (World.newThread ready).2) := by
    simp only [advance, isReady, past, hphase, action, after, if_true, unlessGone_of_there hthere, launch,
      Run.bind_apply, hstreams]
    rfl
  refine .of_advance hadvance idle_past (hopening _ _ _ _ _ _ _ rfl (fun hne => ?_) ?_ houtcome)
  · simp [launched, hne]
  · exact ⟨hplain.workers, hplain.redirections⟩

section

variable {conclusion : Conclusion} {sink : Nat} {stage : Stage}

/-- What a main thread fetches for a stage when the last one has ended. -/
theorem after_fetching (hphase : e.phase = .fetching stage (.builtin command) stages)
    (hsupply : e.flow.supply = .captured statuses.length sink) (hplain : e.Plain) (hthere : world.isGone = false) :
    let waiting := e.beside statuses thread (.ended conclusion) world
    let (supply, ready) := Supply.of (some sink) (statusOf conclusion world).2
    waiting.after (action shell division waiting.flow waiting.phase) =
      ({ e with flow := { e.flow with supply }, phase := .launching stage (.builtin command) stages } : Executor).past
        (statuses ++ [conclusion.status]) ready := by
  intro waiting
  have hfetch : waiting.flow.fetch = _ := Flow.Plain.fetch ⟨rfl, hplain.workers, hplain.redirections⟩ hsupply
  have haction : action shell division waiting.flow waiting.phase =
      unlessGone waiting.flow (fetch stage (.builtin command) stages waiting.flow) :=
    congrArg (action shell division waiting.flow) hphase
  rw [haction, after, show waiting.world = world from rfl, unlessGone_of_there hthere, fetch, hfetch, bind_assoc,
    Run.bind_apply, statusOf_eq]
  rfl

/-- A shell that is gone fetches nothing. -/
theorem after_fetching_of_isGone (hphase : e.phase = .fetching stage (.builtin command) stages)
    (hgone : world.isGone = true) :
    let waiting := e.beside statuses thread (.ended conclusion) world
    waiting.after (action shell division waiting.flow waiting.phase) =
      { waiting with phase := .returned Status.failure } := by
  intro waiting
  have haction : action shell division waiting.flow waiting.phase =
      unlessGone waiting.flow (fetch stage (.builtin command) stages waiting.flow) :=
    congrArg (action shell division waiting.flow) hphase
  rw [haction, after, show waiting.world = world from rfl, unlessGone_of_isGone hgone]

end

/-- A main thread that waits for the last stage, which is still running, to start the next one. -/
theorem inevitable_fetching {outcome : Int × World} {sink : Nat} (hcommand : shell.commands.get? name = some command)
    (hchain : shell.Chain stages calls) (hopening : OpensInto shell division stages calls)
    (hphase : e.phase =
      .fetching (.plain shell (statuses.length + 1) (! stages.isEmpty) name args) (.builtin command) stages)
    (hsupply : e.flow.supply = .captured statuses.length sink) (hplain : e.Plain)
    (houtcome : (settle thread work >>=
      follow shell (statuses.length + 1) sink ({ name, command, args } :: calls)) world = outcome) :
    Inevitable (Step shell division) (Ends shell division outcome) (e.beside statuses thread work world) := by
  have hready (thread : Nat) (conclusion : Conclusion) (world : World) :
      (e.beside statuses thread (.ended conclusion) world).isReady = true := by
    simp [isReady, beside, hphase, Flow.isSettled, hsupply, Standing.ofWork]
  refine inevitable_beside (fun thread conclusion world => ⟨_, if_pos (hready thread conclusion world)⟩) ?_ houtcome
  intro thread work world e' houtcome hadvance
  cases work with
  | step act next =>
    simp [advance, isReady, beside, hphase, Flow.isSettled, hsupply, Standing.ofWork] at hadvance
  | ended conclusion =>
    obtain rfl := Option.some.inj ((if_pos (hready thread conclusion world)).symm.trans hadvance)
    have houtcome : (shell.inOrder (statuses.length + 1) ({ name, command, args } :: calls) (some sink) >>= closing)
        (statusOf conclusion world).2 = outcome := houtcome
    cases hgone : world.isGone with
    | true =>
      rw [statusOf_of_isGone hgone, Run.bind_apply, Shell.inOrder_of_isGone hgone, closing_of_isGone hgone] at houtcome
      rw [after_fetching_of_isGone hphase hgone, ← houtcome]
      let waiting := e.beside statuses thread (.ended conclusion) world
      have hidle : Idle waiting.flow := idle_beside
      exact .here (ends_returned (e := { waiting with phase := .returned Status.failure }) rfl hidle)
    | false =>
      have hthere : (statusOf conclusion world).2.isGone = false := (statusOf_keeps_isGone _ _).trans hgone
      have hsupplied : (Supply.of (some sink) (statusOf conclusion world).2).2.isGone = false :=
        (World.takeCollected_keeps_isGone _ _).trans hthere
      rw [inOrder_eq_settle division hcommand hthere, Run.bind_apply] at houtcome
      rw [after_fetching hphase hsupply hplain hgone]
      exact inevitable_launching hchain hopening (by simp) rfl ⟨hplain.workers, hplain.redirections⟩ hsupplied houtcome

/-- To open stages leads to what their calls do in order. The induction is on the stages. -/
theorem opensInto_of_chain (hchain : shell.Chain stages calls) : OpensInto shell division stages calls := by
  induction hchain with
  | nil =>
    intro e statuses thread work world sink outcome hphase _ hplain houtcome
    rw [follow_nil, ← funext (close_plain e.flow hplain.redirections)] at houtcome
    exact inevitable_finishing hphase hplain.workers houtcome
  | @cons name command args stages calls hcommand hwords hrest ih =>
    intro e statuses thread work world sink outcome hphase hsupply hplain houtcome
    let stage := Stage.plain shell (statuses.length + 1) (! stages.isEmpty) name args
    have hopened : ({ e with flow := e.flow.opened } : Executor).Plain :=
      ⟨hplain.workers, List.forall_mem_append.2 ⟨hplain.redirections, fun _ => List.mem_singleton.1⟩⟩
    -- The next stage is opened and found beside the last one, and then has to wait for it.
    refine inevitable_beside_of_advance (f := fun thread work world =>
      { e with flow := e.flow.opened, phase := .finding stage stages }.beside statuses thread work world)
      (fun thread work world => ?_) (fun thread work world houtcome => ?_) houtcome
    · simp only [advance, isReady, beside, hphase, action, openNext, openStage_plain hwords]
      simp [after, Flow.opened, stage]
      rfl
    · refine inevitable_beside_of_advance (f := fun thread work world =>
        { e with flow := e.flow.opened, phase := .fetching stage (.builtin command) stages }.beside statuses thread
          work world) (fun thread work world => ?_) (fun thread work world houtcome => ?_) houtcome
      · simp only [advance, isReady, beside, action, look, after, if_true, Run.get_bind, stage, find?_plain hcommand]
        rfl
      · exact inevitable_fetching hcommand hrest ih rfl (hsupply (List.cons_ne_nil _ _))
          ⟨hopened.workers, hopened.redirections⟩ houtcome

/-- A main thread that opens the first stage. -/
theorem inevitable_first {outcome : Int × World} (hcommand : shell.commands.get? name = some command)
    (hwords : ∀ w ∈ name :: args, Operator.ofWord? w = none) (hrest : shell.Chain stages calls) (world : World)
    (houtcome : (shell.inOrder 0 ({ name, command, args } :: calls) none >>= closing) world = outcome) :
    Inevitable (Step shell division) (Ends shell division outcome)
      { world, phase := .opening ((name :: args) :: stages) } := by
  let stage := Stage.plain shell 0 (! stages.isEmpty) name args
  let opened (phase : Phase) : Executor := { world, flow := Flow.opened {}, phase }
  have hidle (phase : Phase) : Idle (opened phase).flow := idle_of_stages_eq_nil rfl
  have hopen : ({ world, phase := .opening ((name :: args) :: stages) } : Executor).advance shell division =
      some (opened (.finding stage stages)) := by
    simp only [advance, isReady, after, action, openNext, openStage_plain hwords]
    rfl
  have hfind : (opened (.finding stage stages)).advance shell division =
      some (opened (.fetching stage (.builtin command) stages)) := by
    simp only [advance, isReady, opened, action, look, after, if_true, Run.get_bind, stage, find?_plain hcommand]
    rfl
  have hfetch : (opened (.fetching stage (.builtin command) stages)).advance shell division =
      some ((opened (.fetching stage (.builtin command) stages)).after
        (unlessGone (Flow.opened {}) (fetch stage (.builtin command) stages (Flow.opened {})))) := rfl
  refine .of_advance hopen (idle_of_stages_eq_nil rfl) (.of_advance hfind (hidle _) ?_)
  cases hgone : world.isGone with
  | true =>
    rw [after, unlessGone_of_isGone hgone] at hfetch
    rw [Run.bind_apply, Shell.inOrder_of_isGone hgone, closing_of_isGone hgone] at houtcome
    subst houtcome
    exact .of_advance hfetch (hidle _) (.here (ends_returned (e := opened (.returned Status.failure)) rfl (hidle _)))
  | false =>
    rw [after, unlessGone_of_there hgone] at hfetch
    rw [inOrder_eq_settle division hcommand hgone] at houtcome
    have hplain : (opened (.launching stage (.builtin command) stages)).Plain := ⟨rfl, fun _ => List.mem_singleton.1⟩
    have hindex : 0 = ([] : List Int).length := rfl
    exact .of_advance hfetch (hidle _)
      (inevitable_launching hrest (opensInto_of_chain hrest) hindex rfl hplain hgone houtcome)

end

end Executor

end Pipeline

end LineShell
