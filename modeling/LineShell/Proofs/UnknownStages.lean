import LineShell.Proofs.Executions
import LineShell.Proofs.GivingUp
import LineShell.Proofs.InOrder
import LineShell.Proofs.StreamContents

/-!
# Pipelines with an unknown name

A stage whose name stands for nothing stops its pipeline. It says so in one line, to where its messages go, and
everything is given up: what the stages after it are makes no difference to anything, built-in commands before it run to
their ends, and standard output gets nothing, as long as it has its file to itself.

## The model

Whichever threads and processes go on when, an `Executor` looks up the name of a stage in some state. If it stands for
nothing there, the next thing that the main thread does leads to `Executor.abandoned`, where nothing is left of the stages
that were to come. `Executor.Located` says which stage the main thread is at; `Executor.rerouted` is a state with other
stages to come, and up to the look-up the same steps lead through such states (`reaches_rerouted`).
-/

namespace LineShell

open Script (Schedule Seal)

namespace Pipeline

/-! ### Which stage it is -/

/-- The stage is the one at its place. -/
structure Stage.OfWords (stages : List (List String)) (stage : Stage) (words : List String) : Prop where
  /-- The stage has these words. -/
  there : stages[stage.index]? = some words
  /-- They call its command. -/
  command : (Invocation.ofWords words).words = stage.name :: stage.args
  /-- It feeds the next stage, if there is one and nothing else is to take what it writes. -/
  feedsNext : stage.feedsNext = (! (stages.drop (stage.index + 1)).isEmpty && (Invocation.ofWords words).stdout.isNone)

namespace Executor

variable {shell : Shell} {division : Division shell} {e e' : Executor} {stages : List (List String)}

/-- The main thread is busy with the stage that comes after those that were started. -/
def AtStage (stages : List (List String)) (flow : Flow) (stage : Stage) (rest : List (List String)) : Prop :=
  stage.index = flow.stages.length ∧ rest = stages.drop (stage.index + 1) ∧ ∃ words, stage.OfWords stages words

/-- The main thread is where it should be. -/
def Located (stages : List (List String)) (flow : Flow) : Phase → Prop
  | .opening rest => rest = stages.drop flow.stages.length
  | .finding stage rest | .fetching stage _ rest | .draining stage _ _ rest | .launching stage _ rest =>
    AtStage stages flow stage rest
  | .joining .. | .collecting .. | .stopping _ | .ending _ | .leaving _ | .returned _ => True

section

variable {flow : Flow} {stage : Stage} {callee : Callee} {words : List String} {rest : List (List String)}

/-- What an operation of the main thread leads to is where it should be. -/
abbrev Locates (stages : List (List String)) (op : Run (Flow × Phase)) : Prop :=
  op.Yields fun next => Located stages next.1 next.2

theorem AtStage.of_length (h : AtStage stages flow stage rest) {flow' : Flow}
    (hlength : flow'.stages.length = flow.stages.length) : AtStage stages flow' stage rest :=
  ⟨h.1.trans hlength.symm, h.2⟩

/-- What comes of opening a stage: it has ended, or it waits to be started. -/
def Opened (flow : Flow) (isLast : Bool) (words : List String) : Flow × Option Stage → Prop
  | (next, none) => next.stages.length = flow.stages.length + 1
  | (next, some stage) => next.stages.length = flow.stages.length ∧ stage.index = flow.stages.length ∧
    (Invocation.ofWords words).words = stage.name :: stage.args ∧
    stage.feedsNext = (! isLast && (Invocation.ofWords words).stdout.isNone)

theorem opened_openStage (isLast : Bool) (words : List String) :
    (openStage shell isLast words flow).Yields (Opened flow isLast words) := by
  have hskip (flow' : Flow) (hstages : flow'.stages = flow.stages) (status : Int) :
      (do return (← flow'.skip status, none)).Yields (Opened flow isLast words) := by
    intro world
    change (flow'.stages ++ [_]).length = _
    rw [hstages, List.length_append, List.length_singleton]
  refine .after fun result => ?_
  split
  · exact .after fun _ => hskip flow rfl _
  · split
    · exact hskip _ rfl _
    · next name args hcommand => exact .pure ⟨rfl, rfl, hcommand, rfl⟩

theorem length_launch : (launch shell division stage callee rest flow).Yields fun next =>
    next.2 = .opening rest ∧ next.1.stages.length = flow.stages.length + 1 := by
  have hnext (standing : Standing) : (flow.stages ++ [standing]).length = flow.stages.length + 1 := List.length_append
  cases callee with
  | builtin command => exact .after fun streams => .after fun thread => .pure ⟨rfl, hnext _⟩
  | program path =>
    have hprogram : (stage.runProgram shell path flow).Yields fun next =>
        next.stages.length = flow.stages.length + 1 := by
      refine .after fun _ => .after fun world => ?_
      split
      · exact .after fun _ => .after fun _ => .after fun _ => .pure (hnext _)
      · exact .after fun _ => .after fun _ => .after fun _ => .after fun _ => .after fun pid => .after fun _ =>
          .pure (hnext (.running pid))
    exact hprogram.bind fun _ h => .pure ⟨rfl, h⟩

theorem locates_openNext (hrest : words :: rest = stages.drop flow.stages.length) :
    Locates stages (openNext shell words rest flow) := by
  have hwords : stages[flow.stages.length]? = some words := by
    rw [← List.head?_drop, ← hrest, List.head?_cons]
  have hdrop : rest = stages.drop (flow.stages.length + 1) := by
    rw [← List.drop_drop, ← hrest, List.drop_one, List.tail_cons]
  refine (opened_openStage _ _).bind fun opened hopened => ?_
  obtain ⟨next, stage?⟩ := opened
  cases stage? with
  | none => exact .pure (hopened.symm ▸ hdrop :)
  | some stage =>
    obtain ⟨hlength, hindex, hcommand, hfeeds⟩ := hopened
    exact .pure ⟨hindex.trans hlength.symm, hindex ▸ hdrop, words, hindex ▸ hwords, hcommand, by rw [hfeeds, hindex, hdrop]⟩

theorem locates_fetch (h : AtStage stages flow stage rest) : Locates stages (fetch stage callee rest flow) := by
  have hlength : flow.fetch.Yields fun fetched => fetched.stages.length = flow.stages.length := by
    intro world
    cases Changes.fetch (P := fun _ => False) trivial world with
    | same hstages => rw [hstages]
    | started hnone => exact hnone.elim
    | settled _ _ _ _ _ _ hstages => rw [hstages, List.length_set]
  refine hlength.bind fun fetched hfetched => ?_
  split
  · exact .after fun _ => .pure (h.of_length hfetched)
  · exact .pure (h.of_length hfetched)

theorem locates_launch (h : AtStage stages flow stage rest) :
    Locates stages (launch shell division stage callee rest flow) := by
  intro world
  obtain ⟨hphase, hlength⟩ : (launch shell division stage callee rest flow world).1.2 = .opening rest ∧
      (launch shell division stage callee rest flow world).1.1.stages.length = flow.stages.length + 1 :=
    length_launch world
  rw [hphase, Located, hlength, ← h.1]
  exact h.2.1

theorem locates_unlessGone {next : Run (Flow × Phase)} (h : Locates stages next) :
    Locates stages (unlessGone flow next) := by
  refine .after fun world => ?_
  split
  · exact .pure trivial
  · exact h

theorem locates_action {phase : Phase} (h : Located stages flow phase) :
    Locates stages (action shell division flow phase) := by
  have hthen {op : Run Unit} {next : Phase} (hnext : Located stages flow next) :
      Locates stages (do op; return (flow, next)) := .after fun _ => .pure hnext
  cases phase with
  | opening rest =>
    cases rest with
    | nil => exact .pure trivial
    | cons words rest => exact locates_openNext h
  | finding stage rest =>
    refine .after fun world => ?_
    split
    · exact .after fun _ => hthen trivial
    · exact .pure h
  | fetching stage callee rest => exact locates_unlessGone (locates_fetch h)
  | draining stage callee file rest => exact .after fun _ => .pure h
  | launching stage callee rest => exact locates_unlessGone (locates_launch h)
  | joining place status =>
    rw [action, join]
    cases flow.stages[place]? with
    | none => exact .pure trivial
    | some standing => exact .after fun _ => .pure trivial
  | collecting workers status =>
    cases workers with
    | nil => exact .after fun _ => .pure trivial
    | cons worker workers => exact hthen trivial
  | stopping place =>
    rw [action, stop]
    cases flow.stages[place]? with
    | none => exact .pure trivial
    | some standing => exact hthen trivial
  | ending place =>
    rw [action, quit]
    cases flow.stages[place]? with
    | none => exact .pure trivial
    | some standing => exact hthen trivial
  | leaving workers =>
    cases workers with
    | nil => exact hthen trivial
    | cons worker workers => exact hthen trivial
  | returned status => exact .pure trivial

end

/-- Without a log it is not told how many stages there are. -/
theorem world_start {world : World} (h : world.log = none) (stages : List (List String)) :
    (start stages world).world = world := by
  rw [start, World.note, Run.get_bind, h]
  rfl

theorem located_with {flow : Flow} {phase : Phase} (h : Located stages flow phase) (place : Nat) (standing : Standing) :
    Located stages (flow.with place standing) phase := by
  have hlength : (flow.with place standing).stages.length = flow.stages.length := List.length_set
  cases phase with
  | opening rest => exact h.trans (by rw [hlength])
  | finding | fetching | draining | launching => exact AtStage.of_length h hlength
  | joining | collecting | stopping | ending | leaving | returned => trivial

/-- The main thread is always where it should be. -/
theorem located_of_reaches {world : World} (h : Reaches shell division (start stages world) e) :
    Located stages e.flow e.phase := by
  induction h with
  | refl => exact rfl
  | tail _ hmove ih =>
    cases hmove with
    | process hpasses => exact ih
    | thread hstep =>
      cases hstep with
      | main hmain =>
        unfold advance at hmain
        split at hmain
        · obtain rfl := Option.some.inj hmain
          exact locates_action ih _
        · cases hmain
      | stage place hturn =>
        unfold turn at hturn
        split at hturn
        · obtain rfl := Option.some.inj hturn
          exact located_with ih _ _
        · cases hturn

/-! ### Other stages to come -/

end Executor

/-- The stage, with others to come. -/
def Stage.among (stage : Stage) (others : List (List String)) : Stage :=
  { stage with feedsNext := ! (others.drop (stage.index + 1)).isEmpty &&
      (Invocation.ofWords (others[stage.index]?.getD [])).stdout.isNone }

/-- The phase, with others to come after so many stages. -/
def Phase.rerouted (others : List (List String)) (place : Nat) : Phase → Phase
  | .opening _ => .opening (others.drop place)
  | .finding stage _ => .finding (stage.among others) (others.drop (stage.index + 1))
  | .fetching stage callee _ => .fetching (stage.among others) callee (others.drop (stage.index + 1))
  | .draining stage callee file _ => .draining (stage.among others) callee file (others.drop (stage.index + 1))
  | .launching stage callee _ => .launching (stage.among others) callee (others.drop (stage.index + 1))
  | phase => phase

namespace Executor

/-- The state, with others to come. -/
def rerouted (others : List (List String)) (e : Executor) : Executor :=
  { e with phase := e.phase.rerouted others e.flow.stages.length }

/-- Where to go on with others to come. -/
def reroute (others : List (List String)) (next : Flow × Phase) : Flow × Phase :=
  (next.1, next.2.rerouted others next.1.stages.length)

variable {shell : Shell} {division : Division shell} {e e' : Executor} {stages others : List (List String)} {last : Nat}

theorem openStage_eq (isLast isLast' : Bool) (words : List String) (flow : Flow) (world : World) :
    openStage shell isLast words flow world =
      (let ((next, stage?), later) := openStage shell isLast' words flow world
       ((next, stage?.map fun stage =>
          { stage with feedsNext := ! isLast && (Invocation.ofWords words).stdout.isNone }), later)) := by
  simp only [openStage, Run.bind_apply]
  cases Redirection.apply (Invocation.ofWords words) shell.streams world with | mk result opened
  cases result with
  | error failure => rfl
  | ok derived => cases (Invocation.ofWords words).words <;> rfl

section

variable {flow : Flow} {stage : Stage} {callee : Callee} {words : List String} {rest : List (List String)}
  {world : World}

theorem openNext_rerouted (hwords : others[flow.stages.length]? = some words) :
    openNext shell words (others.drop (flow.stages.length + 1)) flow world =
      (reroute others (openNext shell words rest flow world).1, (openNext shell words rest flow world).2) := by
  have hopened : Opened flow rest.isEmpty words (openStage shell rest.isEmpty words flow world).1 :=
    opened_openStage rest.isEmpty words world
  simp only [openNext, Run.bind_apply]
  rw [openStage_eq _ rest.isEmpty]
  cases hopen : openStage shell rest.isEmpty words flow world with | mk opened later
  obtain ⟨next, stage?⟩ := opened
  rw [hopen] at hopened
  cases stage? with
  | none =>
    change _ = ((next, Phase.opening (others.drop next.stages.length)), later)
    rw [show next.stages.length = flow.stages.length + 1 from hopened]
    rfl
  | some stage =>
    obtain ⟨index, feedsNext, name, args, streams⟩ := stage
    obtain ⟨-, rfl, -, -⟩ := hopened
    change _ = ((next, Phase.finding (Stage.among _ others) (others.drop (flow.stages.length + 1))), later)
    rw [Stage.among, hwords]
    rfl

theorem look_rerouted (hfind : stage.find? shell world = some callee) :
    look shell (stage.among others) (others.drop (stage.index + 1)) flow world =
      (reroute others (look shell stage rest flow world).1, (look shell stage rest flow world).2) := by
  have hfind' : (stage.among others).find? shell world = some callee := hfind
  simp only [look, Run.get_bind, hfind, hfind']
  rfl

theorem unlessGone_rerouted {next next' : Run (Flow × Phase)}
    (h : next' world = (reroute others (next world).1, (next world).2)) :
    unlessGone flow next' world = (reroute others (unlessGone flow next world).1, (unlessGone flow next world).2) := by
  cases hgone : world.isGone with
  | true =>
    rw [unlessGone_of_isGone hgone, unlessGone_of_isGone hgone]
    rfl
  | false => rw [unlessGone_of_there hgone, unlessGone_of_there hgone, h]

theorem fetch_rerouted :
    fetch (stage.among others) callee (others.drop (stage.index + 1)) flow world =
      (reroute others (fetch stage callee rest flow world).1, (fetch stage callee rest flow world).2) := by
  simp only [fetch, Run.bind_apply]
  cases callee with
  | program path => rfl
  | builtin command => cases (flow.fetch world).1.supply <;> rfl

/-- A stage that is not the last of those that stay the same is the same. -/
theorem AtStage.among_eq (h : AtStage stages flow stage rest) (hsame : others.take (last + 1) = stages.take (last + 1))
    (hlast : last < stages.length) (hlt : stage.index < last) : stage.among others = stage := by
  obtain ⟨-, -, words, hwords, -, hfeeds⟩ := h
  have hlengths := congrArg List.length hsame
  rw [List.length_take, List.length_take] at hlengths
  have hget : others[stage.index]? = some words := by
    have hget := congrArg (·[stage.index]?) hsame
    simpa only [List.getElem?_take, if_pos (Nat.lt_succ_of_lt hlt), hwords] using hget
  have hempty (l : List (List String)) (hl : last < l.length) : (l.drop (stage.index + 1)).isEmpty = false := by
    rw [List.isEmpty_eq_false_iff, Ne, List.drop_eq_nil_iff]
    omega
  rw [hempty stages hlast] at hfeeds
  rw [Stage.among, hget, hempty others (by omega), Option.getD_some, ← hfeeds]

theorem launch_rerouted (hindex : stage.index = flow.stages.length) :
    launch shell division stage callee (others.drop (stage.index + 1)) flow world =
      (reroute others (launch shell division stage callee rest flow world).1,
        (launch shell division stage callee rest flow world).2) := by
  obtain ⟨hphase, hlength⟩ : (launch shell division stage callee rest flow world).1.2 = .opening rest ∧
      (launch shell division stage callee rest flow world).1.1.stages.length = flow.stages.length + 1 :=
    length_launch world
  rw [reroute, hphase, Phase.rerouted, hlength, ← hindex]
  cases callee <;> rfl

end

/-- The main thread is before the end of the look for the stage at a place. -/
def Before (stages : List (List String)) (last : Nat) (e : Executor) : Prop :=
  (toLex (5 * (stages.length - (last + 1)) + 7, 0) : Nat ×ₗ Nat) ≤ distance e.flow e.phase

/-- As long as the last of the stages that stay the same is not past, the main thread does the same with others to
come. -/
theorem advance_rerouted (hsame : others.take (last + 1) = stages.take (last + 1)) (hlast : last < stages.length)
    (hlocated : Located stages e.flow e.phase) (hbefore : e'.Before stages last)
    (h : e.advance shell division = some e') :
    (e.rerouted others).advance shell division = some (e'.rerouted others) := by
  have hdistance := hbefore.trans_lt (distance_advance h)
  unfold advance at h
  split at h
  · next hready =>
    obtain rfl := Option.some.inj h
    obtain ⟨world, flow, phase⟩ := e
    -- It is enough that the main thread does the same.
    have hafter {phase' : Phase} (hready' : ({ world, flow, phase := phase' : Executor }).isReady = true)
        (haction : action shell division flow phase' world = (reroute others (action shell division flow phase world).1,
          (action shell division flow phase world).2)) :
        ({ world, flow, phase := phase' : Executor }).advance shell division =
          some (({ world, flow, phase : Executor }.after (action shell division flow phase)).rerouted others) := by
      rw [advance, if_pos hready', after, haction]
      rfl
    -- The last phases are too close to the end.
    have hfar {n k : Nat} (h : (toLex (5 * (stages.length - (last + 1)) + 7, 0) : Nat ×ₗ Nat) < toLex (n, k)) :
        5 * (stages.length - (last + 1)) + 7 ≤ n := by
      obtain h | h := Prod.Lex.toLex_lt_toLex.1 h <;> omega
    cases phase with
    | opening rest =>
      cases rest with
      | nil => exact absurd (hfar hdistance) (by simp only [List.length_nil]; omega)
      | cons words rest =>
        have hplace : flow.stages.length ≤ last := by
          have hle := hfar hdistance
          have hlength := congrArg List.length hlocated
          simp only [List.length_cons, List.length_drop] at hle hlength
          omega
        have hwords : others[flow.stages.length]? = some words := by
          have hget := congrArg (·[flow.stages.length]?) hsame
          have hfirst : stages[flow.stages.length]? = some words := by
            rw [← List.head?_drop, ← hlocated, List.head?_cons]
          simpa only [List.getElem?_take, if_pos (Nat.lt_succ_of_le hplace), hfirst] using hget
        obtain ⟨hlt, hword⟩ := List.getElem?_eq_some_iff.1 hwords
        rw [rerouted, Phase.rerouted, List.drop_eq_getElem_cons hlt, hword]
        exact hafter rfl (openNext_rerouted hwords)
    | finding stage rest =>
      cases hfind : stage.find? shell world with
      | none =>
        rw [after, action, look, Run.get_bind, hfind] at hbefore
        exact absurd hbefore (not_le.2 (toLex_lt (by omega)))
      | some callee => exact hafter rfl (look_rerouted hfind)
    | fetching stage callee rest => exact hafter hready (unlessGone_rerouted fetch_rerouted)
    | draining stage callee file rest => exact hafter hready rfl
    | launching stage callee rest =>
      have hlt : stage.index < last := by
        have hle := hfar hdistance
        have hlength := congrArg List.length hlocated.2.1
        rw [List.length_drop] at hlength
        omega
      rw [rerouted, Phase.rerouted, hlocated.among_eq hsame hlast hlt]
      exact hafter rfl (unlessGone_rerouted (launch_rerouted hlocated.1))
    | joining | collecting | stopping | ending | leaving | returned =>
      exact absurd (hfar hdistance) (by omega)
  · cases h

/-- The same holds for everybody. -/
theorem move_rerouted (hsame : others.take (last + 1) = stages.take (last + 1)) (hlast : last < stages.length)
    (hlocated : Located stages e.flow e.phase) (hbefore : e'.Before stages last) (h : Move shell division e e') :
    Move shell division (e.rerouted others) (e'.rerouted others) := by
  cases h with
  | process hpasses => exact .process hpasses
  | thread hstep =>
    cases hstep with
    | main hmain => exact .thread (.main (advance_rerouted hsame hlast hlocated hbefore hmain))
    | stage place hturn =>
      refine .thread (.stage place ?_)
      unfold turn at hturn ⊢
      split at hturn
      · next thread act next hstage =>
        obtain rfl := Option.some.inj hturn
        have hlength (standing : Standing) : (e.flow.with place standing).stages.length = e.flow.stages.length :=
          List.length_set
        simp only [rerouted, hstage, hlength]
      · cases hturn

/-- Up to a stage only the stages to there matter. -/
theorem reaches_rerouted {world : World} (hsame : others.take (last + 1) = stages.take (last + 1))
    (hlast : last < stages.length) (h : Reaches shell division (start stages world) e) (hbefore : e.Before stages last)
    (hstart : (start others world).world = (start stages world).world) :
    Reaches shell division (start others world) (e.rerouted others) := by
  have hfirst : (start stages world).rerouted others = start others world := by
    change ({ world := (start stages world).world, phase := .opening others } : Executor) = _
    rw [← hstart]
    rfl
  rw [← hfirst]
  induction h with
  | refl => exact .refl
  | tail hreaches hmove ih =>
    exact .tail (ih (hbefore.trans (distance_move hmove)))
      (move_rerouted hsame hlast (located_of_reaches hreaches) hbefore hmove)

/-! ### Standard output -/

/-- A stream that has its file to itself is left alone on the way to an unknown stage, and from there on. -/
theorem unadded_of_path {world : World} {stage : Stage} {rest : List (List String)} {σ : Seal} {s : Nat}
    (hguarded : world.Guarded σ s) (hstderr : shell.streams.stderr ≠ s)
    (hpath : Relation.ReflTransGen (fun e e' => e.Clear shell division σ s ∧ Move shell division e e')
      (start stages world) e)
    (hphase : e.phase = .finding stage rest) (hunknown : stage.find? shell e.world = none)
    (hreaches : Reaches shell division (e.abandoned stage) e') : world.Unadded s e'.world := by
  obtain ⟨hnoted, -⟩ := World.note_safe .debug .pipeline s!"pipeline of {stages.length} stages" world hguarded
  have hstart : (start stages world).Spares σ s world := ⟨hnoted, Flow.avoids_empty σ s, nofun, trivial⟩
  have hspares := hstart.path hguarded hstderr hpath hphase
  have hclear : e.Clear shell division σ s := by rw [Clear, hphase]; trivial
  have habandoned := hspares.move hguarded hstderr hclear (fun _ _ heq => by cases heq)
    (.thread (.main (advance_of_unknown hphase hunknown)))
  have hlater := (givingUp_abandoned e stage).spares hguarded hstderr habandoned hreaches
  exact hlater.world.unadded hguarded

/-! ### The line -/

end Executor

/-- The world when a name that stands for nothing was noted. -/
def Stage.missed (stage : Stage) (world : World) : World :=
  (World.note .debug .pipeline s!"stage {stage.index}: {stage.name} not found, aborting" world).2

/-- The line that tells a name that stands for nothing. -/
def Stage.complaint (stage : Stage) : String := s!"{stage.name}: command not found\n"

/-- The line gets to where the messages of the stage go, after all that is there. -/
theorem Stage.held?_miss {stage : Stage} {world : World} (hthere : world.isGone = false) {held : Bytes}
    (hheld : (stage.missed world).held? stage.streams.stderr = some held) :
    (World.print stage.streams.stderr stage.complaint (stage.missed world)).1 = .ok () ∧
      (stage.miss world).2.held? stage.streams.stderr = some (held ++ Text.encode stage.complaint) := by
  have hnoted : (stage.missed world).isGone = false := by
    rw [Stage.missed]
    exact (World.note_keeps_isGone _ _ _ world).trans hthere
  obtain ⟨after, hwrite, hafter⟩ := World.held?_write hnoted hheld (Text.encode stage.complaint)
  have hmiss : (stage.miss world).2 = (World.print stage.streams.stderr stage.complaint (stage.missed world)).2 := by
    rw [Stage.miss, Run.bind_apply, Stage.complaint]
    rfl
  rw [hmiss, World.print, hwrite]
  exact ⟨rfl, hafter⟩

/-! ### The outcome -/

open Executor

/-- What comes of a pipeline that looks up the name of a stage in some state and finds nothing. -/
structure GivesUp (shell : Shell) (division : Division shell) (stages : List (List String)) (world : World)
    (e : Executor) (stage : Stage) : Prop where
  /-- The stage comes after those that were started. -/
  place : stage.index = e.flow.stages.length ∧ ∃ words, stage.OfWords stages words
  /-- All that the stage does is to tell its name; then everything is given up. -/
  stops : e.advance shell division = some (e.abandoned stage)
  /-- The line gets to where the messages of the stage go, after all that is there. -/
  line (held : Bytes) : e.world.isGone = false →
    (stage.missed e.world).held? stage.streams.stderr = some held →
    (World.print stage.streams.stderr stage.complaint (stage.missed e.world)).1 = .ok () ∧
      (stage.miss e.world).2.held? stage.streams.stderr = some (held ++ Text.encode stage.complaint)
  /-- Whoever goes on, the pipeline comes to its end, with the status of a command that was not found. -/
  ends : Inevitable (Move shell division) (GivenUp shell division) (e.abandoned stage)
  /-- The stages that were started have come to their ends: a thread has made all its steps. -/
  completes (e₁ e₂ : Executor) : Reaches shell division e₁ e → Reaches shell division (e.abandoned stage) e₂ →
    e₂.GivenUp shell division → ∀ (place : Nat) (standing : Standing), e₁.flow.stages[place]? = some standing →
    ∃ standing', e₂.flow.stages[place]? = some standing' ∧ standing.GoesOn standing' ∧ workOf standing' = none
  /-- Programs are killed. -/
  killed (e₁ e₂ : Executor) (place pid : Nat) : Reaches shell division (e.abandoned stage) e₁ →
    e₁.phase = .stopping place → e₁.flow.stages[place]? = some (.running pid) → e₁.world.machine.process.pid ≠ pid →
    e₁.advance shell division = some e₂ → e₂.world.machine.isAlive pid = false
  /-- To give up writes nothing. -/
  unwritten (e₁ e₂ : Executor) : Reaches shell division (e.abandoned stage) e₁ → e₁.world.log = none →
    e₁.advance shell division = some e₂ → e₁.world.Unwritten e₂.world
  /-- Standard output gets nothing if it has its file to itself. -/
  unadded (σ : Seal) (e₂ : Executor) : world.Guarded σ shell.streams.stdout →
    shell.streams.stderr ≠ shell.streams.stdout →
    Relation.ReflTransGen
      (fun e e' => e.Clear shell division σ shell.streams.stdout ∧ Move shell division e e') (start stages world) e →
    Reaches shell division (e.abandoned stage) e₂ → world.Unadded shell.streams.stdout e₂.world
  /-- Whatever stages come after, the pipeline gets to the same state, but perhaps for the log record of how many there
  are. -/
  alone (others : List (List String)) : others.take (stage.index + 1) = stages.take (stage.index + 1) →
    (start others world).world = (start stages world).world →
    ∃ e', Reaches shell division (start others world) e' ∧ e'.advance shell division = some (e.abandoned stage)
  /-- What `Flow.abort` does is one way of giving up, when no thread is at work. -/
  abort : Idle e.flow → (e.abandoned stage).ComesTo shell division ((do stage.miss; e.flow.abort) e.world)
  /-- What `run` does is one of the executions. -/
  run : (start stages world).ComesTo shell division (run shell stages world)

namespace Executor

variable {shell : Shell} {division : Division shell}

/-- Who goes on. -/
inductive Mover where
  /-- The main thread. -/
  | main
  /-- The stage at a place. -/
  | stage (place : Nat)
  /-- The process that is furthest behind. -/
  | process

/-- The next step of the main thread. There is no need to wait for a process that has ended. -/
def mainStep (shell : Shell) (division : Division shell) (e : Executor) : Option Executor :=
  match e.phase, e.isReady with
  | .ending place, true =>
    match e.flow.stages[place]? with
    | some (.running pid) => some (e.after do
      discard <| Program.statusOf pid
      return (e.flow, .stopping (place + 1)))
    | _ => e.advance shell division
  | _, _ => e.advance shell division

theorem mainStep_eq (e : Executor) : e.mainStep shell division = e.advance shell division := by
  unfold mainStep
  split
  · next place hphase hready =>
    split
    · next pid hstage =>
      have hended : (Standing.running pid).isOver e.world = true := by
        simpa only [isReady, hphase, hstage, Option.all_some] using hready
      have hover : World.isOver (fun m => ! m.isAlive pid) e.world.machine = true := hended
      have hwait : Program.wait pid e.world = Program.statusOf pid e.world := by
        rw [Program.wait, Run.bind_apply, World.await_of_holds hover]
      have hdiscard : (discard (Program.statusOf pid) : Run PUnit) e.world = discard (Program.wait pid) e.world :=
        congrArg (fun waited : Int × World => ((), waited.2)) hwait.symm
      rw [advance, if_pos hready, hphase, after, after, action, quit, hstage]
      simp only [Standing.await, Run.bind_apply, hdiscard]
    · rfl
  · rfl

/-- What somebody does next. -/
def moveOf (shell : Shell) (division : Division shell) (e : Executor) : Mover → Option Executor
  | .main => e.mainStep shell division
  | .stage place => e.turn place
  | .process =>
    let before : Schedule := { machine := e.world.machine, threads := e.world.tasks, now := e.world.clock }
    (before.step none).map fun s =>
      { e with world := { e.world with machine := s.machine, tasks := s.threads, clock := s.now } }

theorem move_of_moveOf {e e' : Executor} {mover : Mover} (h : e.moveOf shell division mover = some e') :
    Move shell division e e' := by
  cases mover with
  | main => exact .thread (.main ((mainStep_eq e).symm.trans h))
  | stage place => exact .thread (.stage place h)
  | process =>
    obtain ⟨s, hstep, rfl⟩ := Option.map_eq_some_iff.1 h
    exact .process (.intro _ (.single (Schedule.turn_of_step hstep)))

/-- Let some go on one after the other, as long as the states pass a check. -/
def drive (shell : Shell) (division : Division shell) (check : Executor → Bool) :
    List Mover → Executor → Option Executor
  | [], e => some e
  | mover :: movers, e =>
    if check e then (e.moveOf shell division mover).bind fun e => drive shell division check movers e else none

theorem path_of_drive {check : Executor → Bool} {movers : List Mover} {e e' : Executor}
    (h : drive shell division check movers e = some e') :
    Relation.ReflTransGen (fun e e' => check e = true ∧ Move shell division e e') e e' := by
  induction movers generalizing e with
  | nil => exact Option.some.inj h ▸ .refl
  | cons mover movers ih =>
    rw [drive] at h
    split at h
    · next hcheck =>
      obtain ⟨mid, hmid, hthen⟩ := Option.bind_eq_some_iff.1 h
      exact .head ⟨hcheck, move_of_moveOf hmid⟩ (ih hthen)
    · cases h

theorem reaches_of_drive {check : Executor → Bool} {movers : List Mover} {e e' : Executor}
    (h : drive shell division check movers e = some e') : Reaches shell division e e' :=
  Relation.ReflTransGen.mono (fun _ _ hmove => hmove.2) _ _ (path_of_drive h)

/-- The stage whose name is looked up, if it stands for nothing. -/
def missing? (shell : Shell) (e : Executor) : Option Stage :=
  match e.phase with
  | .finding stage _ => if (stage.find? shell e.world).isNone then some stage else none
  | _ => none

theorem finding_of_missing? {e : Executor} {stage : Stage} (h : e.missing? shell = some stage) :
    (∃ rest, e.phase = .finding stage rest) ∧ stage.find? shell e.world = none := by
  unfold missing? at h
  split at h
  · next stage' rest hphase =>
    obtain ⟨hnone, heq⟩ := Option.ite_none_right_eq_some.1 h
    obtain rfl := Option.some.inj heq
    exact ⟨⟨rest, hphase⟩, Option.isNone_iff_eq_none.1 hnone⟩
  · cases h

/-- In the state nothing is done to the file behind the first output stream of the greeter. -/
def passesBy (e : Executor) : Bool :=
  match e.phase with
  | .opening (words :: _) => ((Invocation.ofWords words).nodes Shell.greeter.streams e.world).all (· ≠ .pipe 0)
  | .launching stage (.builtin _) _ => stage.name ≠ "history"
  | _ => true

theorem clear_of_passesBy {e : Executor} (h : e.passesBy = true) :
    e.Clear Shell.greeter (.whole Shell.greeter) (Launch.outputSeal Shell.greeterFiles 0) 0 := by
  unfold passesBy at h
  unfold Clear
  split
  · next words rest hphase =>
    rw [hphase] at h
    exact fun node hnode => .inl (of_decide_eq_true (List.all_eq_true.1 h node hnode))
  · next stage command rest hphase =>
    rw [hphase] at h
    intro context hstdout hstderr
    exact (Shell.heeds_defaults rfl fun hname => absurd hname (of_decide_eq_true h)).whole hstdout hstderr
  · exact fun program hstarts => Except.ok.inj hstarts ▸ Shell.confined_greeting
  · trivial

end Executor

namespace Executor

/-- The status that was returned. -/
def status? (e : Executor) : Option Int :=
  match e.phase with
  | .returned status => some status
  | _ => none

/-- Some go on, then the name of a stage stands for nothing, and then some go on. -/
def afterMissing? (shell : Shell) (stages : List (List String)) (world : World) (movers movers' : List Mover) :
    Option Executor := do
  let e ← drive shell (.whole shell) (fun _ => true) movers (start stages world)
  let stage ← e.missing? shell
  drive shell (.whole shell) (fun _ => true) movers' (e.abandoned stage)

/-- In some execution the name of a stage stands for nothing, and later the pipeline is in a certain state. -/
def ComesToMiss (shell : Shell) (stages : List (List String)) (world : World) (holds : Executor → Prop) : Prop :=
  ∃ e stage e', Reaches shell (.whole shell) (start stages world) e ∧ e.missing? shell = some stage ∧
    Reaches shell (.whole shell) (e.abandoned stage) e' ∧ holds e'

theorem comesToMiss {shell : Shell} {stages : List (List String)} {world : World} {holds : Executor → Prop}
    (movers movers' : List Mover) (check : Executor → Bool) (hcheck : ∀ e, check e = true → holds e)
    (h : (afterMissing? shell stages world movers movers').any check = true) :
    ComesToMiss shell stages world holds := by
  obtain ⟨e', he', hholds⟩ := (Option.any_eq_true _ _).1 h
  obtain ⟨e, he, hthen⟩ := Option.bind_eq_some_iff.1 he'
  obtain ⟨stage, hmissing, hlater⟩ := Option.bind_eq_some_iff.1 hthen
  exact ⟨e, stage, e', reaches_of_drive he, hmissing, reaches_of_drive hlater, hcheck e' hholds⟩

/-- When all threads wait, nobody can go on. -/
theorem stuck_of_waits {shell : Shell} {division : Division shell} {e : Executor} (hready : e.isReady = false)
    (hidle : e.flow.stages.all (fun standing => (workOf standing).isNone) = true)
    (hstep : ({ machine := e.world.machine, threads := e.world.tasks, now := e.world.clock : Schedule}.step none).isNone)
    : e.Stuck shell division := by
  intro e' hmove
  cases hmove with
  | process hpasses => exact not_passes (Option.isNone_iff_eq_none.1 hstep) hpasses
  | thread hstep =>
    cases hstep with
    | main hmain => simp [advance, hready] at hmain
    | stage place hturn =>
      have hidle : Idle e.flow := fun standing hmem work hwork => by
        have hnone := List.all_eq_true.1 hidle standing hmem
        rw [hwork] at hnone
        cases hnone
      rw [hidle.turn] at hturn
      cases hturn

end Executor

/-- A world in which the shell is gone. -/
def goneWorld : World :=
  { Shell.greeterWorld with machine := { Shell.greeterWorld.machine with process := .nobody } }

/-- A shell that is gone says nothing. -/
theorem says_nothing_when_gone :
    ComesToMiss Shell.greeter [["nosuch"]] goneWorld fun e =>
      e.status? = some Status.notFound ∧ e.world.collected 1 = [] :=
  comesToMiss [.main] [.main, .main] (fun e => e.status? = some Status.notFound && e.world.collected 1 = [])
    (fun e he => by simpa using he) (by decide +kernel)

/-- A shell that finds the same program everywhere. -/
def greeterWith (program : Program) : Shell := { Shell.greeter with starter := fun _ _ _ _ => .ok program }

/-- A program that leaves a process behind, which waits for ever and has open what the program has open. -/
def lingering : Program := do
  let pid ← Script.newPid
  Script.Eval.start ((← Script.process).forked pid) (Script.Eval.awaiting fun _ => false)
  return .exited 0

/-- A world in which messages are collected. -/
def collectingWorld : World := { Shell.greeterWorld with sinks := #[.memory [] none, .memory [] none] }

/-- Somebody may hold on to where the messages of a program went. -/
theorem waits_for_messages :
    ComesToMiss (greeterWith lingering) [["greet", ">", "notes"], ["nosuch"]] collectingWorld fun e =>
      e.Stuck (greeterWith lingering) (.whole _) ∧ e.status? = none := by
  refine comesToMiss [.main, .main, .main, .main, .process, .process, .process, .main] [.main, .main, .main]
    (fun e => ! e.isReady && e.flow.stages.all (fun standing => (workOf standing).isNone) &&
      (({ machine := e.world.machine, threads := e.world.tasks, now := e.world.clock } : Schedule).step none).isNone &&
      e.status? = none) (fun e he => ?_) (by decide +kernel)
  simp only [Bool.and_eq_true, Bool.not_eq_true', decide_eq_true_eq] at he
  exact ⟨stuck_of_waits he.1.1.1 he.1.1.2 he.1.2, he.2⟩

/-- A pipeline that is given up adds to a stream that held nothing. -/
structure Adds (shell : Shell) (stages : List (List String)) (world : World) (bs : Bytes) : Prop where
  empty : world.collected shell.streams.stdout = []
  adds : ComesToMiss shell stages world fun e =>
    e.status? = some Status.notFound ∧ e.world.collected shell.streams.stdout = bs

theorem adds_of_drive {shell : Shell} {stages : List (List String)} {world : World} {bs : Bytes}
    (movers movers' : List Mover) (hempty : world.collected shell.streams.stdout = [])
    (h : (afterMissing? shell stages world movers movers').any (fun e =>
      e.status? = some Status.notFound && e.world.collected shell.streams.stdout = bs) = true) :
    Adds shell stages world bs :=
  ⟨hempty, comesToMiss movers movers' _ (fun e he => by simpa using he) h⟩

/-- A target may lead to the file of standard output. -/
theorem adds_by_target :
    Adds Shell.greeter [["echo", "x", ">", "/dev/stdout"], ["nosuch"]] Shell.greeterWorld (Text.encode "x\n") :=
  adds_of_drive [.main, .main, .main, .main, .stage 0, .main] [.main, .main, .main, .main] (by decide +kernel)
    (by decide +kernel)

/-- A shell whose results and messages go to one stream. -/
def joinedGreeter : Shell := { Shell.greeter with streams := { stdin := 0, stdout := 0, stderr := 0 } }

theorem adds_by_joined_streams :
    Adds joinedGreeter [["nosuch"]] { sinks := #[.memory [] none] } (Text.encode "nosuch: command not found\n") :=
  adds_of_drive [.main] [.main, .main] (by decide +kernel) (by decide +kernel)

/-- A world in which results and messages go to one file. -/
def sharedWorld : World := { Shell.greeterWorld with sinks := #[.inherited 1 (some []), .inherited 1 none] }

theorem adds_by_shared_file :
    Adds Shell.greeter [["nosuch"]] sharedWorld (Text.encode "nosuch: command not found\n") :=
  adds_of_drive [.main] [.main, .main] (by decide +kernel) (by decide +kernel)

/-- A world in which log records go to standard output. -/
def loggedWorld : World := { Shell.greeterWorld with log := some { level := .debug, sink := 0, time := "" } }

theorem adds_by_log :
    Adds Shell.greeter [["nosuch"]] loggedWorld
      (Text.encode (" [DEBUG] (1) minishell::pipeline: pipeline of 1 stages\n" ++
        " [DEBUG] (1) minishell::pipeline: stage 0: nosuch not found, aborting\n")) :=
  adds_of_drive [.main] [.main, .main] (by decide +kernel) (by decide +kernel)

/-- A shell with a command that writes to another stream than it is given. -/
def leakyShell : Shell :=
  { Shell.greeter with
    commands := .ofList [("leak", fun _ _ => do
      World.say 0 "x\n"
      return .returned 0)] }

theorem adds_by_command : Adds leakyShell [["leak"], ["nosuch"]] Shell.greeterWorld (Text.encode "x\n") :=
  adds_of_drive [.main, .main, .main, .main, .stage 0, .main] [.main, .main, .main, .main] (by decide +kernel)
    (by decide +kernel)

/-- A program that opens the file behind standard output by itself. -/
def intruding : Program := do
  discard <| Script.writeHandle (← Script.newHandle { node := .pipe 0, reads := false, writes := true }) ['x']
  return .exited 0

theorem adds_by_program : Adds (greeterWith intruding) [["greet"], ["nosuch"]] Shell.greeterWorld (Text.encode "x") :=
  adds_of_drive [.main, .main, .main, .main, .process, .main] [.main, .main, .main, .main] (by decide +kernel)
    (by decide +kernel)

/-- A world in which somebody is at work on the file behind standard output. -/
def busyWorld : World :=
  { Shell.greeterWorld with
    tasks := [{ pid := shellPid, clock := 0, task := (discard <| Script.writeHandle 1 ['x'] : Script.Eval Unit).task }] }

theorem adds_by_work : Adds Shell.greeter [["nosuch"]] busyWorld (Text.encode "x") :=
  adds_of_drive [.process, .main] [.main, .main] (by decide +kernel) (by decide +kernel)

end Pipeline

end LineShell
