import LineShell.Proofs.Outlets
import LineShell.Proofs.Stages

/-!
# Built-in commands one after the other

A pipeline of built-in commands without redirections does what its commands do one after the other: each runs to its
end before the next one starts, the first one reads the input of the shell, each later one reads all that the one
before it wrote, and the last one writes to the output of the shell. A command that breaks off counts as failed, and
what it did until then stays done.

## The model

`Chain` says which calls the stages of a pipeline are, and `inOrder` runs calls without any notion of a pipeline.
Nothing is redirected in such a pipeline, so opening and closing redirections does nothing (`apply_plain`,
`forM_release_plain`), and `runFrom` goes through the same operations as `inOrder` (`runFrom_chain`).
A pipeline learns how a call has ended only when the next one reads what it wrote, but that changes nothing
(`start_after`).
-/

namespace LineShell

namespace World

variable {world : World}

/-- A shell that is gone makes no notes. -/
theorem note_of_isGone (h : world.isGone = true) (level : Level) (origin : Origin) (text : String) :
    note level origin text world = ((), world) := by
  have hwrite (id : Nat) (bs : Bytes) : write id bs world = (.ok (), world) := by
    rw [write, Run.get_bind, if_pos h]
    rfl
  have hsay (id : Nat) (text : String) : say id text world = ((), world) :=
    congrArg (fun r : Except Cause Unit × World => ((), r.2)) (hwrite id (Text.encode text))
  rw [note, Run.get_bind]
  cases world.log with
  | none => rfl
  | some target =>
    dsimp only
    split
    · exact hsay _ _
    · rfl

theorem note_keeps_isGone (level : Level) (origin : Origin) (text : String) : Keeps isGone (note level origin text) :=
  (note_keeps_plumbing level origin text).part Plumbing.isGone

theorem takeCollected_keeps_isGone (id : Nat) : Keeps isGone (takeCollected id) := by
  refine Keeps.get_bind fun world => ?_
  split
  · exact (congrArg (fun view => Plumbing.isGone view.2.2) (takeRelayed_keeps_sinks _ world) :)
  · rfl

end World

/-- The status that a conclusion leaves. -/
def Conclusion.status : Conclusion → Int
  | .returned status => status
  | .faulted => Status.failure

/-- A built-in command with its name and its arguments. -/
structure Call where
  /-- The name by which the command was called. -/
  name : String
  /-- The command. -/
  command : Builtin
  /-- Its arguments. -/
  args : List String

namespace Shell

/-- The stages are calls of built-in commands, and none of their words is a redirection operator. -/
inductive Chain (shell : Shell) : List (List String) → List Call → Prop where
  /-- There are no stages. -/
  | nil : Chain shell [] []
  /-- There is one more stage in front. -/
  | cons {name : String} {command : Builtin} {args : List String} {stages : List (List String)} {calls : List Call} :
    shell.commands.get? name = some command → (∀ w ∈ name :: args, Operator.ofWord? w = none) →
      Chain shell stages calls → Chain shell ((name :: args) :: stages) ({ name, command, args } :: calls)

/-- Run one call, on a thread of its own; gives its status. -/
def perform (shell : Shell) (index : Nat) (call : Call) (stdin stdout : Nat) : Run Int := do
  World.note .debug .pipeline s!"stage {index}: built-in {call.name}"
  let thread ← World.newThread
  let context := shell.context { shell.streams with stdin, stdout }
  let conclusion ← World.asThread thread (call.command call.args context)
  Pipeline.statusOf conclusion

/-- The input of a call: what the call before it wrote to an output stream in memory, or the input of the shell if
there is none. -/
def inputOf (shell : Shell) : Option Nat → Run Nat
  | none => pure shell.streams.stdin
  | some sink => do World.newSource (.memory (← World.takeCollected sink))

/-- Run calls one after the other, each to its end, and each later one on all that the one before it wrote; gives
the status of the last one. A shell that is gone does nothing more. -/
def inOrder (shell : Shell) : Nat → List Call → Option Nat → Run Int
  | _, [], _ => return 0
  | index, [call], written => do
    if (← get).isGone then return Status.failure
    else
      let stdin ← shell.inputOf written
      shell.perform index call stdin shell.streams.stdout
  | index, call :: next :: calls, written => do
    if (← get).isGone then return Status.failure
    else
      let stdin ← shell.inputOf written
      let stdout ← World.newSink (.memory [] none)
      let _ ← shell.perform index call stdin stdout
      inOrder shell (index + 1) (next :: calls) (some stdout)

/-- Run calls in order, with a note before and a note after them. -/
def runInOrder (shell : Shell) (calls : List Call) : Run Int := do
  World.note .debug .pipeline s!"pipeline of {calls.length} stages"
  let status ← shell.inOrder 0 calls none
  World.note .debug .pipeline s!"pipeline finished with {status}"
  return status

theorem inOrder_of_isGone {shell : Shell} {world : World} (h : world.isGone = true) (index : Nat) (call : Call)
    (calls : List Call) (written : Option Nat) :
    shell.inOrder index (call :: calls) written world = (Status.failure, world) := by
  cases calls <;> rw [inOrder, Run.get_bind, if_pos h] <;> rfl

section

variable {shell : Shell} {world : World} (hthere : world.isGone = false) (index : Nat) (call : Call)
  (written : Option Nat)

include hthere

theorem inOrder_last :
    shell.inOrder index [call] written world = (do
      let stdin ← shell.inputOf written
      shell.perform index call stdin shell.streams.stdout) world := by
  rw [inOrder, Run.get_bind, if_neg (Bool.eq_false_iff.1 hthere)]

theorem inOrder_cons (next : Call) (calls : List Call) :
    shell.inOrder index (call :: next :: calls) written world = (do
      let stdin ← shell.inputOf written
      let stdout ← World.newSink (.memory [] none)
      let _ ← shell.perform index call stdin stdout
      shell.inOrder (index + 1) (next :: calls) (some stdout)) world := by
  rw [inOrder, Run.get_bind, if_neg (Bool.eq_false_iff.1 hthere)]

end

end Shell

/-! ### Nothing is redirected -/

namespace Redirection

theorem apply_plain (words : List String) (streams : Streams) :
    apply { words } streams = pure (.ok (streams, {})) := rfl

/-- Redirections that opened nothing are released without doing anything. -/
theorem forM_release_plain {redirections : List Redirection} (h : ∀ r ∈ redirections, r = {}) :
    redirections.forM (fun r => discard r.release) = (pure () : Run Unit) := by
  induction redirections with
  | nil => rfl
  | cons r redirections ih =>
    obtain ⟨rfl, hrest⟩ := List.forall_mem_cons.1 h
    rw [List.forM_eq_forM, List.forM_cons, ← List.forM_eq_forM, ih hrest]
    rfl

end Redirection

namespace Pipeline

theorem statusOf_eq (conclusion : Conclusion) : (statusOf conclusion world).1 = conclusion.status := by
  cases conclusion <;> rfl

theorem statusOf_keeps_isGone (conclusion : Conclusion) : Keeps World.isGone (statusOf conclusion) := by
  cases conclusion with
  | returned status => exact Keeps.pure _
  | faulted => exact (World.note_keeps_isGone _ _ _).bind fun _ => Keeps.pure _

/-- A shell that is gone does not tell that a command has broken off. -/
theorem statusOf_of_isGone (h : world.isGone = true) (conclusion : Conclusion) :
    statusOf conclusion world = (conclusion.status, world) := by
  cases conclusion with
  | returned status => rfl
  | faulted => exact congrArg (fun r : Unit × World => (Status.failure, r.2)) (World.note_of_isGone h _ _ _)

/-- The stage at a place that calls a command, without redirections. -/
abbrev Stage.plain (shell : Shell) (index : Nat) (feedsNext : Bool) (name : String) (args : List String) : Stage :=
  { index, feedsNext, name, args, streams := shell.streams }

/-- What a call reads. -/
def Supply.of : Option Nat → Run Supply
  | none => return .shellInput
  | some sink => return .taken (← World.takeCollected sink)

end Pipeline

namespace Shell

/-- What follows a call that ended with a status: the calls after it, the first of which reads what it wrote. -/
def follow (shell : Shell) (index sink : Nat) : List Call → Int → Run Int
  | [], status => return status
  | call :: calls, _ => shell.inOrder index (call :: calls) (some sink)

variable {shell : Shell} {name : String} {command : Builtin} {args : List String} {calls : List Call} {world : World}

/-- The first of some calls is run on the streams of a stage, and the others follow. -/
theorem inOrder_eq_builtinStreams (hthere : world.isGone = false) (index : Nat) (written : Option Nat) :
    shell.inOrder index ({ name, command, args } :: calls) written world = (do
      let supply ← Pipeline.Supply.of written
      let streams ← (Pipeline.Stage.plain shell index (! calls.isEmpty) name args).builtinStreams supply
      let thread ← World.newThread
      let conclusion ← World.asThread thread (command args (shell.context streams))
      let status ← Pipeline.statusOf conclusion
      shell.follow (index + 1) streams.stdout calls status) world := by
  cases calls with
  | nil =>
    rw [inOrder_last hthere]
    cases written <;>
      simp only [inputOf, perform, Pipeline.Supply.of, Pipeline.Stage.builtinStreams, Pipeline.Stage.builtinInput,
        Pipeline.Stage.builtinOutput, follow, bind_assoc, pure_bind, bind_pure, List.isEmpty_nil, Bool.not_true,
        Bool.false_eq_true, if_false]
  | cons next calls =>
    rw [inOrder_cons hthere]
    cases written <;>
      simp only [inputOf, perform, Pipeline.Supply.of, Pipeline.Stage.builtinStreams, Pipeline.Stage.builtinInput,
        Pipeline.Stage.builtinOutput, follow, bind_assoc, pure_bind, List.isEmpty_cons, Bool.not_false, if_true]

end Shell

namespace Pipeline

/-- The note with which a pipeline ends. -/
def closing (status : Int) : Run Int := do
  World.note .debug .pipeline s!"pipeline finished with {status}"
  return status

theorem closing_of_isGone (h : world.isGone = true) (status : Int) : closing status world = (status, world) :=
  congrArg (fun r : Unit × World => (status, r.2)) (World.note_of_isGone h _ _ _)

/-- The flow when a stage without redirections is opened. -/
def Flow.opened (flow : Flow) : Flow := { flow with redirections := flow.redirections ++ [{}] }

/-- The earlier stages have ended, the last one stands in some way, and nothing is redirected. -/
structure Flow.Plain (flow : Flow) (statuses : List Int) (standing : Standing) : Prop where
  /-- The stages. -/
  stages : flow.stages = statuses.map .ended ++ [standing]
  /-- No stream needs a worker. -/
  workers : flow.workers = []
  /-- The redirections opened nothing. -/
  redirections : ∀ r ∈ flow.redirections, r = {}

section

variable {shell : Shell} {name : String} {command : Builtin} {args : List String} {stages : List (List String)}
  {calls : List Call} {flow : Flow} {statuses : List Int} {sink : Nat} {conclusion : Conclusion}

theorem Flow.Plain.opened {standing : Standing} (h : flow.Plain statuses standing) :
    flow.opened.Plain statuses standing :=
  ⟨h.stages, h.workers, List.forall_mem_append.2 ⟨h.redirections, fun _ => List.mem_singleton.1⟩⟩

theorem close_plain (flow : Flow) (hplain : ∀ r ∈ flow.redirections, r = {}) (status : Int) :
    flow.close status = closing status := by
  simp only [Flow.close, Flow.release, Redirection.forM_release_plain hplain, pure_bind, closing]

theorem mapM_await_ended (statuses : List Int) :
    (statuses.map .ended).mapM Standing.await = (pure statuses : Run (List Int)) := by
  induction statuses with
  | nil => rfl
  | cons status statuses ih =>
    rw [List.map_cons, List.mapM_cons, ih]
    rfl

theorem Flow.Plain.finish (h : flow.Plain statuses (.finished conclusion)) :
    flow.finish = statusOf conclusion >>= closing := by
  simp only [Flow.finish, h.stages, h.workers, List.mapM_append, mapM_await_ended, close_plain flow h.redirections,
    List.mapM_cons, List.mapM_nil, Standing.await, bind_assoc, pure_bind, List.getLast?_concat,
    Option.getD_some]
  rfl

/-- A stage whose words are a call is opened without doing anything. -/
theorem openStage_plain (hwords : ∀ w ∈ name :: args, Operator.ofWord? w = none) (isLast : Bool) (flow : Flow) :
    openStage shell isLast (name :: args) flow =
      pure (flow.opened, some (.plain shell flow.stages.length (! isLast) name args)) := by
  simp only [openStage, Flow.opened, Invocation.ofWords_of_eq_none hwords, Redirection.apply_plain, pure_bind,
    Option.isNone_none, Bool.and_true]

theorem find?_plain (hcommand : shell.commands.get? name = some command) (index : Nat) (feedsNext : Bool)
    (world : World) : (Stage.plain shell index feedsNext name args).find? shell world = some (.builtin command) := by
  rw [Stage.find?, hcommand]

/-- A stage that reads what the one before it wrote takes it when that one has ended. -/
theorem Flow.Plain.fetch (h : flow.Plain statuses (.finished conclusion))
    (hsupply : flow.supply = .captured statuses.length sink) :
    flow.fetch = do
      let status ← statusOf conclusion
      let supply ← Supply.of (some sink)
      return { flow with supply, stages := (statuses ++ [status]).map .ended } := by
  have hlast : flow.stages[statuses.length]? = some (.finished conclusion) := by
    rw [h.stages, List.getElem?_append_right (by simp)]
    simp
  have hset (status : Int) : flow.stages.set statuses.length (.ended status) = (statuses ++ [status]).map .ended := by
    rw [h.stages, List.set_append_right _ _ (by simp)]
    simp
  simp only [Flow.fetch, hsupply, Flow.settle, hlast, Standing.await, bind_assoc, pure_bind, hset, Supply.of]

/-- What is gathered for such a stage. -/
theorem Flow.Plain.gather (h : flow.Plain statuses (.finished conclusion))
    (hsupply : flow.supply = .captured statuses.length sink) (command : Builtin) :
    Stage.gather (.builtin command) flow = do
      let status ← statusOf conclusion
      let supply ← Supply.of (some sink)
      return { flow with supply, stages := (statuses ++ [status]).map .ended } := by
  simp only [Stage.gather, h.fetch hsupply, Flow.drain, Supply.of, bind_assoc, pure_bind]

theorem Flow.plain_next (hstages : flow.stages = statuses.map .ended) (hworkers : flow.workers = [])
    (hplain : ∀ r ∈ flow.redirections, r = {}) (standing : Standing) (supply : Supply) :
    (flow.next standing supply).Plain statuses standing :=
  ⟨congrArg (· ++ _) hstages, hworkers, hplain⟩

/-- A pipeline opens and gathers what its first stage reads, runs the stage and goes on with the others. -/
theorem runFrom_cons_plain {world : World} (hcommand : shell.commands.get? name = some command)
    (hwords : ∀ w ∈ name :: args, Operator.ofWord? w = none) (hthere : world.isGone = false)
    (stages : List (List String)) (flow : Flow) :
    runFrom shell ((name :: args) :: stages) flow world = (do
      let gathered ← Stage.gather (.builtin command) flow.opened
      if (← get).isGone then return Status.failure
      else
        let stage := Stage.plain shell flow.stages.length (! stages.isEmpty) name args
        runFrom shell stages (← stage.runBuiltin shell command gathered)) world := by
  simp only [runFrom, step, openStage_plain hwords, pure_bind, Stage.start, bind_assoc, Run.get_bind,
    find?_plain hcommand, hthere, Bool.false_eq_true, if_false]
  refine congrFun (congrArg (_ >>= ·) (funext fun gathered => ?_)) world
  funext later
  simp only [Run.get_bind]
  split <;> rfl

theorem runFrom_cons_gone {world : World} (hcommand : shell.commands.get? name = some command)
    (hwords : ∀ w ∈ name :: args, Operator.ofWord? w = none) (hgone : world.isGone = true)
    (stages : List (List String)) (flow : Flow) :
    runFrom shell ((name :: args) :: stages) flow world = (Status.failure, world) := by
  simp only [runFrom, step, openStage_plain hwords, pure_bind, Stage.start, bind_assoc, Run.get_bind,
    find?_plain hcommand, hgone, if_true]
  rfl

/-- Stages that begin beside one that has ended are calls that follow it. -/
def Follows (shell : Shell) (stages : List (List String)) (calls : List Call) : Prop :=
  ∀ (flow : Flow) (statuses : List Int) (conclusion : Conclusion) (sink : Nat),
    flow.Plain statuses (.finished conclusion) → (stages ≠ [] → flow.supply = .captured statuses.length sink) →
      runFrom shell stages flow = do
        let status ← statusOf conclusion
        let status ← shell.follow (statuses.length + 1) sink calls status
        closing status

/-- A stage is run on what was gathered, and others follow. -/
theorem runFrom_runBuiltin (call : Call) (flow : Flow) (statuses : List Int) (hrest : Follows shell stages calls)
    (hempty : stages.isEmpty = calls.isEmpty) (hstages : flow.stages = statuses.map .ended)
    (hworkers : flow.workers = []) (hplain : ∀ r ∈ flow.redirections, r = {}) :
    ((Stage.plain shell statuses.length (! stages.isEmpty) call.name call.args).runBuiltin shell call.command flow >>=
        runFrom shell stages) = (do
      let stage := Stage.plain shell statuses.length (! calls.isEmpty) call.name call.args
      let streams ← stage.builtinStreams flow.supply
      let thread ← World.newThread
      let conclusion ← World.asThread thread (call.command call.args (shell.context streams))
      let status ← statusOf conclusion
      let status ← shell.follow (statuses.length + 1) streams.stdout calls status
      closing status) := by
  simp only [Stage.runBuiltin, bind_assoc, pure_bind, hempty]
  congr 1
  funext streams
  congr 1
  funext thread
  congr 1
  funext conclusion
  refine hrest _ _ _ _ (Flow.plain_next hstages hworkers hplain _ _) fun hne => ?_
  rw [← hempty]
  simp [Flow.next, Stage.captured, hne]

theorem isEmpty_of_chain (h : shell.Chain stages calls) : stages.isEmpty = calls.isEmpty := by
  cases h <;> rfl

/-- The induction is on the stages. -/
theorem follows_of_chain (hchain : shell.Chain stages calls) : Follows shell stages calls := by
  induction hchain with
  | nil =>
    intro flow statuses conclusion sink hflow _
    simp only [runFrom, hflow.finish, Shell.follow, pure_bind]
  | @cons name command args stages calls hcommand hwords hrest ih =>
    intro flow statuses conclusion sink hflow hsupply
    funext world
    cases hgone : world.isGone with
    | true =>
      rw [runFrom_cons_gone hcommand hwords hgone, Run.bind_apply, statusOf_of_isGone hgone, Run.bind_apply,
        Shell.follow, Shell.inOrder_of_isGone hgone, closing_of_isGone hgone]
    | false =>
      have hopened := hflow.opened
      have hlength : flow.stages.length = statuses.length + 1 := by simp [hflow.stages]
      have hthere : (statusOf conclusion world).2.isGone = false := (statusOf_keeps_isGone _ _).trans hgone
      have hthere' : (World.takeCollected sink (statusOf conclusion world).2).2.isGone = false :=
        (World.takeCollected_keeps_isGone _ _).trans hthere
      have hrun (supply : Supply) := runFrom_runBuiltin { name, command, args }
        { flow.opened with supply, stages := (statuses ++ [conclusion.status]).map .ended }
        (statuses ++ [conclusion.status]) ih (isEmpty_of_chain hrest) rfl hopened.workers hopened.redirections
      simp only [List.length_append, List.length_singleton] at hrun
      rw [runFrom_cons_plain hcommand hwords hgone, hopened.gather (hsupply (List.cons_ne_nil _ _)), bind_assoc,
        Run.bind_apply, Run.bind_apply (statusOf conclusion), statusOf_eq, Shell.follow,
        Run.bind_congr (Shell.inOrder_eq_builtinStreams hthere ..)]
      simp only [bind_assoc, Supply.of, pure_bind]
      rw [Run.bind_apply (World.takeCollected sink), Run.bind_apply (World.takeCollected sink), Run.get_bind, hthere',
        if_neg Bool.false_ne_true, hlength]
      exact congrFun (hrun _) _

theorem length_of_chain (hchain : shell.Chain stages calls) : stages.length = calls.length := by
  induction hchain with
  | nil => rfl
  | cons _ _ _ ih => rw [List.length_cons, List.length_cons, ih]

/-- The stages of a pipeline are calls in order. -/
theorem runFrom_chain (hchain : shell.Chain stages calls) :
    runFrom shell stages {} = shell.inOrder 0 calls none >>= closing := by
  cases hchain with
  | nil => exact close_plain {} nofun 0
  | @cons name command args stages calls hcommand hwords hrest =>
    funext world
    cases hgone : world.isGone with
    | true =>
      rw [runFrom_cons_gone hcommand hwords hgone, Run.bind_apply, Shell.inOrder_of_isGone hgone,
        closing_of_isGone hgone]
    | false =>
      have hrun := runFrom_runBuiltin { name, command, args } (Flow.opened {}) [] (follows_of_chain hrest)
        (isEmpty_of_chain hrest) rfl rfl (fun _ => List.mem_singleton.1)
      rw [runFrom_cons_plain hcommand hwords hgone, Run.bind_congr (Shell.inOrder_eq_builtinStreams hgone ..)]
      simp only [Supply.of, bind_assoc, pure_bind]
      rw [show Stage.gather (.builtin command) (Flow.opened {}) = pure (Flow.opened {}) from rfl, pure_bind,
        Run.get_bind, hgone, if_neg Bool.false_ne_true]
      exact congrFun hrun world

/-- A pipeline of calls without redirections runs them in order, with a note before and a note after it. -/
theorem run_chain (hchain : shell.Chain stages calls) : run shell stages = shell.runInOrder calls := by
  rw [run, Shell.runInOrder, length_of_chain hchain, runFrom_chain hchain]
  rfl

end

end Pipeline

end LineShell
