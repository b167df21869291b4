import LineShell.Proofs.Bearings

/-!
# Commands that keep the history

Running a line leaves the entered lines as they are, unless a command of the line is `history` with the
request to read a file. The other uses of `history` write files, and at most remember how far that has gone.

## The model

`Shell.commandsRun` lists the commands that a line starts, with their arguments. They depend on the world
in which the line runs, since a stage is not started if its redirections cannot be opened or if one before it
stopped the pipeline.
-/

namespace LineShell

/-- The lines that were entered. -/
def Bearings.entries (bearings : Bearings) : List String := bearings.history.entries

/-- The lines that were entered. -/
def World.entries (world : World) : List String := world.history.entries

theorem Keeps.entries {α : Type} {op : Run α} (h : Keeps World.bearings op) : Keeps World.entries op :=
  h.part Bearings.entries

namespace Builtin

/-! ### Work -/

section

variable {α γ : Type} {work : ExceptT Failure Run α}

/-- Work that leaves the lines alone, whether it fails or not. -/
def KeepsLines (work : ExceptT Failure Run α) : Prop := Keeps World.entries work.run

theorem KeepsLines.pure (a : α) : KeepsLines (Pure.pure a : ExceptT Failure Run α) := Keeps.pure (Except.ok a)

theorem KeepsLines.throw (failure : Failure) : KeepsLines (throw failure : ExceptT Failure Run α) :=
  Keeps.pure (Except.error failure)

theorem KeepsLines.bind (h : KeepsLines work) {f : α → ExceptT Failure Run γ} (hf : ∀ a, KeepsLines (f a)) :
    KeepsLines (work >>= f) := by
  change Keeps World.entries (work.run >>= ExceptT.bindCont f)
  refine Keeps.bind h fun result => ?_
  cases result with
  | ok a => exact hf a
  | error failure => exact Keeps.pure _

theorem KeepsLines.lift {op : Run α} (h : Keeps World.entries op) :
    KeepsLines (liftM op : ExceptT Failure Run α) :=
  h.map Except.ok

theorem KeepsLines.get : KeepsLines (getThe World : ExceptT Failure Run World) := fun _ => rfl

theorem KeepsLines.get_bind {f : World → ExceptT Failure Run γ}
    (h : ∀ world, KeepsFrom World.entries world (f world).run) :
    KeepsLines ((getThe World : ExceptT Failure Run World) >>= f) :=
  h

theorem KeepsLines.foldlM {f : γ → α → ExceptT Failure Run γ} (h : ∀ c a, KeepsLines (f c a))
    (as : List α) (c : γ) : KeepsLines (as.foldlM f c) := by
  induction as generalizing c with
  | nil => exact KeepsLines.pure c
  | cons a as ih => exact (h c a).bind ih

theorem KeepsLines.forM {f : α → ExceptT Failure Run PUnit} (h : ∀ a, KeepsLines (f a)) (as : List α) :
    KeepsLines (as.forM f) := by
  induction as with
  | nil => exact KeepsLines.pure _
  | cons a as ih => exact (h a).bind fun _ => ih

end

theorem keepsLines_put (id : Nat) (text : String) : KeepsLines (put id text) := by
  refine (KeepsLines.lift (World.print_keeps id text).entries).bind fun result => ?_
  split
  · exact KeepsLines.pure _
  · exact KeepsLines.throw _

/-- A command that reads its arguments by a grammar leaves the lines alone if its work does. -/
theorem keeps_ofGrammar {grammar : Grammar} {work : Arguments → Context → Work} {args : List String}
    (h : ∀ a, grammar.read args = .ok a → ∀ context, KeepsLines (work a context)) (context : Context) :
    Keeps World.entries (ofGrammar grammar work args context) := by
  unfold ofGrammar
  split
  · exact (World.say_keeps _ _).entries.bind fun _ => Keeps.pure _
  · exact (World.say_keeps _ _).entries.bind fun _ => Keeps.pure _
  · next a ha =>
    refine Keeps.bind (h a ha context) fun result => ?_
    split
    · exact Keeps.pure _
    · exact (World.note_keeps _ _ _).entries.bind fun _ => (World.say_keeps _ _).entries.bind
        fun _ => Keeps.pure _

/-! ### The built-in commands -/

theorem keeps_echo (args : List String) (context : Context) : Keeps World.entries (echo args context) := by
  refine Keeps.bind (World.print_keeps _ _).entries fun result => ?_
  split
  · exact Keeps.pure _
  · exact (World.say_keeps _ _).entries.bind fun _ => Keeps.pure _

theorem keeps_pwd (args : List String) (context : Context) : Keeps World.entries (pwd args context) := by
  refine keeps_ofGrammar (fun a _ context => KeepsLines.get.bind fun world => ?_) context
  split
  · exact KeepsLines.throw _
  · exact (keepsLines_put _ _).bind fun _ => KeepsLines.pure _

theorem keeps_cd (args : List String) (context : Context) : Keeps World.entries (cd args context) := by
  refine keeps_ofGrammar (fun a _ context => KeepsLines.get_bind fun world => ?_) context
  split <;> rfl

theorem keeps_type (args : List String) (context : Context) : Keeps World.entries (type args context) := by
  refine keeps_ofGrammar (fun a _ context => ?_) context
  split
  · exact (keepsLines_put _ _).bind fun _ => KeepsLines.pure _
  · exact KeepsLines.foldlM (fun status name => KeepsLines.get.bind fun world =>
      (keepsLines_put _ _).bind fun _ => KeepsLines.pure _) _ _

theorem keeps_exit (args : List String) (context : Context) : Keeps World.entries (exit args context) := by
  refine keeps_ofGrammar (fun a _ context => ?_) context
  have hleave (status : Int) : KeepsLines (do
      modify fun (world : World) => { world with exitRequest := some status }
      return status) :=
    fun _ => rfl
  split
  · exact hleave _
  · split
    · exact hleave _
    · exact (keepsLines_put _ _).bind fun _ => hleave _

theorem keepsLines_writeHistory (path : String) : KeepsLines (writeHistory path) := by
  refine KeepsLines.get_bind fun world => ?_
  cases world.history.save world.files world.cwd path with | mk result files
  cases result <;> rfl

/-- An append remembers how far it has gone, and changes nothing else in the history. -/
theorem append_eq_settled {h h' : History} {fs : FileSystem} {cwd : NodeId} {path : String}
    (happend : (h.append fs cwd path).1 = .ok h') : h' = h.settled := by
  unfold History.append at happend
  repeat' split at happend
  all_goals first
    | exact (Except.ok.inj happend).symm
    | cases happend

theorem keepsLines_appendHistory (path : String) : KeepsLines (appendHistory path) := by
  refine KeepsLines.get_bind fun world => ?_
  cases hresult : world.history.append world.files world.cwd path with | mk result files
  cases result with
  | error failure => rfl
  | ok history =>
    obtain rfl : history = world.history.settled := append_eq_settled (by rw [hresult])
    rfl

theorem keepsLines_showHistory (limit : Option Nat) (context : Context) :
    KeepsLines (showHistory limit context) :=
  KeepsLines.get.bind fun _ => (KeepsLines.forM (fun _ => keepsLines_put _ _) _).bind
    fun _ => KeepsLines.pure _

/-- These arguments ask `history` to read a file. -/
def asksToRead (args : List String) : Bool :=
  match historyGrammar.read args with
  | .ok args => (args.value? "read").isSome
  | .error _ => false

theorem keeps_history {args : List String} (h : asksToRead args = false) (context : Context) :
    Keeps World.entries (history args context) := by
  refine keeps_ofGrammar (fun a ha context => ?_) context
  rw [asksToRead, ha] at h
  split
  · next hread => simp [hread] at h
  · exact keepsLines_writeHistory _
  · exact keepsLines_appendHistory _
  · exact keepsLines_showHistory _ _

end Builtin

/-! ### Registries -/

namespace Registry

theorem mem_insertInto {name : String} {command : Builtin} {item : String × Builtin}
    {entries : List (String × Builtin)} (h : item ∈ insertInto name command entries) :
    item = (name, command) ∨ item ∈ entries := by
  induction entries with
  | nil => exact .inl (List.mem_singleton.1 h)
  | cons entry entries ih =>
    unfold insertInto at h
    split at h
    · exact (List.mem_cons.1 h).imp_right (List.mem_cons_of_mem _)
    · split at h
      · exact List.mem_cons.1 h
      · obtain h | h := List.mem_cons.1 h
        · exact .inr (h ▸ List.mem_cons_self)
        · exact (ih h).imp_right (List.mem_cons_of_mem _)

theorem mem_foldl_insert {commands : List (String × Builtin)} {r : Registry} {item : String × Builtin}
    (h : item ∈ (commands.foldl (fun r (name, command) => r.insert name command) r).entries) :
    item ∈ commands ∨ item ∈ r.entries := by
  induction commands generalizing r with
  | nil => exact .inr h
  | cons command commands ih =>
    obtain h | h := ih h
    · exact .inl (List.mem_cons_of_mem _ h)
    · exact (mem_insertInto h).imp_left (List.mem_cons.2 <| .inl ·)

/-- A registry has no other commands than those that it was made of. -/
theorem mem_of_get?_ofList {commands : List (String × Builtin)} {name : String} {command : Builtin}
    (h : (ofList commands).get? name = some command) : (name, command) ∈ commands := by
  obtain ⟨before, after, hentries, -⟩ := List.lookup_eq_some_iff.1 h
  have hmem : (name, command) ∈ (ofList commands).entries := by simp [hentries]
  exact (mem_foldl_insert hmem).resolve_right List.not_mem_nil

end Registry

/-! ### Lines -/

namespace Pipeline

/-- A stage that is opened. -/
structure Opening where
  /-- No stage follows it. -/
  isLast : Bool
  /-- Its words. -/
  words : List String
  /-- What the stages before it have in common. -/
  flow : Flow
  /-- The world in which it is opened. -/
  world : World

/-- The stages of a pipeline that are opened, of those that are left. -/
def openingsFrom (shell : Shell) : List (List String) → Flow → World → List Opening
  | [], _, _ => []
  | words :: rest, flow, world =>
    { isLast := rest.isEmpty, words, flow, world } :: match step shell rest.isEmpty words flow world with
      | (.on next, later) => openingsFrom shell rest next later
      | (.unknown _, _) | (.gone, _) => []

/-- The stages of a pipeline that are opened. -/
def openings (shell : Shell) (stages : List (List String)) (world : World) : List Opening :=
  openingsFrom shell stages {} (World.note .debug .pipeline s!"pipeline of {stages.length} stages" world).2

end Pipeline

namespace Shell

/-- The command of a stage, with its arguments, if the stage has one and its redirections can be opened. -/
def commandOf (shell : Shell) (words : List String) (world : World) : List (List String) :=
  match (Redirection.apply (Invocation.ofWords words) shell.streams world).1 with
  | .error _ => []
  | .ok _ => [(Invocation.ofWords words).words]

/-- The commands that the stages of a line start, with their arguments. -/
def commandsOf (shell : Shell) (world : World) : List (List String) → List (List String)
  | [] => []
  | [single] => shell.commandOf single world
  | stages => (Pipeline.openings shell stages world).flatMap fun o => shell.commandOf o.words o.world

/-- A command, with its arguments, is `history` with the request to read a file. -/
def isHistoryRead : List String → Bool
  | "history" :: args => Builtin.asksToRead args
  | _ => false

/-- Among the commands that a line starts is `history` with the request to read a file. -/
def readsHistory (shell : Shell) (line : String) (world : World) : Bool :=
  (shell.commandsOf world (Pipeline.stages (words line))).any isHistoryRead

/-- The commands are the usual ones under their usual names, and perhaps others that leave the entered lines
alone. -/
def KeepsLinesButHistory (shell : Shell) : Prop :=
  ∀ name command, shell.commands.get? name = some command → (name, command) ∈ Builtin.defaults ∨
    ∀ args context, Keeps World.entries (command args context)

section

variable {shell : Shell}

theorem keepsLinesButHistory_defaults (h : shell.commands = .ofList Builtin.defaults) :
    shell.KeepsLinesButHistory :=
  fun _ _ hcommand => .inl (Registry.mem_of_get?_ofList (h ▸ hcommand))

theorem keeps_command (hshell : shell.KeepsLinesButHistory) {name : String} {command : Builtin}
    (hcommand : shell.commands.get? name = some command) {args : List String}
    (hread : isHistoryRead (name :: args) = false) (context : Context) :
    Keeps World.entries (command args context) := by
  obtain hdefault | hkeeps := hshell name command hcommand
  · simp only [Builtin.defaults, List.mem_cons, Prod.mk.injEq, List.not_mem_nil, or_false] at hdefault
    obtain ⟨rfl, rfl⟩ | ⟨rfl, rfl⟩ | ⟨rfl, rfl⟩ | ⟨rfl, rfl⟩ | ⟨rfl, rfl⟩ | ⟨rfl, rfl⟩ := hdefault
    · exact Builtin.keeps_echo args context
    · exact Builtin.keeps_cd args context
    · exact Builtin.keeps_pwd args context
    · exact Builtin.keeps_type args context
    · exact Builtin.keeps_exit args context
    · exact Builtin.keeps_history hread context
  · exact hkeeps args context

theorem keeps_dispatch (hshell : shell.KeepsLinesButHistory) {name : String} {args : List String}
    (hread : isHistoryRead (name :: args) = false) (streams : Streams) :
    Keeps World.entries (shell.dispatch name args streams) := by
  unfold dispatch
  split
  · next command hcommand =>
    exact (World.note_keeps _ _ _).entries.bind fun _ => keeps_command hshell hcommand hread _
  · refine Keeps.get.bind fun world => ?_
    split
    · exact (World.note_keeps _ _ _).entries.bind fun _ => (World.say_keeps _ _).entries.bind
        fun _ => Keeps.pure _
    · refine (shell.runProgram_keeps _ _ _ _).entries.bind fun result => ?_
      split
      · exact Keeps.pure _
      · exact (World.note_keeps _ _ _).entries.bind fun _ => (World.say_keeps _ _).entries.bind
          fun _ => Keeps.pure _

theorem keepsFrom_runSingle (hshell : shell.KeepsLinesButHistory) {words : List String} {world : World}
    (hread : (shell.commandOf words world).any isHistoryRead = false) :
    KeepsFrom World.entries world (shell.runSingle words) := by
  refine KeepsFrom.bind ((Redirection.apply_keeps _ _).entries world) ?_
  unfold commandOf at hread
  split at hread
  · next failure hresult =>
    rw [hresult]
    exact ((World.note_keeps _ _ _).bind fun _ => (World.say_keeps _ _).bind fun _ => Keeps.pure _).entries _
  · next result hresult =>
    rw [hresult]
    have hend (redirection : Redirection) (streams : Streams) (conclusion : Conclusion) :
        Keeps World.bearings (do
          if conclusion ≠ .faulted then flush streams
          discard redirection.release
          return conclusion) := by
      have hrelease := redirection.release_keeps.discard.bind fun _ => Keeps.pure conclusion
      dsimp only
      split
      · exact (flush_keeps _).bind fun _ => hrelease
      · exact hrelease
    dsimp only
    split
    · exact (hend result.2 result.1 (.returned 0)).entries _
    · next name args hwords =>
      rw [hwords, List.any_cons, List.any_nil, Bool.or_false] at hread
      exact KeepsFrom.bind (keeps_dispatch hshell hread _ _) ((hend _ _ _).entries _)

/-- A step of a pipeline leaves the lines alone unless it starts `history` with the request to read a file. -/
theorem keepsFrom_step (hshell : shell.KeepsLinesButHistory) {words : List String} {world : World}
    (hread : (shell.commandOf words world).any isHistoryRead = false) (isLast : Bool)
    (flow : Pipeline.Flow) : KeepsFrom World.entries world (Pipeline.step shell isLast words flow) := by
  have hopen : Keeps World.bearings (Pipeline.openStage shell isLast words flow) :=
    Pipeline.openStage_keeps _ _ _ _
  refine KeepsFrom.bind (hopen.entries world) ?_
  obtain ⟨next, hskipped⟩ | ⟨streams, redirection, name, args, happly, hwords, hstage⟩ :=
    Pipeline.openStage_cases shell isLast words flow world
  · rw [hskipped]
    rfl
  · rw [hstage]
    rw [commandOf, happly, hwords, List.any_cons, List.any_nil, Bool.or_false] at hread
    exact Pipeline.Stage.start_keeps Bearings.entries (fun command hcommand context =>
      keeps_command hshell hcommand hread context) _ _

theorem keepsFrom_runFrom (hshell : shell.KeepsLinesButHistory) (stages : List (List String))
    {flow : Pipeline.Flow} {world : World}
    (hread : ∀ o ∈ Pipeline.openingsFrom shell stages flow world,
      (shell.commandOf o.words o.world).any isHistoryRead = false) :
    KeepsFrom World.entries world (Pipeline.runFrom shell stages flow) := by
  induction stages generalizing flow world with
  | nil => exact flow.finish_keeps.entries world
  | cons words rest ih =>
    unfold Pipeline.runFrom
    rw [Pipeline.openingsFrom, List.forall_mem_cons] at hread
    refine KeepsFrom.bind (keepsFrom_step hshell hread.1 _ _) ?_
    cases hstep : Pipeline.step shell rest.isEmpty words flow world with | mk sequel later
    rw [hstep] at hread
    cases sequel with
    | on next => exact ih hread.2
    | unknown next => exact (Pipeline.Flow.abort_keeps next).entries later
    | gone => rfl

/-- **Running a line leaves the entered lines alone** unless it starts `history` with the request to read a
file. -/
theorem keepsFrom_route (hshell : shell.KeepsLinesButHistory) {line : String} {world : World}
    (hread : shell.readsHistory line world = false) : KeepsFrom World.entries world (shell.route line) := by
  refine KeepsFrom.bind ?_ ?_
  · unfold readsHistory at hread
    unfold runStages
    split
    · rfl
    · next single hstages =>
      rw [hstages] at hread
      exact keepsFrom_runSingle hshell hread
    · next hnil hsingle =>
      rw [commandsOf] at hread
      · rw [List.any_flatMap, List.any_eq_false] at hread
        exact KeepsFrom.bind (KeepsFrom.bind ((World.note_keeps _ _ _).entries world)
          (keepsFrom_runFrom hshell _ fun o ho => Bool.eq_false_iff.2 (hread o ho))) rfl
      · exact hnil
      · exact hsingle
  · split
    · rfl
    · exact ((World.note_keeps _ _ _).bind fun _ => (World.say_keeps _ _).bind fun _ => Keeps.pure _).entries _

end

end Shell

end LineShell
