import LineShell.Proofs.HistoryKept

/-!
# Commands that cannot tell their thread

The number of a thread stands in log records and nowhere else. Where nothing but faults is logged, no usual command
can tell on which thread it runs, or how many threads were started before.

## The model

`World.seenFrom` is the same world on another thread. An operation is `Oblivious` if it does the same there, as far as
that does not concern thread numbers, and logs no more; there is one lemma for each operation that the built-ins are
made of.
-/

namespace LineShell

/-- The world as it is on another thread, after another number of threads. -/
def World.seenFrom (world : World) (thread threads : Nat) : World := { world with thread, threads }

/-- Two worlds are the same but for the numbers of threads. -/
def World.Alike (world world' : World) : Prop := ∃ thread threads, world' = world.seenFrom thread threads

namespace World

theorem Alike.refl (world : World) : world.Alike world := ⟨world.thread, world.threads, rfl⟩

section

variable (world : World) (thread threads : Nat)

@[simp]
theorem machine_seenFrom : (world.seenFrom thread threads).machine = world.machine := rfl

@[simp]
theorem files_seenFrom : (world.seenFrom thread threads).files = world.files := rfl

@[simp]
theorem cwd_seenFrom : (world.seenFrom thread threads).cwd = world.cwd := rfl

@[simp]
theorem history_seenFrom : (world.seenFrom thread threads).history = world.history := rfl

end

end World

/-- Nothing but faults is logged. -/
def World.IsQuiet (world : World) : Prop := ∀ target ∈ world.log, target.level.rank < Level.warn.rank

theorem World.isQuiet_of_none {world : World} (h : world.log = none) : world.IsQuiet :=
  fun _ htarget => absurd htarget (h ▸ Option.not_mem_none _)

theorem World.IsQuiet.kept {world later : World} (h : world.IsQuiet) (hkept : later.bearings = world.bearings) :
    later.IsQuiet := by
  have hlog : later.log = world.log := congrArg Bearings.log hkept
  exact fun target htarget => h target (hlog ▸ htarget)

/-- Two runs agree: they log no more than faults, give the same, and leave worlds that are alike. -/
def Agree {α : Type} (run run' : α × World) : Prop := run.2.IsQuiet ∧ run'.1 = run.1 ∧ run.2.Alike run'.2

section

variable {α β : Type} {op : Run α}

/-- Where nothing but faults is logged, the operation does the same on every thread. -/
def Oblivious (op : Run α) : Prop :=
  ∀ world thread threads, world.IsQuiet → Agree (op world) (op (world.seenFrom thread threads))

theorem agree_of_quiet {a : α} {world : World} (h : world.IsQuiet) (thread threads : Nat) :
    Agree (a, world) (a, world.seenFrom thread threads) :=
  ⟨h, rfl, thread, threads, rfl⟩

namespace Oblivious

theorem pure (a : α) : Oblivious (Pure.pure a : Run α) :=
  fun _ thread threads hquiet => agree_of_quiet hquiet thread threads

theorem isQuiet (h : Oblivious op) {world : World} (hquiet : world.IsQuiet) : (op world).2.IsQuiet :=
  (h world world.thread world.threads hquiet).1

theorem bind (h : Oblivious op) {f : α → Run β} (hf : ∀ a, Oblivious (f a)) : Oblivious (op >>= f) := by
  intro world thread threads hquiet
  obtain ⟨hlater, hresult, thread', threads', hworld⟩ := h world thread threads hquiet
  rw [Run.bind_apply, Run.bind_apply, hresult, hworld]
  exact hf _ _ thread' threads' hlater

theorem discard (h : Oblivious op) : Oblivious (discard op) := fun world thread threads hquiet =>
  have ⟨hlater, _, halike⟩ := h world thread threads hquiet
  ⟨hlater, rfl, halike⟩

theorem map (h : Oblivious op) (f : α → β) : Oblivious (f <$> op) := fun world thread threads hquiet =>
  have ⟨hlater, hresult, halike⟩ := h world thread threads hquiet
  ⟨hlater, congrArg f hresult, halike⟩

/-- An operation that begins by looking at the world. -/
theorem get_bind {f : World → Run β}
    (h : ∀ world thread threads, world.IsQuiet →
      Agree (f world world) (f (world.seenFrom thread threads) (world.seenFrom thread threads))) :
    Oblivious ((MonadState.get : Run World) >>= f) := h

/-- An operation that begins by looking at the world, but not at thread numbers. -/
theorem look {f : World → Run β} (hsame : ∀ world thread threads, f (world.seenFrom thread threads) = f world)
    (h : ∀ world, Oblivious (f world)) : Oblivious ((MonadState.get : Run World) >>= f) :=
  get_bind fun world thread threads hquiet => by
    rw [hsame]
    exact h world world thread threads hquiet

theorem forM {f : α → Run PUnit} (h : ∀ a, Oblivious (f a)) (as : List α) : Oblivious (as.forM f) := by
  induction as with
  | nil => exact pure ()
  | cons a as ih => exact bind (h a) fun _ => ih

end Oblivious

end

namespace World

/-! ### Output -/

theorem oblivious_setSink (id : Nat) (sink : Sink) : Oblivious (modify (·.setSink id sink) : Run PUnit) :=
  fun _ thread threads hquiet => ⟨hquiet, rfl, thread, threads, rfl⟩

theorem oblivious_writeFile (file : Nat) (bs : Bytes) : Oblivious (writeFile file bs) := by
  refine .get_bind fun world thread threads hquiet => ?_
  rw [machine_seenFrom, files_seenFrom]
  cases world.machine.handles[file]? with
  | none => exact agree_of_quiet hquiet thread threads
  | some handle =>
    dsimp only
    cases world.files.write handle bs with
    | error cause => exact agree_of_quiet hquiet thread threads
    | ok written => exact ⟨hquiet, rfl, thread, threads, rfl⟩

theorem oblivious_drainPipe (node : NodeId) : Oblivious (drainPipe node) := by
  refine .get_bind fun world thread threads hquiet => ?_
  rw [files_seenFrom]
  rcases world.files.node? node with _ | (_ | _ | _ | _ | pipe | _)
  case some.pipe => exact ⟨hquiet, rfl, thread, threads, rfl⟩
  all_goals exact agree_of_quiet hquiet thread threads

theorem oblivious_takeRelayed (relay : Option Relay) : Oblivious (takeRelayed relay) := by
  cases relay with
  | none => exact .pure []
  | some relay => exact oblivious_drainPipe relay.node

theorem oblivious_write (id : Nat) (bs : Bytes) : Oblivious (write id bs) := by
  refine .look (fun _ _ _ => rfl) fun world => ?_
  split
  · exact .pure _
  · split
    · exact (oblivious_takeRelayed _).bind fun _ => (oblivious_setSink _ _).bind fun _ => .pure _
    · exact oblivious_writeFile _ _
    · exact (oblivious_setSink _ _).bind fun _ => oblivious_writeFile _ _
    · exact oblivious_writeFile _ _
    · exact .pure _
    · exact .pure _

theorem oblivious_say (id : Nat) (text : String) : Oblivious (say id text) :=
  (oblivious_write id _).discard

theorem note_of_quiet {world : World} (h : world.IsQuiet) {level : Level} (hlevel : Level.warn.rank ≤ level.rank)
    (origin : Origin) (text : String) : note level origin text world = ((), world) := by
  rw [note, Run.get_bind]
  cases hlog : world.log with
  | none => rfl
  | some target =>
    have htarget := h target hlog
    exact congrFun (if_neg (by omega)) world

theorem note_warn_of_quiet {world : World} (h : world.IsQuiet) (origin : Origin) (text : String) :
    note .warn origin text world = ((), world) :=
  note_of_quiet h (by decide) origin text

theorem note_debug_of_quiet {world : World} (h : world.IsQuiet) (origin : Origin) (text : String) :
    note .debug origin text world = ((), world) :=
  note_of_quiet h (by decide) origin text

/-- A note that is kept does not tell its thread. -/
theorem oblivious_note (level : Level) (origin : Origin) (text : String) : Oblivious (note level origin text) := by
  intro world thread threads hquiet
  by_cases hlevel : Level.warn.rank ≤ level.rank
  · have hseen : (world.seenFrom thread threads).IsQuiet := hquiet
    rw [note_of_quiet hquiet hlevel, note_of_quiet hseen hlevel]
    exact agree_of_quiet hquiet thread threads
  · have hline (time : String) (number : Nat) :
        LogRecord.line time { level, origin, thread := number, text } =
          LogRecord.line time { level, origin, text } := by
      have hdebug : ¬ Level.debug.rank ≤ level.rank := fun h => hlevel (Nat.le_trans (by decide) h)
      simp only [LogRecord.line, if_neg hdebug]
    have hlog : (world.seenFrom thread threads).log = world.log := rfl
    rw [note, Run.get_bind, Run.get_bind, hlog]
    simp only [hline]
    cases world.log with
    | none => exact agree_of_quiet hquiet thread threads
    | some target =>
      dsimp only
      split
      · exact oblivious_say _ _ world thread threads hquiet
      · exact agree_of_quiet hquiet thread threads

end World

namespace Builtin

/-! ### Work -/

/-- Work that is oblivious, whether it fails or not. -/
def ObliviousWork {α : Type} (work : ExceptT Failure Run α) : Prop := Oblivious work.run

namespace ObliviousWork

variable {α γ : Type} {work : ExceptT Failure Run α}

theorem pure (a : α) : ObliviousWork (Pure.pure a : ExceptT Failure Run α) := Oblivious.pure (Except.ok a)

theorem throw (failure : Failure) : ObliviousWork (throw failure : ExceptT Failure Run α) :=
  Oblivious.pure (Except.error failure)

theorem bind (h : ObliviousWork work) {f : α → ExceptT Failure Run γ} (hf : ∀ a, ObliviousWork (f a)) :
    ObliviousWork (work >>= f) := by
  change Oblivious (work.run >>= ExceptT.bindCont f)
  refine Oblivious.bind h fun result => ?_
  cases result with
  | ok a => exact hf a
  | error failure => exact Oblivious.pure _

theorem lift {op : Run α} (h : Oblivious op) : ObliviousWork (liftM op : ExceptT Failure Run α) := h.map Except.ok

theorem get_bind {f : World → ExceptT Failure Run γ}
    (h : ∀ world thread threads, world.IsQuiet →
      Agree ((f world).run world) ((f (world.seenFrom thread threads)).run (world.seenFrom thread threads))) :
    ObliviousWork ((getThe World : ExceptT Failure Run World) >>= f) := h

theorem look {f : World → ExceptT Failure Run γ}
    (hsame : ∀ world thread threads, f (world.seenFrom thread threads) = f world)
    (h : ∀ world, ObliviousWork (f world)) : ObliviousWork ((getThe World : ExceptT Failure Run World) >>= f) :=
  get_bind fun world thread threads hquiet => by
    rw [hsame]
    exact h world world thread threads hquiet

theorem foldlM {f : γ → α → ExceptT Failure Run γ} (h : ∀ c a, ObliviousWork (f c a)) (as : List α) (c : γ) :
    ObliviousWork (as.foldlM f c) := by
  induction as generalizing c with
  | nil => exact pure c
  | cons a as ih => exact (h c a).bind ih

theorem forM {f : α → ExceptT Failure Run PUnit} (h : ∀ a, ObliviousWork (f a)) (as : List α) :
    ObliviousWork (as.forM f) := by
  induction as with
  | nil => exact pure _
  | cons a as ih => exact (h a).bind fun _ => ih

end ObliviousWork

theorem obliviousWork_put (id : Nat) (text : String) : ObliviousWork (put id text) := by
  refine (ObliviousWork.lift (World.oblivious_write id (Text.encode text))).bind fun result => ?_
  split
  · exact .pure _
  · exact .throw _

/-- A command that reads its arguments by a grammar is oblivious if its work is. -/
theorem oblivious_ofGrammar {grammar : Grammar} {work : Arguments → Context → Work}
    (h : ∀ args context, ObliviousWork (work args context)) (args : List String) (context : Context) :
    Oblivious (ofGrammar grammar work args context) := by
  unfold ofGrammar
  split
  · exact (World.oblivious_say _ _).bind fun _ => .pure _
  · exact (World.oblivious_say _ _).bind fun _ => .pure _
  · next a _ =>
    refine Oblivious.bind (h a context) fun result => ?_
    split
    · exact .pure _
    · exact (World.oblivious_note _ _ _).bind fun _ => (World.oblivious_say _ _).bind fun _ => .pure _

/-! ### The built-in commands -/

theorem oblivious_echo (args : List String) (context : Context) : Oblivious (echo args context) := by
  refine Oblivious.bind (World.oblivious_write _ _) fun result => ?_
  split
  · exact .pure _
  · exact (World.oblivious_say _ _).bind fun _ => .pure _

theorem oblivious_pwd (args : List String) (context : Context) : Oblivious (pwd args context) := by
  refine oblivious_ofGrammar (fun _ context => .look (fun _ _ _ => rfl) fun world => ?_) args context
  split
  · exact .throw _
  · exact (obliviousWork_put _ _).bind fun _ => .pure _

theorem oblivious_cd (args : List String) (context : Context) : Oblivious (cd args context) := by
  refine oblivious_ofGrammar (fun args _ => .get_bind fun world thread threads hquiet => ?_) args context
  have hsame : directoryFor (world.seenFrom thread threads) = directoryFor world := rfl
  rw [hsame]
  split
  · exact agree_of_quiet hquiet thread threads
  · exact ⟨hquiet, rfl, thread, threads, rfl⟩

theorem oblivious_type (args : List String) (context : Context) : Oblivious (type args context) := by
  refine oblivious_ofGrammar (fun args context => ?_) args context
  split
  · exact (obliviousWork_put _ _).bind fun _ => .pure _
  · exact ObliviousWork.foldlM (fun status name => .look (fun _ _ _ => rfl) fun world =>
      (obliviousWork_put _ _).bind fun _ => .pure _) _ _

theorem oblivious_exit (args : List String) (context : Context) : Oblivious (exit args context) := by
  refine oblivious_ofGrammar (fun args context => ?_) args context
  have hleave (status : Int) : ObliviousWork (do
      modify fun (world : World) => { world with exitRequest := some status }
      return status) :=
    fun world thread threads hquiet => ⟨hquiet, rfl, thread, threads, rfl⟩
  split
  · exact hleave _
  · split
    · exact hleave _
    · exact (obliviousWork_put _ _).bind fun _ => hleave _

theorem obliviousWork_readHistory (path : String) : ObliviousWork (readHistory path) := by
  refine .get_bind fun world thread threads hquiet => ?_
  simp only [World.files_seenFrom, World.cwd_seenFrom, World.history_seenFrom]
  by_cases hfile : world.files.exists? world.cwd path = true
  · simp only [hfile, Bool.not_true, Bool.false_eq_true, if_false]
    cases world.history.load world.files world.cwd path with
    | error failure => exact agree_of_quiet hquiet thread threads
    | ok loaded => exact ⟨hquiet, rfl, thread, threads, rfl⟩
  · simp only [Bool.eq_false_iff.2 hfile, Bool.not_false, if_true]
    exact agree_of_quiet hquiet thread threads

theorem obliviousWork_writeHistory (path : String) : ObliviousWork (writeHistory path) := by
  refine .get_bind fun world thread threads hquiet => ?_
  simp only [World.files_seenFrom, World.cwd_seenFrom, World.history_seenFrom]
  cases world.history.save world.files world.cwd path with | mk result files
  cases result <;> exact ⟨hquiet, rfl, thread, threads, rfl⟩

theorem obliviousWork_appendHistory (path : String) : ObliviousWork (appendHistory path) := by
  refine .get_bind fun world thread threads hquiet => ?_
  simp only [World.files_seenFrom, World.cwd_seenFrom, World.history_seenFrom]
  cases world.history.append world.files world.cwd path with | mk result files
  cases result <;> exact ⟨hquiet, rfl, thread, threads, rfl⟩

theorem obliviousWork_showHistory (limit : Option Nat) (context : Context) :
    ObliviousWork (showHistory limit context) :=
  .look (fun _ _ _ => rfl) fun _ => (ObliviousWork.forM (fun _ => obliviousWork_put _ _) _).bind fun _ => .pure _

theorem oblivious_history (args : List String) (context : Context) : Oblivious (history args context) := by
  refine oblivious_ofGrammar (fun args context => ?_) args context
  split
  · exact obliviousWork_readHistory _
  · exact obliviousWork_writeHistory _
  · exact obliviousWork_appendHistory _
  · exact obliviousWork_showHistory _ _

end Builtin

/-- No command of a shell can tell on which thread it runs. -/
def Shell.IsOblivious (shell : Shell) : Prop :=
  ∀ name command, shell.commands.get? name = some command → ∀ args context, Oblivious (command args context)

theorem Shell.isOblivious_defaults {shell : Shell} (h : shell.commands = .ofList Builtin.defaults) :
    shell.IsOblivious := by
  intro name command hcommand args context
  have hdefault := Registry.mem_of_get?_ofList (h ▸ hcommand)
  simp only [Builtin.defaults, List.mem_cons, Prod.mk.injEq, List.not_mem_nil, or_false] at hdefault
  obtain ⟨rfl, rfl⟩ | ⟨rfl, rfl⟩ | ⟨rfl, rfl⟩ | ⟨rfl, rfl⟩ | ⟨rfl, rfl⟩ | ⟨rfl, rfl⟩ := hdefault
  · exact Builtin.oblivious_echo args context
  · exact Builtin.oblivious_cd args context
  · exact Builtin.oblivious_pwd args context
  · exact Builtin.oblivious_type args context
  · exact Builtin.oblivious_exit args context
  · exact Builtin.oblivious_history args context

end LineShell
