import LineShell.Proofs.Guards

/-!
# Where built-in commands write

The built-in commands write to the streams of their context and to no others. Only `history` writes to a file,
when it is asked to; then the file may be one that somebody has open.

## The model

`SafeWork` is `Safe` for work that may fail. The commands are gone through one by one.
-/

namespace LineShell.Builtin

open Script (Seal)

variable {σ : Seal} {s : Nat}

/-! ### Work -/

section

variable {α γ : Type} {work : ExceptT Failure Run α}

/-- Work that leaves the stream alone, whether it fails or not. -/
def SafeWork (σ : Seal) (s : Nat) (work : ExceptT Failure Run α) : Prop := Safe σ s work.run

namespace SafeWork

theorem pure (a : α) : SafeWork σ s (Pure.pure a : ExceptT Failure Run α) := Safe.pure trivial

theorem throw (failure : Failure) : SafeWork σ s (throw failure : ExceptT Failure Run α) := Safe.pure trivial

theorem bind (h : SafeWork σ s work) {f : α → ExceptT Failure Run γ} (hf : ∀ a, SafeWork σ s (f a)) :
    SafeWork σ s (work >>= f) := by
  change Safe σ s (work.run >>= ExceptT.bindCont f)
  refine Safe.bind h fun result _ => ?_
  cases result with
  | ok a => exact hf a
  | error failure => exact Safe.pure trivial

theorem lift {op : Run α} (h : Safe σ s op) : SafeWork σ s (liftM op : ExceptT Failure Run α) :=
  fun world hg => ⟨(h world hg).1, trivial⟩

theorem get_bind {f : World → ExceptT Failure Run γ} (h : ∀ world, SafeFrom σ s world (f world).run) :
    SafeWork σ s ((getThe World : ExceptT Failure Run World) >>= f) :=
  h

theorem foldlM {f : γ → α → ExceptT Failure Run γ} (h : ∀ c a, SafeWork σ s (f c a)) (as : List α) (c : γ) :
    SafeWork σ s (as.foldlM f c) := by
  induction as generalizing c with
  | nil => exact SafeWork.pure c
  | cons a as ih => exact (h c a).bind ih

theorem forM {f : α → ExceptT Failure Run PUnit} (h : ∀ a, SafeWork σ s (f a)) (as : List α) :
    SafeWork σ s (as.forM f) := by
  induction as with
  | nil => exact SafeWork.pure _
  | cons a as ih => exact (h a).bind fun _ => ih

end SafeWork

end

theorem safe_put {id : Nat} (hid : id ≠ s) (text : String) : SafeWork σ s (put id text) := by
  refine (SafeWork.lift (World.print_safe hid text)).bind fun result => ?_
  split
  · exact SafeWork.pure _
  · exact SafeWork.throw _

theorem safe_readHistory (path : String) : SafeWork σ s (readHistory path) := by
  refine SafeWork.get_bind fun world => ?_
  dsimp only
  split
  · exact fun hg => ⟨.refl hg, trivial⟩
  · split
    · exact SafeWork.throw _ world
    · exact fun hg => ⟨hg.spared_of_machine hg.machine.refl hg.tasks rfl rfl rfl, trivial⟩

section

variable {args : List String} {context : Context} (hstdout : context.streams.stdout ≠ s)
  (hstderr : context.streams.stderr ≠ s)

include hstdout hstderr

/-- A command that reads its arguments by a grammar leaves the stream alone if its work does. -/
theorem safe_ofGrammar {grammar : Grammar} {work : Arguments → Context → Work}
    (h : ∀ a, grammar.read args = .ok a → SafeWork σ s (work a context)) :
    Safe σ s (ofGrammar grammar work args context) := by
  unfold ofGrammar
  split
  · exact (World.say_safe hstdout _).bind fun _ _ => .pure trivial
  · exact (World.say_safe hstderr _).bind fun _ _ => .pure trivial
  · next a ha =>
    refine Safe.bind (h a ha) fun result _ => ?_
    split
    · exact .pure trivial
    · exact (World.note_safe _ _ _).bind fun _ _ => (World.say_safe hstderr _).bind fun _ _ => .pure trivial

/-! ### The built-in commands -/

theorem safe_echo : Safe σ s (echo args context) := by
  refine Safe.bind (World.print_safe hstdout _) fun result _ => ?_
  split
  · exact .pure trivial
  · exact (World.say_safe hstderr _).bind fun _ _ => .pure trivial

theorem safe_pwd : Safe σ s (pwd args context) := by
  refine safe_ofGrammar hstdout hstderr fun _ _ => SafeWork.get_bind fun world => ?_
  split
  · exact SafeWork.throw _ world
  · exact ((safe_put hstdout _).bind fun _ => SafeWork.pure _) world

theorem safe_cd : Safe σ s (cd args context) := by
  refine safe_ofGrammar hstdout hstderr fun _ _ => SafeWork.get_bind fun world => ?_
  split
  · exact SafeWork.throw _ world
  · exact fun hg => ⟨hg.spared_of_machine hg.machine.refl hg.tasks rfl rfl rfl, trivial⟩

theorem safe_type : Safe σ s (type args context) := by
  refine safe_ofGrammar hstdout hstderr fun _ _ => ?_
  split
  · exact (safe_put hstderr _).bind fun _ => SafeWork.pure _
  · exact SafeWork.foldlM (fun status name => SafeWork.get_bind fun world =>
      ((safe_put hstdout _).bind fun _ => SafeWork.pure _) world) _ _

theorem safe_exit : Safe σ s (exit args context) := by
  refine safe_ofGrammar hstdout hstderr fun _ _ => ?_
  have hleave (status : Int) : SafeWork σ s (do
      modify fun (world : World) => { world with exitRequest := some status }
      return status) :=
    fun world hg => ⟨hg.spared_of_machine hg.machine.refl hg.tasks rfl rfl rfl, trivial⟩
  split
  · exact hleave _
  · split
    · exact hleave _
    · exact (safe_put hstderr _).bind fun _ => hleave _

/-- These arguments ask `history` to write a file. -/
def asksToWrite (args : List String) : Bool :=
  match historyGrammar.read args with
  | .ok args => (args.value? "write").isSome || (args.value? "append").isSome
  | .error _ => false

theorem safe_history (h : asksToWrite args = false) : Safe σ s (history args context) := by
  refine safe_ofGrammar hstdout hstderr fun a ha => ?_
  rw [asksToWrite, ha, Bool.or_eq_false_iff] at h
  split
  · exact safe_readHistory _
  · next hwrite => simp [hwrite] at h
  · next happend => simp [happend] at h
  · refine SafeWork.get_bind fun world => ?_
    exact (SafeWork.forM (fun _ => safe_put hstdout _) _).bind (fun _ => SafeWork.pure _) world

/-- The built-in commands write only to the streams that they are given, unless `history` is asked to write a
file. -/
theorem safe_of_mem_defaults {name : String} {command : Builtin} (hcommand : (name, command) ∈ defaults)
    (h : name = "history" → asksToWrite args = false) : Safe σ s (command args context) := by
  simp only [defaults, List.mem_cons, Prod.mk.injEq, List.not_mem_nil, or_false] at hcommand
  obtain ⟨rfl, rfl⟩ | ⟨rfl, rfl⟩ | ⟨rfl, rfl⟩ | ⟨rfl, rfl⟩ | ⟨rfl, rfl⟩ | ⟨rfl, rfl⟩ := hcommand
  · exact safe_echo hstdout hstderr
  · exact safe_cd hstdout hstderr
  · exact safe_pwd hstdout hstderr
  · exact safe_type hstdout hstderr
  · exact safe_exit hstdout hstderr
  · exact safe_history hstdout hstderr (h rfl)

end

end LineShell.Builtin
