import LineShell.Proofs.RedirectionOwners
import LineShell.Proofs.Seals

/-!
# Streams that are left alone

An output stream stays as it is as long as everything is done on other streams and the file behind it, if there
is one, is sealed. What was written to it before may still be in its buffer, and may be delivered.

## The model

A stream is `Guarded` in a world if the file behind it is its own: no other stream, no log, no program and no
work that is going on has to do with it. An operation is `Safe` if it leaves a guarded stream guarded, and
`Untouched` but for a delivery of its buffer. There is one lemma for each operation that redirections, programs
and pipelines are made of, and most of them ask that the operation is not about this very stream.
-/

namespace LineShell

open Script (Descriptor Machine Process Schedule Seal)

/-! ### Guarded streams -/

namespace Sink

/-- What stands behind the stream is sealed. -/
def Within (σ : Seal) : Sink → Prop
  | .memory _ relay => ∀ r ∈ relay, r.node = σ.node
  | .inherited file _ | .opened file _ => σ.files file

/-- What stands behind the stream has nothing to do with a seal. -/
def Avoids (σ : Seal) : Sink → Prop
  | .memory _ relay => ∀ r ∈ relay, σ.Avoids r.node ∧ ¬ σ.files r.file
  | .inherited file _ | .opened file _ => ¬ σ.files file

end Sink

/-- What stands behind the stream has nothing to do with a seal. -/
def Source.Avoids (σ : Seal) : Source → Prop
  | .memory _ => True
  | .inherited _ file => ¬ σ.files file

namespace World

/-- The file behind an output stream is its own. -/
structure Guarded (σ : Seal) (s : Nat) (world : World) : Prop where
  /-- The file is sealed, -/
  machine : σ.Holds world.machine
  /-- also for the work that is going on. -/
  tasks : σ.ConfinesAll world.tasks
  /-- It is the one behind this stream, -/
  within : ∃ sink, world.sinks[s]? = some sink ∧ sink.Within σ
  /-- behind no other output stream, -/
  sinks : ∀ (id : Nat) sink, id ≠ s → world.sinks[id]? = some sink → sink.Avoids σ
  /-- and behind no input stream. -/
  sources : ∀ (id : Nat) source, world.sources[id]? = some source → source.Avoids σ
  /-- Log records go elsewhere. -/
  log : ∀ target ∈ world.log, target.sink ≠ s

/-- An output stream is the same in two worlds, and so is the file behind it. -/
structure Untouched (σ : Seal) (s : Nat) (world after : World) : Prop where
  /-- The stream. -/
  sink : after.sinks[s]? = world.sinks[s]?
  /-- The file. -/
  machine : σ.Same world.machine after.machine

/-- The world after what is in the buffer of an output stream was written. -/
def delivered (world : World) (s : Nat) : World :=
  match world.sinks[s]? with
  | some (.inherited file (some buffer)) =>
    (writeFile file buffer (world.setSink s (.inherited file (some [])))).2
  | _ => world

/-- An output stream is the same in two worlds, but for a delivery, and is guarded still. -/
structure Spared (σ : Seal) (s : Nat) (world after : World) : Prop where
  /-- The stream is guarded. -/
  guarded : after.Guarded σ s
  /-- Nothing was added to it. -/
  settled : Untouched σ s world after ∨ Untouched σ s (world.delivered s) after

variable {σ : Seal} {s : Nat} {world mid after : World}

theorem Untouched.refl (σ : Seal) (s : Nat) (world : World) : Untouched σ s world world := ⟨rfl, .refl σ _⟩

theorem Untouched.trans (h : Untouched σ s world mid) (h' : Untouched σ s mid after) : Untouched σ s world after :=
  ⟨h'.sink.trans h.sink, h.machine.trans h'.machine⟩

/-! ### Deliveries -/

namespace Guarded

theorem files_of_inherited (h : world.Guarded σ s) {file : Nat} {buffer : Option Bytes}
    (hsink : world.sinks[s]? = some (.inherited file buffer)) : σ.files file := by
  obtain ⟨sink, hsome, hwithin⟩ := h.within
  cases hsink.symm.trans hsome
  exact hwithin

theorem lt (h : world.Guarded σ s) : s < world.sinks.size := by
  obtain ⟨sink, hsome, -⟩ := h.within
  exact (Array.getElem?_eq_some_iff.1 hsome).1

end Guarded

theorem delivered_of_buffer {file : Nat} {buffer : Bytes}
    (hsink : world.sinks[s]? = some (.inherited file (some buffer))) :
    world.delivered s = (writeFile file buffer (world.setSink s (.inherited file (some [])))).2 := by
  rw [delivered, hsink]

theorem delivered_of_no_buffer (h : ∀ file buffer, world.sinks[s]? ≠ some (.inherited file (some buffer))) :
    world.delivered s = world := by
  unfold delivered
  split
  · next hsink => exact absurd hsink (h _ _)
  · rfl

theorem getElem?_setSink_self {sink : Sink} (hsink : world.sinks[s]? = some sink) (sink' : Sink) :
    (world.setSink s sink').sinks[s]? = some sink' := by
  rw [setSink, Array.getElem?_setIfInBounds, if_pos rfl, if_pos (Array.getElem?_eq_some_iff.1 hsink).1]

/-- What is written to the file depends on nothing but the file. -/
theorem same_writeFile {file : Nat} (hfile : σ.files file) (h : σ.Holds world.machine)
    (hsame : σ.Same world.machine after.machine) (bs : Bytes) :
    σ.Same (writeFile file bs world).2.machine (writeFile file bs after).2.machine := by
  obtain ⟨-, handle, hhandle, hnode⟩ := h.known file hfile
  rw [writeFile_of_handle hhandle, writeFile_of_handle ((hsame.handles file hfile).trans hhandle)]
  obtain ⟨cause, hwrite, hwrite'⟩ | ⟨handle', files, files', hwrite, hwrite', hfiles⟩ :=
    FileSystem.write_congr (show after.files.node? handle.node = world.files.node? handle.node from
      hnode.symm ▸ hsame.node) bs
  · rw [hwrite, hwrite']
    exact hsame
  · rw [hwrite, hwrite']
    refine ⟨hnode ▸ hfiles, fun n hn => ?_⟩
    simp only [Script.Machine.setHandle, Std.TreeMap.getElem?_insert]
    split
    · rfl
    · exact hsame.handles n hn

/-- What is delivered depends on nothing but the stream and its file. -/
theorem untouched_delivered (h : world.Guarded σ s) (hu : Untouched σ s world after) :
    Untouched σ s (world.delivered s) (after.delivered s) := by
  by_cases hbuffer : ∃ file buffer, world.sinks[s]? = some (.inherited file (some buffer))
  · obtain ⟨file, buffer, hsink⟩ := hbuffer
    have hsink' := hu.sink.trans hsink
    rw [delivered_of_buffer hsink, delivered_of_buffer hsink']
    have hholds : σ.Holds (world.setSink s (.inherited file (some []))).machine := h.machine
    have hsame : σ.Same (world.setSink s (.inherited file (some []))).machine
        (after.setSink s (.inherited file (some []))).machine := hu.machine
    refine ⟨?_, same_writeFile (h.files_of_inherited hsink) hholds hsame buffer⟩
    rw [writeFile_sinks, writeFile_sinks, getElem?_setSink_self hsink, getElem?_setSink_self hsink']
  · have hno : ∀ file buffer, world.sinks[s]? ≠ some (.inherited file (some buffer)) :=
      fun file buffer hsink => hbuffer ⟨file, buffer, hsink⟩
    rw [delivered_of_no_buffer hno, delivered_of_no_buffer (hu.sink ▸ hno)]
    exact hu

/-- Nothing comes of a write of nothing. -/
theorem same_writeFile_nil (file : Nat) (world : World) :
    σ.Same world.machine (writeFile file [] world).2.machine := by
  obtain hsame | ⟨handle, handle', files, hhandle, hwrite, hwritten⟩ := writeFile_cases file [] world
  · rw [hsame]
    exact .refl σ _
  · cases hwrite
    rw [hwritten]
    refine ⟨rfl, fun n _ => ?_⟩
    simp only [Script.Machine.setHandle, Std.TreeMap.getElem?_insert]
    split
    · next heq => rw [← Std.LawfulEqCmp.compare_eq_iff_eq.1 heq, hhandle]
    · rfl

/-- There is nothing to deliver twice. -/
theorem untouched_delivered_delivered (s : Nat) (world : World) :
    Untouched σ s (world.delivered s) ((world.delivered s).delivered s) := by
  by_cases hbuffer : ∃ file buffer, world.sinks[s]? = some (.inherited file (some buffer))
  · obtain ⟨file, buffer, hsink⟩ := hbuffer
    have hempty : (world.delivered s).sinks[s]? = some (.inherited file (some [])) := by
      rw [delivered_of_buffer hsink, writeFile_sinks, getElem?_setSink_self hsink]
    rw [delivered_of_buffer hempty]
    refine ⟨?_, same_writeFile_nil file ((world.delivered s).setSink s (.inherited file (some [])))⟩
    rw [writeFile_sinks, getElem?_setSink_self hempty, hempty]
  · have hno : ∀ file buffer, world.sinks[s]? ≠ some (.inherited file (some buffer)) :=
      fun file buffer hsink => hbuffer ⟨file, buffer, hsink⟩
    rw [delivered_of_no_buffer hno, delivered_of_no_buffer hno]
    exact .refl σ s world

/-- The seal holds also after something was written to the file itself. -/
theorem holds_writeFile {file : Nat} (hfile : σ.files file) (h : σ.Holds world.machine) (bs : Bytes) :
    σ.Holds (writeFile file bs world).2.machine := by
  obtain hsame | ⟨handle, handle', files, hhandle, hwrite, hwritten⟩ := writeFile_cases file bs world
  · rwa [hsame]
  · obtain ⟨-, other, hother, hnode⟩ := h.known file hfile
    cases hhandle.symm.trans hother
    obtain ⟨hnode', hfiles⟩ := FileSystem.write_cases hwrite
    rw [hwritten]
    have hget (n : Nat) : ({ world.machine with files }.setHandle file handle').handles[n]? =
        if file = n then some handle' else world.machine.handles[n]? :=
      (Std.TreeMap.getElem?_insert ..).trans (by simp only [Std.LawfulEqCmp.compare_eq_iff_eq])
    refine ⟨?_, fun n other hn hfiles => ?_, fun n hn => ?_, h.kept, h.fresh⟩
    · obtain rfl | ⟨content, -, hcontent, hplain⟩ := hfiles
      · exact h.there
      · exact ⟨content, hnode ▸ hcontent, hplain⟩
    · rw [hget, if_neg fun heq : file = n => hfiles (heq ▸ hfile)] at hn
      exact h.leads n other hn hfiles
    · obtain ⟨hlt, hhandle⟩ := h.known n hn
      refine ⟨Nat.lt_of_lt_of_le hlt Std.TreeMap.size_le_size_insert, ?_⟩
      rw [hget]
      split
      · exact ⟨handle', rfl, hnode'.trans hnode⟩
      · exact hhandle

/-- A write to an open file changes nothing but the machine. -/
theorem writeFile_eq (file : Nat) (bs : Bytes) (world : World) :
    (writeFile file bs world).2 = { world with machine := (writeFile file bs world).2.machine } := by
  obtain hsame | ⟨_, _, _, -, -, hwritten⟩ := writeFile_cases file bs world
  · rw [hsame]
  · rw [hwritten]

theorem guarded_delivered (h : world.Guarded σ s) : (world.delivered s).Guarded σ s := by
  unfold delivered
  split
  · next file buffer hsink =>
    have hfile := h.files_of_inherited hsink
    have hholds := @holds_writeFile _ (world.setSink s (.inherited file (some []))) _ hfile h.machine buffer
    rw [writeFile_eq]
    exact
      { machine := hholds
        tasks := h.tasks
        within := ⟨_, getElem?_setSink_self hsink _, hfile⟩
        sinks := fun id sink hid hsome => h.sinks id sink hid (sinks_setSink (Ne.symm hid) _ ▸ hsome)
        sources := h.sources
        log := h.log }
  · exact h

/-! ### Changes of a world with a guarded stream -/

theorem Spared.refl (h : world.Guarded σ s) : Spared σ s world world := ⟨h, .inl (.refl σ s world)⟩

theorem Spared.trans (hg : world.Guarded σ s) (h : Spared σ s world mid) (h' : Spared σ s mid after) :
    Spared σ s world after := by
  refine ⟨h'.guarded, ?_⟩
  obtain hmid | hmid := h.settled <;> obtain hafter | hafter := h'.settled
  · exact .inl (hmid.trans hafter)
  · exact .inr ((untouched_delivered hg hmid).trans hafter)
  · exact .inr (hmid.trans hafter)
  · -- What the first delivery has left is delivered once more, which is nothing.
    have htwice := (untouched_delivered_delivered s world).trans (untouched_delivered (guarded_delivered hg) hmid)
    exact .inr (htwice.trans hafter)

namespace Guarded

variable (h : world.Guarded σ s)

include h

theorem spared_of_machine (hmachine : σ.Spares world.machine after.machine) (htasks : σ.ConfinesAll after.tasks)
    (hsinks : after.sinks = world.sinks) (hsources : after.sources = world.sources) (hlog : after.log = world.log) :
    Spared σ s world after where
  guarded :=
    { machine := hmachine.holds
      tasks := htasks
      within := hsinks ▸ h.within
      sinks := hsinks ▸ h.sinks
      sources := hsources ▸ h.sources
      log := hlog ▸ h.log }
  settled := .inl ⟨congrArg (·[s]?) hsinks, hmachine.same⟩

theorem spared_machine {machine : Machine} (hmachine : σ.Spares world.machine machine) :
    Spared σ s world { world with machine } :=
  h.spared_of_machine hmachine h.tasks rfl rfl rfl

theorem spared_setSink {id : Nat} (hid : id ≠ s) {sink : Sink} (hsink : sink.Avoids σ) :
    Spared σ s world (world.setSink id sink) := by
  have hsame : (world.setSink id sink).sinks[s]? = world.sinks[s]? := sinks_setSink hid sink
  refine ⟨{ h with
    within := hsame.symm ▸ h.within
    sinks := fun other sink' hother hsome => ?_ }, .inl ⟨hsame, .refl σ _⟩⟩
  rw [setSink, Array.getElem?_setIfInBounds] at hsome
  split at hsome
  · split at hsome
    · cases hsome
      exact hsink
    · cases hsome
  · exact h.sinks other sink' hother hsome

theorem spared_setSource (id : Nat) {source : Source} (hsource : source.Avoids σ) :
    Spared σ s world (world.setSource id source) := by
  refine ⟨{ h with sources := fun other source' hsome => ?_ }, .inl ⟨rfl, .refl σ _⟩⟩
  rw [setSource, Array.getElem?_setIfInBounds] at hsome
  split at hsome
  · split at hsome
    · cases hsome
      exact hsource
    · cases hsome
  · exact h.sources other source' hsome

end Guarded

end World

/-! ### Safe operations -/

section

variable {α β : Type} {σ : Seal} {s : Nat} {world : World} {op : Run α} {Q : α → Prop}

/-- Run in this world, the operation leaves the stream alone if it is guarded, and its result is as wanted. -/
def SafeFrom (σ : Seal) (s : Nat) (world : World) (op : Run α) (Q : α → Prop := fun _ => True) : Prop :=
  world.Guarded σ s → World.Spared σ s world (op world).2 ∧ Q (op world).1

/-- In whatever world the operation is run, it leaves the stream alone if it is guarded. -/
def Safe (σ : Seal) (s : Nat) (op : Run α) (Q : α → Prop := fun _ => True) : Prop :=
  ∀ world, SafeFrom σ s world op Q

/-- What is done in a world with a guarded stream. -/
theorem SafeFrom.of_guarded (h : world.Guarded σ s → SafeFrom σ s world op Q) : SafeFrom σ s world op Q :=
  fun hg => h hg hg

theorem SafeFrom.pure {a : α} (h : Q a) : SafeFrom σ s world (Pure.pure a : Run α) Q := fun hg => ⟨.refl hg, h⟩

theorem SafeFrom.get_bind {f : World → Run α} (h : SafeFrom σ s world (f world) Q) :
    SafeFrom σ s world ((get : Run World) >>= f) Q := h

theorem SafeFrom.bind (h : SafeFrom σ s world op Q) {f : α → Run β} {R : β → Prop}
    (hf : Q (op world).1 → SafeFrom σ s (op world).2 (f (op world).1) R) : SafeFrom σ s world (op >>= f) R := by
  intro hg
  obtain ⟨hspared, hQ⟩ := h hg
  obtain ⟨hspared', hR⟩ := hf hQ hspared.guarded
  exact ⟨hspared.trans hg hspared', hR⟩

namespace Safe

theorem pure {a : α} (h : Q a) : Safe σ s (Pure.pure a : Run α) Q := fun _ => .pure h

theorem bind (h : Safe σ s op Q) {f : α → Run β} {R : β → Prop} (hf : ∀ a, Q a → Safe σ s (f a) R) :
    Safe σ s (op >>= f) R :=
  fun world => (h world).bind fun hQ => hf _ hQ _

/-- An operation that begins by looking at the world. -/
theorem get_bind {f : World → Run α} (h : ∀ world, SafeFrom σ s world (f world) Q) :
    Safe σ s ((get : Run World) >>= f) Q := h

theorem discard (h : Safe σ s op) : Safe σ s (discard op) := fun world hg => ⟨(h world hg).1, trivial⟩

theorem modify {f : World → World} (h : ∀ world, world.Guarded σ s → World.Spared σ s world (f world)) :
    Safe σ s (modify f : Run PUnit) :=
  fun world hg => ⟨h world hg, trivial⟩

theorem forM {f : α → Run PUnit} {as : List α} (h : ∀ a ∈ as, Safe σ s (f a)) : Safe σ s (as.forM f) := by
  induction as with
  | nil => exact pure trivial
  | cons a as ih => exact bind (h a List.mem_cons_self) fun _ _ => ih fun b hb => h b (List.mem_cons_of_mem _ hb)

theorem mapM {f : α → Run β} (h : ∀ a, Safe σ s (f a)) (as : List α) : Safe σ s (as.mapM f) := by
  induction as with
  | nil => exact pure trivial
  | cons a as ih =>
    rw [List.mapM_cons]
    exact bind (h a) fun _ _ => bind ih fun _ _ => pure trivial

end Safe

/-- An operation that changes the world and goes on. -/
theorem SafeFrom.set_bind {world' : World} (h : world.Guarded σ s → World.Spared σ s world world')
    {f : PUnit → Run α} (hf : Safe σ s (f ⟨⟩) Q) : SafeFrom σ s world (set world' >>= f) Q := fun hg =>
  have hspared := h hg
  have hrest := hf world' hspared.guarded
  ⟨hspared.trans hg hrest.1, hrest.2⟩

end

namespace World

variable {σ : Seal} {s : Nat}

/-! ### Files and processes -/

theorem modifyShell_safe {f : Process → Process} (hf : ∀ p, (f p).pid = p.pid) : Safe σ s (modifyShell f) :=
  .modify fun _ hg => hg.spared_machine (hg.machine.spares_update fun p => ⟨hf p, .inl σ.shell⟩)

theorem hold_safe (file : Nat) : Safe σ s (hold file) := modifyShell_safe fun _ => rfl

theorem letGo_safe (file : Nat) : Safe σ s (letGo file) :=
  (modifyShell_safe (f := fun p => { p with fds := p.fds.filter (·.2.file ≠ file) }) fun _ => rfl).bind
    fun _ _ => .modify fun _ hg => hg.spared_machine hg.machine.spares_stir

theorem openHandle_safe {handle : Handle} (hnode : σ.Avoids handle.node) :
    Safe σ s (openHandle handle) (¬ σ.files ·) := by
  refine .get_bind fun world => .of_guarded fun hg => ?_
  refine .set_bind (fun _ => hg.spared_machine (hg.machine.spares_opening hnode)) ?_
  exact (hold_safe _).bind fun _ _ => .pure hg.machine.not_files_size

theorem elapse_safe (holds : Machine → Bool) (limit : Option Nat) : Safe σ s (elapse holds limit) :=
  fun _ hg =>
    have ⟨hrun, htasks⟩ := Seal.spares_turns hg.machine hg.tasks (Schedule.reflTransGen_turn_run holds limit _)
    ⟨hg.spared_of_machine hrun htasks rfl rfl rfl, trivial⟩

theorem await_safe (holds : Machine → Bool) : Safe σ s (await holds) :=
  (elapse_safe _ _).bind fun _ _ =>
    .modify fun _ hg => hg.spared_of_machine hg.machine.refl hg.tasks rfl rfl rfl

/-! ### Output -/

theorem newSink_safe {sink : Sink} (hsink : sink.Avoids σ) : Safe σ s (newSink sink) (· ≠ s) := fun world hg => by
  have hsame : (world.sinks.push sink)[s]? = world.sinks[s]? :=
    Array.getElem?_push_lt hg.lt ▸ (Array.getElem?_eq_getElem hg.lt).symm
  refine ⟨⟨{ hg with
    within := hsame.symm ▸ hg.within
    sinks := fun id other hid hsome => ?_ }, .inl ⟨hsame, .refl σ _⟩⟩, (Nat.ne_of_lt hg.lt).symm⟩
  change (world.sinks.push sink)[id]? = some other at hsome
  rw [Array.getElem?_push] at hsome
  split at hsome
  · cases hsome
    exact hsink
  · exact hg.sinks id other hid hsome

theorem writeFile_safe {file : Nat} (hfile : ¬ σ.files file) (bs : Bytes) : Safe σ s (writeFile file bs) := by
  refine fun world hg => ⟨?_, trivial⟩
  obtain hsame | ⟨handle, handle', files, hhandle, hwrite, hwritten⟩ := writeFile_cases file bs world
  · rw [hsame]
    exact .refl hg
  · have havoids := hg.machine.leads file handle hhandle hfile
    have hfiles := hg.machine.spares_files (Seal.node?_write hwrite havoids)
    rw [hwritten]
    exact hg.spared_machine (hfiles.trans
      (hfiles.holds.spares_setHandle hfile ((FileSystem.write_cases hwrite).1 ▸ havoids)))

theorem drainPipe_safe {node : NodeId} (hnode : σ.Avoids node) : Safe σ s (drainPipe node) := by
  refine .get_bind fun world => ?_
  split
  · exact .set_bind (fun hg => hg.spared_machine (hg.machine.spares_files (Seal.node?_set hnode _ _))) (.pure trivial)
  · exact .pure trivial

theorem takeRelayed_safe {relay : Option Relay} (h : ∀ r ∈ relay, σ.Avoids r.node) : Safe σ s (takeRelayed relay) := by
  cases relay with
  | none => exact .pure trivial
  | some relay => exact drainPipe_safe (h relay rfl)

theorem setSink_safe {id : Nat} (hid : id ≠ s) {sink : Sink} (hsink : sink.Avoids σ) :
    Safe σ s (modify (·.setSink id sink)) :=
  .modify fun _ hg => hg.spared_setSink hid hsink

/-- What is written to another stream does not get to this one. -/
theorem write_safe {id : Nat} (hid : id ≠ s) (bs : Bytes) : Safe σ s (write id bs) := by
  refine .get_bind fun world => .of_guarded fun hg => ?_
  split
  · exact .pure trivial
  · split
    · next written relay hsink =>
      have havoids : ∀ r ∈ relay, σ.Avoids r.node ∧ ¬ σ.files r.file := hg.sinks id _ hid hsink
      have htaken := takeRelayed_safe (s := s) fun r hr => (havoids r hr).1
      exact htaken.bind (fun _ _ => (setSink_safe hid (show Sink.Avoids σ (.memory _ relay) from havoids)).bind
        fun _ _ => .pure trivial) world
    · next file hsink => exact writeFile_safe (hg.sinks id _ hid hsink) bs world
    · next file buffer hsink =>
      have hfile : ¬ σ.files file := hg.sinks id _ hid hsink
      exact (setSink_safe hid (show Sink.Avoids σ (.inherited file _) from hfile)).bind
        (fun _ _ => writeFile_safe hfile _) world
    · next file hsink => exact writeFile_safe (hg.sinks id _ hid hsink) bs world
    · exact .pure trivial
    · exact .pure trivial

theorem print_safe {id : Nat} (hid : id ≠ s) (text : String) : Safe σ s (print id text) := write_safe hid _

theorem say_safe {id : Nat} (hid : id ≠ s) (text : String) : Safe σ s (say id text) := (print_safe hid text).discard

/-- A delivery of what was written to the stream before adds nothing to it. -/
theorem flush_safe (id : Nat) : Safe σ s (flush id) := by
  refine .get_bind fun world => .of_guarded fun hg => ?_
  split
  · next file buffer hsink =>
    split
    · exact .pure trivial
    · by_cases hid : id = s
      · -- Nothing else changes the stream itself: this is the delivery that is allowed for.
        subst hid
        refine fun _ => ⟨?_, trivial⟩
        change Spared σ id world (writeFile file buffer (world.setSink id (.inherited file (some [])))).2
        rw [← delivered_of_buffer hsink]
        exact ⟨guarded_delivered hg, .inr (.refl σ id _)⟩
      · have hfile : ¬ σ.files file := hg.sinks id _ hid hsink
        exact (setSink_safe hid (show Sink.Avoids σ (.inherited file _) from hfile)).bind
          (fun _ _ => (writeFile_safe hfile _).discard) world
  · exact .pure trivial

theorem close_safe {id : Nat} (hid : id ≠ s) : Safe σ s (close id) := by
  refine .get_bind fun world => .of_guarded fun hg => ?_
  split
  · next file hsink =>
    have hfile : ¬ σ.files file := hg.sinks id _ hid hsink
    exact (setSink_safe hid (show Sink.Avoids σ (.opened file false) from hfile)).bind (fun _ _ => letGo_safe file) world
  · exact .pure trivial

theorem takeCollected_safe {id : Nat} (hid : id ≠ s) : Safe σ s (takeCollected id) := by
  refine .get_bind fun world => .of_guarded fun hg => ?_
  split
  · next written relay hsink =>
    have havoids : ∀ r ∈ relay, σ.Avoids r.node ∧ ¬ σ.files r.file := hg.sinks id _ hid hsink
    have htaken := takeRelayed_safe (s := s) fun r hr => (havoids r hr).1
    exact htaken.bind (fun _ _ => (setSink_safe hid (show Sink.Avoids σ (.memory _ relay) from havoids)).bind
      fun _ _ => .pure trivial) world
  · exact .pure trivial

theorem note_safe (level : Level) (origin : Origin) (text : String) : Safe σ s (note level origin text) := by
  refine .get_bind fun world => .of_guarded fun hg => ?_
  split
  · exact .pure trivial
  · next target hlog =>
    split
    · exact say_safe (hg.log target hlog) _ world
    · exact .pure trivial

/-! ### Input and threads -/

theorem newSource_safe {source : Source} (hsource : source.Avoids σ) : Safe σ s (newSource source) := fun world hg => by
  refine ⟨⟨{ hg with sources := fun id other hsome => ?_ }, .inl ⟨rfl, .refl σ _⟩⟩, trivial⟩
  change (world.sources.push source)[id]? = some other at hsome
  rw [Array.getElem?_push] at hsome
  split at hsome
  · cases hsome
    exact hsource
  · exact hg.sources id other hsome

/-- What has nothing to do with the machine and the streams. -/
theorem modify_safe {f : World → World} (hmachine : ∀ world, (f world).machine = world.machine)
    (htasks : ∀ world, (f world).tasks = world.tasks) (hsinks : ∀ world, (f world).sinks = world.sinks)
    (hsources : ∀ world, (f world).sources = world.sources) (hlog : ∀ world, (f world).log = world.log) :
    Safe σ s (modify f) :=
  .modify fun world hg => hg.spared_of_machine (hmachine world ▸ hg.machine.refl) (htasks world ▸ hg.tasks)
    (hsinks world) (hsources world) (hlog world)

theorem newThread_safe : Safe σ s newThread :=
  (modify_safe (f := fun world => { world with threads := world.threads + 1 }) (fun _ => rfl) (fun _ => rfl)
    (fun _ => rfl) (fun _ => rfl) fun _ => rfl).bind fun _ _ => .get_bind fun _ => .pure trivial

theorem asThread_safe {α : Type} {op : Run α} {Q : α → Prop} (id : Nat) (h : Safe σ s op Q) :
    Safe σ s (asThread id op) Q := by
  have hthread (id : Nat) : Safe σ s (modify fun world => { world with thread := id }) :=
    modify_safe (fun _ => rfl) (fun _ => rfl) (fun _ => rfl) (fun _ => rfl) fun _ => rfl
  refine .get_bind fun world => ?_
  exact (hthread id).bind (fun _ _ => h.bind fun result hresult => (hthread _).bind fun _ _ => .pure hresult) world

end World

/-! ### Programs -/

namespace Program

variable {σ : Seal} {s : Nat}

/-- Whatever process runs the program, the file is left alone unless the process has it open. -/
def Confined (σ : Seal) (program : Program) : Prop := ∀ pid, ¬ σ.exempt pid → σ.ConfinesTask pid program.life.task

/-- A program is confined if what it does is; there is nothing in how a process ends. -/
theorem confined_of_work {program : Program} (h : ∀ pid, ¬ σ.exempt pid → σ.ConfinesWork pid program) :
    program.Confined σ := by
  intro pid hexempt m hm hpid
  have hend (ending : Script.Ending) : σ.ConfinesTask pid fun m => .finished (m.finish ending) :=
    fun _ hm _ => hm.spares_finish ending
  refine h pid hexempt m hm hpid _ _ hend fun stop => ?_
  cases stop with
  | ended ending => exact hend ending
  | fault | leave | exit => exact hend (.exited 0)

/-- A program is started without the file. -/
theorem start_safe {program : Program} (hprogram : program.Confined σ) {stdin stdout stderr : Nat}
    (hstdin : ¬ σ.files stdin) (hstdout : ¬ σ.files stdout) (hstderr : ¬ σ.files stderr) :
    Safe σ s (program.start stdin stdout stderr) := by
  refine .get_bind fun world => .set_bind (fun hg => ?_) (.pure trivial)
  have hfds : ∀ d ∈ ([(0, { file := stdin }), (1, { file := stdout }), (2, { file := stderr })] :
      List (Nat × Descriptor)), ¬ σ.files d.2.file := by
    simp [hstdin, hstdout, hstderr]
  refine hg.spared_of_machine (hg.machine.spares_starting hfds) (fun t ht => ?_) rfl rfl rfl
  obtain ht | ht := List.mem_append.1 ht
  · exact hg.tasks t ht
  · rw [List.mem_singleton.1 ht]
    exact hprogram _ (hg.machine.fresh _ (Nat.le_refl _))

theorem reap_safe (pid : Nat) : Safe σ s (reap pid) :=
  .get_bind fun world => (Safe.modify fun _ hg => hg.spared_machine (hg.machine.spares_ended _)).bind
    (fun _ _ => .pure trivial) world

theorem statusOf_safe (pid : Nat) : Safe σ s (statusOf pid) := (reap_safe pid).bind fun _ _ => .pure trivial

theorem wait_safe (pid : Nat) : Safe σ s (wait pid) := (World.await_safe _).bind fun _ _ => statusOf_safe pid

theorem signalKill_safe (pid : Nat) : Safe σ s (signalKill pid) :=
  .modify fun _ hg => hg.spared_machine (hg.machine.spares_send _ _)

end Program

/-! ### Workers -/

namespace Worker

variable {σ : Seal} {s : Nat}

/-- What is copied for a program does not get to the stream. -/
theorem startFeed_safe (bs : Bytes) (source : Option Nat) : Safe σ s (startFeed bs source) (¬ σ.files ·.1) := by
  refine .get_bind fun world => .of_guarded fun hg => ?_
  obtain ⟨hspares, hreading, hwriting⟩ := hg.machine.spares_newPipe {}
  refine .set_bind (fun _ => ?_) ((World.hold_safe _).bind fun _ _ => .pure hreading)
  refine hg.spared_of_machine (hspares.trans (hspares.holds.spares_supplies _)) (fun t ht => ?_) rfl rfl rfl
  obtain ht | ht := List.mem_append.1 ht
  · exact hg.tasks t ht
  · rw [List.mem_singleton.1 ht]
    exact (Seal.confines_copySupply _ hwriting _).task

theorem finish_safe (worker : Worker) : Safe σ s worker.finish := by
  cases worker with
  | collect node => exact .pure trivial
  | feed file source =>
    refine .get_bind fun world => .of_guarded fun hg => ?_
    have hspared := hg.spared_machine (hg.machine.spares_supplies (world.machine.supplies.filter (·.1 ≠ file)))
    cases source with
    | none => exact fun _ => ⟨hspared, trivial⟩
    | some id =>
      have hmemory (rest : Bytes) : Source.Avoids σ (.memory rest) := trivial
      exact fun _ => ⟨hspared.trans hg (hspared.guarded.spared_setSource id (hmemory _)), trivial⟩

theorem join_safe (worker : Worker) : Safe σ s worker.join :=
  (World.await_safe _).bind fun _ _ => worker.finish_safe

end Worker

namespace World

variable {σ : Seal} {s : Nat}

/-- Programs that write for another stream do not get the file. -/
theorem outputFor_safe {id : Nat} (hid : id ≠ s) : Safe σ s (outputFor id) (¬ σ.files ·.1) := by
  refine .get_bind fun world => .of_guarded fun hg => ?_
  split
  · next hsink => exact .pure (hg.sinks id _ hid hsink)
  · next hsink => exact .pure (hg.sinks id _ hid hsink)
  · next relay hsink =>
    have havoids : ∀ r ∈ some relay, σ.Avoids r.node ∧ ¬ σ.files r.file := hg.sinks id _ hid hsink
    exact .pure (havoids relay rfl).2
  · next sink _ _ _ =>
    obtain ⟨hspares, -, hfile⟩ := hg.machine.spares_newPipe (.unbounded [])
    have hnode := hg.machine.avoids_newPipe
    refine .set_bind (fun _ => hg.spared_machine hspares) ((hold_safe _).bind fun _ _ => ?_)
    split
    · refine (setSink_safe hid ?_).bind fun _ _ => .pure hfile
      rintro _ ⟨⟩
      exact ⟨hnode, hfile⟩
    · exact .pure hfile

theorem emptyInput_safe : Safe σ s emptyInput (¬ σ.files ·) := by
  refine .get_bind fun world => .of_guarded fun hg => .set_bind (fun _ => ?_) (.pure hg.machine.not_files_size)
  have hnull : σ.Avoids .null := (em (σ.node = .null)).symm.imp_left fun hne heq => hne heq.symm
  exact hg.spared_machine (hg.machine.spares_opening hnull)

theorem inputFor_safe (id : Nat) : Safe σ s (inputFor id) (¬ σ.files ·.1) := by
  refine .get_bind fun world => .of_guarded fun hg => ?_
  split
  · next hsource => exact .pure (hg.sources id _ hsource)
  · refine .set_bind (fun hg => hg.spared_setSource id (show Source.Avoids σ (.memory _) from trivial)) ?_
    exact (Worker.startFeed_safe _ _).bind fun _ hfile => .pure hfile
  · exact (emptyInput_safe.bind fun _ hfile => .pure hfile) world

end World

/-! ### Redirections -/

namespace Target

/-- The file that a target opens, if it can be opened. -/
def node? (target : Target) (world : World) : Option NodeId :=
  match (target.openIn world.files world.cwd).1 with
  | .ok handle => some handle.node
  | .error _ => none

/-- What is no directory stays as it is when another file is opened. -/
theorem node?_openIn {fs : FileSystem} {id : NodeId} {content : Node} (h : fs.node? id = some content)
    (hplain : ∀ parent entries alive mode, content ≠ .directory parent entries alive mode) {target : Target}
    {cwd : NodeId} (hne : ∀ handle, (target.openIn fs cwd).1 = .ok handle → handle.node ≠ id) :
    (target.openIn fs cwd).2.node? id = some content := by
  have hprepared : (target.prepare fs cwd).2.node? id = some content := by
    unfold prepare
    split
    · exact h
    · exact h
    · next dir _ _ =>
      have hmade : (fs.makeDirectories cwd dir).2.node? id = some content := FileSystem.node?_makeAll h hplain _ _
      split <;> next heq => rwa [heq] at hmade
  revert hne
  unfold openIn
  split
  · next heq =>
    intro _
    rwa [heq] at hprepared
  · next heq =>
    rw [heq] at hprepared
    split
    · exact fun _ => hprepared
    · next handle files hopen => exact fun hne => FileSystem.node?_openWith hprepared hplain hopen (hne handle rfl)

theorem spares_openIn {σ : Seal} {m : Machine} (h : σ.Holds m) {target : Target} {cwd : NodeId}
    (havoids : ∀ handle, (target.openIn m.files cwd).1 = .ok handle → σ.Avoids handle.node) :
    σ.Spares m { m with files := (target.openIn m.files cwd).2 } := by
  refine h.spares_files ?_
  obtain ⟨content, hcontent, hplain⟩ := h.there
  by_cases hnull : σ.node = .null
  · rw [hnull]
    rfl
  · exact (node?_openIn hcontent hplain fun handle hok =>
      (havoids handle hok).resolve_right hnull).trans hcontent.symm

end Target

/-- The files that the redirections of an invocation open. -/
def Invocation.nodes (i : Invocation) (streams : Streams) (world : World) : List NodeId :=
  (i.stdout.bind (·.node? world)).toList ++
    match Redirection.bind i.stdout streams.stdout world with
    | (.error _, _) => []
    | (.ok _, mid) => (i.stderr.bind (·.node? mid)).toList

namespace Redirection

variable {σ : Seal} {s : Nat} {world : World}

/-- A target that does not lead to the file gets a stream of its own. -/
theorem openTarget_safe {target : Target} (havoids : ∀ node ∈ target.node? world, σ.Avoids node) :
    SafeFrom σ s world (openTarget target) (fun result => ∀ id, result = .ok id → id ≠ s) := by
  refine .of_guarded fun hg => .get_bind ?_
  have hnode : ∀ handle, (target.openIn world.files world.cwd).1 = .ok handle → σ.Avoids handle.node :=
    fun handle hok => havoids handle.node (by rw [Target.node?, hok]; rfl)
  have hspared : World.Spared σ s world (world.withFiles (target.openIn world.files world.cwd).2) :=
    hg.spared_machine (Target.spares_openIn hg.machine hnode)
  revert hspared hnode
  cases target.openIn world.files world.cwd with | mk result files
  intro hnode hspared
  refine .set_bind (fun _ => hspared) ?_
  cases result with
  | error failure => exact .pure nofun
  | ok handle =>
    refine (World.note_safe _ _ _).bind fun _ _ => (World.openHandle_safe (hnode handle rfl)).bind fun file hfile => ?_
    refine (World.newSink_safe ?_).bind fun id hid => .pure fun _ heq => ?_
    · exact hfile
    · cases heq
      exact hid

/-- Binding a stream to a target, if there is one, gives another stream than the guarded one, unless that is passed
on. -/
theorem bind_safe {target : Option Target} (stream : Nat)
    (havoids : ∀ node ∈ target.bind (·.node? world), σ.Avoids node) :
    SafeFrom σ s world (bind target stream) (fun result => ∀ id opened, result = .ok (id, opened) →
      s ∉ opened ∧ (target ≠ none ∨ stream ≠ s → id ≠ s)) := by
  cases target with
  | none =>
    refine .pure fun id opened heq => ?_
    cases heq
    exact ⟨List.not_mem_nil, fun h => h.resolve_left fun h => h rfl⟩
  | some target =>
    refine SafeFrom.bind (openTarget_safe havoids) fun hnew => ?_
    split
    · exact .pure nofun
    · next id hid =>
      refine .pure fun id' opened heq => ?_
      cases heq
      exact ⟨fun hmem => hnew id hid (List.mem_singleton.1 hmem).symm, fun _ => hnew id hid⟩

/-- Streams that were derived, and what was opened for them, have nothing to do with a stream that was not passed
on. -/
structure Clear (i : Invocation) (streams : Streams) (s : Nat) (derived : Streams) (r : Redirection) : Prop where
  /-- What was opened is something else. -/
  opened : s ∉ r.opened
  /-- So is where results go, -/
  stdout : i.stdout ≠ none ∨ streams.stdout ≠ s → derived.stdout ≠ s
  /-- and where messages go. -/
  stderr : i.stderr ≠ none ∨ streams.stderr ≠ s → derived.stderr ≠ s

theorem forM_close_safe {ids : List Nat} (h : s ∉ ids) : Safe σ s (ids.forM World.close) :=
  .forM fun id hid => World.close_safe fun heq : id = s => h (heq ▸ hid)

theorem release_safe {r : Redirection} (h : s ∉ r.opened) : Safe σ s r.release :=
  (forM_close_safe h).bind fun _ _ => .pure trivial

/-- Redirections that do not lead to the file leave the stream alone. -/
theorem apply_safe {i : Invocation} {streams : Streams} (havoids : ∀ node ∈ i.nodes streams world, σ.Avoids node) :
    SafeFrom σ s world (apply i streams) (fun result => ∀ derived r, result = .ok (derived, r) →
      Clear i streams s derived r) := by
  unfold Invocation.nodes at havoids
  refine SafeFrom.bind (bind_safe streams.stdout fun node hnode =>
    havoids node (List.mem_append_left _ (Option.mem_toList.2 hnode))) fun hfirst => ?_
  cases hbind : bind i.stdout streams.stdout world with | mk result mid
  rw [hbind] at hfirst havoids
  cases result with
  | error failure => exact .pure nofun
  | ok bound =>
    obtain ⟨stdout, first⟩ := bound
    obtain ⟨hnotfirst, hstdout⟩ := hfirst stdout first rfl
    refine SafeFrom.bind (bind_safe streams.stderr fun node hnode =>
      havoids node (List.mem_append_right _ (Option.mem_toList.2 hnode))) fun hsecond => ?_
    cases hbind : bind i.stderr streams.stderr mid with | mk result after
    rw [hbind] at hsecond
    cases result with
    | error failure => exact ((forM_close_safe hnotfirst).bind fun _ _ => .pure nofun) after
    | ok bound =>
      obtain ⟨stderr, second⟩ := bound
      obtain ⟨hnotsecond, hstderr⟩ := hsecond stderr second rfl
      refine .pure fun derived r heq => ?_
      cases heq
      exact ⟨fun hmem => (List.mem_append.1 hmem).elim hnotfirst hnotsecond, hstdout, hstderr⟩

end Redirection

end LineShell
