import LineShell.Proofs.Bearings
import LineShell.Redirect

/-!
# What stands behind the output streams

Writing and flushing change what was written, but never where it goes: a stream in memory stays in memory,
and a file that is open stays open. Only `close` closes a file, and only a redirection starts a stream.

## The model

`World.plumbing` is what stands behind each output stream, without the bytes, and which numbers open files
have. For each operation on streams there is one lemma that says what becomes of it: `opening` and `closing`
are all that ever happens.
-/

namespace LineShell

/-- The output stream of that name. -/
def Streams.output (streams : Streams) : Stream → Nat
  | .stdout => streams.stdout
  | .stderr => streams.stderr

/-! ### The plumbing -/

/-- What stands behind an output stream, without what was written there. -/
inductive Outlet where
  /-- Memory of the shell. -/
  | memory
  /-- An open file that the shell was given. -/
  | given (file : Nat)
  /-- A file that the shell has opened, open or not any more. -/
  | opened (file : Nat) (isOpen : Bool)
  deriving DecidableEq, Repr

/-- What a sink is, without what was written there. -/
def Sink.outlet : Sink → Outlet
  | .memory _ _ => .memory
  | .inherited file _ => .given file
  | .opened file isOpen => .opened file isOpen

/-- The outlet when its stream is closed. -/
def Outlet.closed : Outlet → Outlet
  | .opened file _ => .opened file false
  | outlet => outlet

/-- The part of the world that decides where output goes. -/
structure Plumbing where
  /-- What stands behind the output streams. -/
  outlets : Array Outlet
  /-- Whether a number is that of an open file. -/
  isFile : Nat → Bool
  /-- How many open files there are. -/
  fileCount : Nat
  /-- The shell is alive no more. -/
  isGone : Bool

namespace Plumbing

/-- One more file is opened, with a stream of its own. -/
def opening (p : Plumbing) : Plumbing :=
  { p with
    outlets := p.outlets.push (.opened p.fileCount true)
    isFile := fun file => file == p.fileCount || p.isFile file
    fileCount := if p.isFile p.fileCount then p.fileCount else p.fileCount + 1 }

/-- A stream is closed. -/
def closing (p : Plumbing) (id : Nat) : Plumbing := { p with outlets := p.outlets.modify id Outlet.closed }

theorem getElem?_closing (p : Plumbing) (id i : Nat) :
    (p.closing id).outlets[i]? = if id = i then (p.outlets[i]?).map Outlet.closed else p.outlets[i]? :=
  Array.getElem?_modify

/-- Closing streams does nothing to others, and closing one of them again does nothing. -/
theorem getElem?_foldl_closing (ids : List Nat) (p : Plumbing) (i : Nat) :
    (ids.foldl closing p).outlets[i]? = if i ∈ ids then (p.outlets[i]?).map Outlet.closed else p.outlets[i]? := by
  have hclosed (outlet : Outlet) : outlet.closed.closed = outlet.closed := by cases outlet <;> rfl
  induction ids generalizing p with
  | nil => rfl
  | cons id ids ih =>
    rw [List.foldl_cons, ih, getElem?_closing]
    by_cases heq : id = i
    · simp [heq, Function.comp_def, hclosed]
    · simp [heq, Ne.symm heq]

theorem size_foldl_closing (ids : List Nat) (p : Plumbing) :
    (ids.foldl closing p).outlets.size = p.outlets.size := by
  induction ids generalizing p with
  | nil => rfl
  | cons id ids ih => exact (ih _).trans (Array.size_modify ..)

theorem foldl_closing_eq (ids : List Nat) (p : Plumbing) :
    ids.foldl closing p = { p with outlets := (ids.foldl closing p).outlets } := by
  induction ids generalizing p with
  | nil => rfl
  | cons id ids ih =>
    rw [List.foldl_cons, ih]
    rfl

/-- Only a stream of an open file can be closed. -/
theorem closing_eq_self {p : Plumbing} {id : Nat} (h : ∀ file, p.outlets[id]? ≠ some (.opened file true)) :
    p.closing id = p := by
  have houtlets : (p.closing id).outlets = p.outlets := by
    refine Array.ext_getElem? fun i => ?_
    rw [getElem?_closing]
    split
    · next heq =>
      subst heq
      match houtlet : p.outlets[id]? with
      | none | some .memory | some (.given _) | some (.opened _ false) => rfl
      | some (.opened file true) => exact absurd houtlet (h file)
    · rfl
  exact congrArg (fun outlets => { p with outlets }) houtlets

/-- Open files have the numbers from 0 on. -/
def Numbered (p : Plumbing) : Prop := ∀ file, p.isFile file = true → file < p.fileCount

/-- What stood behind streams stands there in another plumbing too, which may have more streams. -/
structure Retains (p p' : Plumbing) : Prop where
  /-- The streams. -/
  outlets : ∀ id < p.outlets.size, p'.outlets[id]? = p.outlets[id]?
  /-- The numbers of open files. -/
  numbered : p.Numbered → p'.Numbered
  /-- The shell. -/
  isGone : p'.isGone = p.isGone

theorem Numbered.opening {p : Plumbing} (h : p.Numbered) : p.opening.Numbered := by
  have hfresh : p.isFile p.fileCount = false :=
    Bool.eq_false_iff.2 fun hfile => Nat.lt_irrefl _ (h _ hfile)
  intro file hfile
  simp only [Plumbing.opening, hfresh, Bool.or_eq_true, beq_iff_eq, Bool.false_eq_true, if_false] at hfile ⊢
  obtain rfl | hfile := hfile
  · exact Nat.lt_succ_self _
  · exact Nat.lt_succ_of_lt (h file hfile)

theorem getElem?_opening (p : Plumbing) : p.opening.outlets[p.outlets.size]? = some (.opened p.fileCount true) :=
  Array.getElem?_push_size

namespace Retains

variable {p p' p'' : Plumbing}

theorem refl (p : Plumbing) : p.Retains p := ⟨fun _ _ => rfl, id, rfl⟩

theorem size_le (h : p.Retains p') : p.outlets.size ≤ p'.outlets.size := by
  refine Nat.le_of_not_lt fun hlt => ?_
  have hsome := h.outlets _ hlt
  rw [Array.getElem?_eq_none (Nat.le_refl _), Array.getElem?_eq_getElem hlt] at hsome
  cases hsome

theorem trans (h : p.Retains p') (h' : p'.Retains p'') : p.Retains p'' where
  outlets id hid := (h'.outlets id (Nat.lt_of_lt_of_le hid h.size_le)).trans (h.outlets id hid)
  numbered hp := h'.numbered (h.numbered hp)
  isGone := h'.isGone.trans h.isGone

theorem opening (p : Plumbing) : p.Retains p.opening where
  outlets id hid := by
    rw [Plumbing.opening, Array.getElem?_push, if_neg (Nat.ne_of_lt hid)]
  numbered := Numbered.opening
  isGone := rfl

/-- A stream that is new may be closed. -/
theorem closing (h : p.Retains p') {id : Nat} (hid : p.outlets.size ≤ id) : p.Retains (p'.closing id) where
  outlets i hi := by
    rw [getElem?_closing, if_neg (by omega), h.outlets i hi]
  numbered hp := h.numbered hp
  isGone := h.isGone

end Retains

end Plumbing

/-- Where output goes in a world. -/
def World.plumbing (world : World) : Plumbing :=
  { outlets := world.sinks.map Sink.outlet
    isFile := fun file => world.machine.handles.contains file
    fileCount := world.machine.handles.size
    isGone := world.isGone }

namespace World

theorem plumbing_withFiles (world : World) (files : FileSystem) :
    (world.withFiles files).plumbing = world.plumbing :=
  rfl

theorem getElem?_outlets (world : World) (id : Nat) :
    world.plumbing.outlets[id]? = (world.sinks[id]?).map Sink.outlet :=
  Array.getElem?_map

theorem plumbing_setSink (world : World) (id : Nat) (sink : Sink) :
    (world.setSink id sink).plumbing =
      { world.plumbing with outlets := world.plumbing.outlets.setIfInBounds id sink.outlet } := by
  simp only [plumbing, setSink, Array.map_setIfInBounds]
  rfl

theorem sinks_setSink {world : World} {id i : Nat} (h : id ≠ i) (sink : Sink) :
    (world.setSink id sink).sinks[i]? = world.sinks[i]? := by
  rw [setSink, Array.getElem?_setIfInBounds, if_neg h]

/-- What stands behind a stream may be replaced by something of its kind. -/
theorem plumbing_setSink_of_outlet {world : World} {id : Nat} {sink : Sink}
    (h : world.plumbing.outlets[id]? = some sink.outlet) : (world.setSink id sink).plumbing = world.plumbing := by
  obtain ⟨hlt, hget⟩ := Array.getElem?_eq_some_iff.1 h
  rw [plumbing_setSink, ← hget, Array.setIfInBounds_def, dif_pos hlt, Array.set_getElem_self]

theorem size_outlets (world : World) : world.plumbing.outlets.size = world.sinks.size := Array.size_map ..

theorem outlet_eq_opened_iff {world : World} {id file : Nat} {isOpen : Bool} :
    world.plumbing.outlets[id]? = some (.opened file isOpen) ↔ world.sinks[id]? = some (.opened file isOpen) := by
  rw [getElem?_outlets]
  match world.sinks[id]? with
  | none | some (.memory _ _) | some (.inherited _ _) => exact ⟨nofun, nofun⟩
  | some (.opened _ _) => exact ⟨fun h => by cases h; rfl, fun h => by cases h; rfl⟩

theorem outlet_eq_memory_iff {world : World} {id : Nat} :
    world.plumbing.outlets[id]? = some .memory ↔ ∃ written relay, world.sinks[id]? = some (.memory written relay) := by
  rw [getElem?_outlets]
  match world.sinks[id]? with
  | none | some (.opened _ _) | some (.inherited _ _) => exact ⟨nofun, nofun⟩
  | some (.memory written relay) => exact ⟨fun _ => ⟨written, relay, rfl⟩, fun _ => rfl⟩

/-! ### Writing -/

/-- An open file may be replaced by another one under its number. -/
theorem plumbing_setHandle {world : World} {file : Nat} (hfile : world.machine.handles.contains file = true)
    (files : FileSystem) (handle : Handle) :
    { world with machine := { world.machine with files }.setHandle file handle }.plumbing = world.plumbing := by
  have hcontains (n : Nat) : (world.machine.handles.insert file handle).contains n =
      world.machine.handles.contains n := by
    rw [Std.TreeMap.contains_insert]
    by_cases heq : file = n
    · rw [← heq, hfile, Bool.or_true]
    · rw [beq_eq_false_iff_ne.2 (mt Std.LawfulEqCmp.compare_eq_iff_eq.1 heq), Bool.false_or]
  have hsize : (world.machine.handles.insert file handle).size = world.machine.handles.size := by
    rw [Std.TreeMap.size_insert, if_pos hfile]
  simp only [plumbing, Script.Machine.setHandle, hcontains, hsize]
  rfl

theorem writeFile_of_handle {world : World} {file : Nat} {handle : Handle}
    (hhandle : world.machine.handles[file]? = some handle) (bs : Bytes) :
    writeFile file bs world = match world.files.write handle bs with
      | .error cause => (.error cause, world)
      | .ok (handle, files) =>
        (.ok (), { world with machine := { world.machine with files }.setHandle file handle }) := by
  rw [writeFile, Run.get_bind, hhandle]
  cases hwrite : world.files.write handle bs <;> simp only [hwrite] <;> rfl

/-- What a write to an open file comes to. -/
theorem writeFile_cases (file : Nat) (bs : Bytes) (world : World) :
    (writeFile file bs world).2 = world ∨ ∃ handle handle' files, world.machine.handles[file]? = some handle ∧
      world.files.write handle bs = .ok (handle', files) ∧ (writeFile file bs world).2 =
        { world with machine := { world.machine with files }.setHandle file handle' } := by
  cases hhandle : world.machine.handles[file]? with
  | none =>
    rw [writeFile, Run.get_bind, hhandle]
    exact .inl rfl
  | some handle =>
    rw [writeFile_of_handle hhandle]
    cases hwrite : world.files.write handle bs with
    | error => exact .inl rfl
    | ok written => exact .inr ⟨handle, written.1, written.2, rfl, hwrite, rfl⟩

theorem writeFile_keeps_plumbing (file : Nat) (bs : Bytes) : Keeps plumbing (writeFile file bs) := by
  intro world
  obtain hsame | ⟨handle, handle', files, hhandle, -, hwritten⟩ := writeFile_cases file bs world
  · rw [KeepsFrom, hsame]
  · have hfile : world.machine.handles.contains file = true := by
      rw [Std.TreeMap.contains_eq_isSome_getElem?, hhandle, Option.isSome_some]
    rw [KeepsFrom, hwritten]
    exact plumbing_setHandle hfile _ _

/-- What programs have written for a sink is taken over without touching any stream. -/
theorem takeRelayed_keeps_sinks (relay : Option Relay) :
    Keeps (fun world => (world.sinks, world.machine.handles, world.plumbing)) (takeRelayed relay) := by
  cases relay with
  | none => exact Keeps.pure []
  | some relay =>
    refine Keeps.get_bind fun world => ?_
    split <;> rfl

theorem write_keeps_plumbing (id : Nat) (bs : Bytes) : Keeps plumbing (write id bs) := by
  refine Keeps.get_bind fun world => ?_
  split
  · rfl
  · split
    · next written relay hsink =>
      have htaken := takeRelayed_keeps_sinks relay world
      simp only [KeepsFrom, Prod.mk.injEq] at htaken
      obtain ⟨hsinks, -, hplumbing⟩ := htaken
      have houtlet : (takeRelayed relay world).2.plumbing.outlets[id]? = some .memory := by
        rw [getElem?_outlets, hsinks, hsink]
        rfl
      exact (plumbing_setSink_of_outlet houtlet).trans hplumbing
    · exact writeFile_keeps_plumbing _ _ world
    · next file buffer hsink =>
      exact (writeFile_keeps_plumbing _ _ _).trans (plumbing_setSink_of_outlet (by rw [getElem?_outlets, hsink]; rfl))
    · exact writeFile_keeps_plumbing _ _ world
    · rfl
    · rfl

theorem flush_keeps_plumbing (id : Nat) : Keeps plumbing (flush id) := by
  refine Keeps.get_bind fun world => ?_
  split
  · next file buffer hsink =>
    split
    · rfl
    · exact (writeFile_keeps_plumbing _ _ _).trans (plumbing_setSink_of_outlet (by rw [getElem?_outlets, hsink]; rfl))
  · rfl

theorem note_keeps_plumbing (level : Level) (origin : Origin) (text : String) :
    Keeps plumbing (note level origin text) := by
  refine Keeps.get_bind fun world => ?_
  split
  · rfl
  · split
    · exact (write_keeps_plumbing _ _).discard world
    · rfl

/-! ### Closing -/

theorem isAlive_update (m : Script.Machine) (pid : Nat) {f : Script.Process → Script.Process}
    (hf : ∀ p, (f p).pid = p.pid) (n : Nat) : (m.update pid f).isAlive n = m.isAlive n := by
  unfold Script.Machine.update
  split
  · simp only [Script.Machine.isAlive, Script.Machine.living, List.any_cons, hf]
  · have hpid (p : Script.Process) : (if p.pid = pid then f p else p).pid = p.pid := by
      split
      · exact hf p
      · rfl
    simp only [Script.Machine.isAlive, Script.Machine.living, List.any_cons, List.any_map, Function.comp_def, hpid]

theorem handles_update (m : Script.Machine) (pid : Nat) (f : Script.Process → Script.Process) :
    (m.update pid f).handles = m.handles := by
  unfold Script.Machine.update
  split <;> rfl

theorem modifyShell_keeps_plumbing {f : Script.Process → Script.Process} (hf : ∀ p, (f p).pid = p.pid) :
    Keeps plumbing (modifyShell f) := by
  refine Keeps.modify fun world => ?_
  simp only [plumbing, isGone, handles_update, isAlive_update _ _ hf]

theorem hold_keeps_plumbing (file : Nat) : Keeps plumbing (hold file) :=
  modifyShell_keeps_plumbing fun _ => rfl

theorem letGo_keeps_plumbing (file : Nat) : Keeps plumbing (letGo file) :=
  (modifyShell_keeps_plumbing (f := fun p => { p with fds := p.fds.filter (·.2.file ≠ file) }) fun _ => rfl).bind
    fun _ => Keeps.modify fun _ => rfl

theorem close_eq (id : Nat) (world : World) :
    close id world = match world.sinks[id]? with
      | some (.opened file true) => letGo file (world.setSink id (.opened file false))
      | _ => ((), world) := by
  change (match world.sinks[id]? with
    | some (.opened file true) => (do
        modify fun world : World => world.setSink id (.opened file false)
        letGo file : Run Unit)
    | _ => pure ()) world = _
  split
  · next hsink =>
    rw [hsink]
    rfl
  · rfl

theorem plumbing_close (id : Nat) (world : World) :
    (close id world).2.plumbing = world.plumbing.closing id := by
  rw [close_eq]
  split
  · next file hsink =>
    have houtlet := outlet_eq_opened_iff.2 hsink
    have houtlets : world.plumbing.outlets.setIfInBounds id (.opened file false) =
        (world.plumbing.closing id).outlets := by
      refine Array.ext_getElem? fun i => ?_
      rw [Plumbing.getElem?_closing, Array.getElem?_setIfInBounds]
      split
      · next heq =>
        subst heq
        rw [houtlet, if_pos (Array.getElem?_eq_some_iff.1 houtlet).1]
        rfl
      · rfl
    rw [letGo_keeps_plumbing, plumbing_setSink, Sink.outlet, houtlets]
    rfl
  · next hopen =>
    exact (Plumbing.closing_eq_self fun file houtlet => hopen file (outlet_eq_opened_iff.1 houtlet)).symm

theorem sinks_close {id i : Nat} (h : id ≠ i) (world : World) :
    (close id world).2.sinks[i]? = world.sinks[i]? := by
  rw [close_eq]
  split
  · exact sinks_setSink h _
  · rfl

theorem sinks_forM_close {ids : List Nat} {i : Nat} (h : i ∉ ids) (world : World) :
    ((ids.forM close : Run PUnit) world).2.sinks[i]? = world.sinks[i]? := by
  induction ids generalizing world with
  | nil => rfl
  | cons id ids ih =>
    have hne : id ≠ i := fun heq => h (heq ▸ List.mem_cons_self)
    exact (ih (fun hmem => h (List.mem_cons_of_mem id hmem)) _).trans (sinks_close hne world)

theorem plumbing_forM_close (ids : List Nat) (world : World) :
    ((ids.forM close : Run PUnit) world).2.plumbing = ids.foldl Plumbing.closing world.plumbing := by
  induction ids generalizing world with
  | nil => rfl
  | cons id ids ih => exact (ih _).trans (congrArg (ids.foldl Plumbing.closing) (plumbing_close id world))

/-! ### What a write gives -/

theorem writeFile_ne_targetClosed (file : Nat) (bs : Bytes) (world : World) :
    (writeFile file bs world).1 ≠ .error .targetClosed := by
  cases hhandle : world.machine.handles[file]? with
  | none =>
    rw [writeFile, Run.get_bind, hhandle]
    nofun
  | some handle =>
    rw [writeFile_of_handle hhandle]
    cases hwrite : world.files.write handle bs with
    | ok => nofun
    | error cause =>
      -- All that the files ever lack is room.
      have hcause : cause = .noSpace := by
        unfold FileSystem.write at hwrite
        split at hwrite
        · cases hwrite
        · split at hwrite <;> cases hwrite
          rfl
      rw [hcause]
      nofun

/-- Only a stream whose file was closed refuses bytes because of that. -/
theorem write_refused_iff {world : World} {id : Nat} {bs : Bytes} (hbs : bs ≠ []) (hthere : world.isGone = false)
    (hid : id < world.sinks.size) :
    (write id bs world).1 = .error .targetClosed ↔ ∃ file, world.sinks[id]? = some (.opened file false) := by
  rw [write, Run.get_bind, hthere]
  have hsome := Array.getElem?_eq_getElem hid
  cases hsink : world.sinks[id] with
  | memory written relay =>
    rw [hsome, hsink]
    exact ⟨nofun, nofun⟩
  | inherited file buffer =>
    rw [hsome, hsink]
    refine ⟨fun h => ?_, nofun⟩
    cases buffer with
    | none => exact absurd h (writeFile_ne_targetClosed _ _ _)
    | some buffer => exact absurd h (writeFile_ne_targetClosed _ _ _)
  | opened file isOpen =>
    rw [hsome, hsink]
    cases isOpen with
    | true => exact ⟨fun h => absurd h (writeFile_ne_targetClosed _ _ _), nofun⟩
    | false =>
      simp only [Bool.false_eq_true, if_false, if_neg hbs]
      exact ⟨fun _ => ⟨file, rfl⟩, fun _ => rfl⟩

/-- Bytes that are refused leave no trace. -/
theorem write_refused {world : World} {id file : Nat} (h : world.sinks[id]? = some (.opened file false)) (bs : Bytes) :
    (write id bs world).2 = world := by
  rw [write, Run.get_bind, h]
  cases world.isGone <;> rfl

theorem writeOnce_of_refused {world : World} {id file : Nat} (h : world.sinks[id]? = some (.opened file false))
    (bs : Bytes) : writeOnce id bs world = (.error .targetClosed, world) := by
  rw [writeOnce, Run.get_bind, h]
  rfl

theorem writeOnce_refused_iff {world : World} {id : Nat} {bs : Bytes} (hbs : bs ≠ []) (hthere : world.isGone = false)
    (hid : id < world.sinks.size) :
    (writeOnce id bs world).1 = .error .targetClosed ↔ ∃ file, world.sinks[id]? = some (.opened file false) := by
  refine ⟨fun h => ?_, fun ⟨file, hsink⟩ => by rw [writeOnce_of_refused hsink]⟩
  by_cases hclosed : ∃ file, world.sinks[id]? = some (.opened file false)
  · exact hclosed
  · have hmap : writeOnce id bs world = ((write id bs world).1.map fun _ => bs.length, (write id bs world).2) := by
      rw [writeOnce, Run.get_bind]
      match hsink : world.sinks[id]? with
      | none => exact absurd (Array.getElem?_eq_none_iff.1 hsink) (Nat.not_le_of_lt hid)
      | some (.opened file false) => exact absurd ⟨file, hsink⟩ hclosed
      | some (.opened _ true) | some (.memory _ _) | some (.inherited _ _) => rfl
    rw [hmap] at h
    refine (write_refused_iff hbs hthere hid).1 ?_
    cases hwrite : (write id bs world).1 with
    | ok => rw [hwrite] at h; cases h
    | error cause => rw [hwrite] at h; cases h; rfl

/-! ### Opening files -/

/-- The world after a file was opened, which the shell does not hold yet. -/
def withHandle (world : World) (handle : Handle) : World :=
  { world with machine := (world.machine.opening handle).2 }

/-- The world after the shell has opened a file, with a stream of its own. -/
def withStream (world : World) (handle : Handle) : World :=
  let held := (hold world.machine.handles.size (world.withHandle handle)).2
  { held with sinks := held.sinks.push (.opened world.machine.handles.size true) }

theorem plumbing_withHandle (world : World) (handle : Handle) :
    (world.withHandle handle).plumbing = { world.plumbing.opening with outlets := world.plumbing.outlets } := by
  have hcontains (file : Nat) : (world.machine.handles.insert world.machine.handles.size handle).contains file =
      (file == world.machine.handles.size || world.machine.handles.contains file) := by
    have hbeq : (compare world.machine.handles.size file == .eq) = (file == world.machine.handles.size) := by
      rw [Bool.eq_iff_iff, beq_iff_eq, beq_iff_eq, Std.LawfulEqCmp.compare_eq_iff_eq]
      exact eq_comm
    rw [Std.TreeMap.contains_insert, hbeq]
  simp only [plumbing, withHandle, Script.Machine.opening, Std.TreeMap.size_insert, hcontains]
  rfl

theorem plumbing_withStream (world : World) (handle : Handle) :
    (world.withStream handle).plumbing = world.plumbing.opening := by
  have hheld : (hold world.machine.handles.size (world.withHandle handle)).2.plumbing =
      { world.plumbing.opening with outlets := world.plumbing.outlets } :=
    (hold_keeps_plumbing _ _).trans (plumbing_withHandle world handle)
  have houtlets : (world.withStream handle).plumbing.outlets = world.plumbing.opening.outlets := Array.map_push
  exact (congrArg (fun p : Plumbing => { p with outlets := (world.withStream handle).plumbing.outlets }) hheld).trans
    (congrArg (fun outlets => { world.plumbing.opening with outlets }) houtlets)

/-! ### What stays untouched -/

/-- The open file that log records go to, if they go to one. -/
def logFile? (world : World) : Option Nat := world.log.bind fun target => world.file? target.sink

/-- One world comes from another by changes in the files and by log records. -/
structure Noted (world after : World) : Prop where
  /-- The same things stand behind streams. -/
  plumbing : after.plumbing = world.plumbing
  /-- The log goes to the same place. -/
  log : after.log = world.log
  /-- Streams that no log records go to are the same. -/
  sinks : ∀ id, (∀ target ∈ world.log, target.sink ≠ id) → after.sinks[id]? = world.sinks[id]?
  /-- Open files that no log records go to are the same. -/
  handles : ∀ file, world.logFile? ≠ some file → after.machine.handles[file]? = world.machine.handles[file]?

theorem noted_withFiles (world : World) (files : FileSystem) : world.Noted (world.withFiles files) :=
  ⟨rfl, rfl, fun _ _ => rfl, fun _ _ => rfl⟩

theorem writeFile_sinks (file : Nat) (bs : Bytes) (world : World) :
    (writeFile file bs world).2.sinks = world.sinks := by
  obtain hsame | ⟨_, _, _, -, -, hwritten⟩ := writeFile_cases file bs world
  · rw [hsame]
  · rw [hwritten]

theorem writeFile_elsewhere {file i : Nat} (h : file ≠ i) (bs : Bytes) (world : World) :
    (writeFile file bs world).2.machine.handles[i]? = world.machine.handles[i]? := by
  obtain hsame | ⟨_, _, _, -, -, hwritten⟩ := writeFile_cases file bs world
  · rw [hsame]
  · rw [hwritten]
    exact (Std.TreeMap.getElem?_insert ..).trans (if_neg (mt Std.LawfulEqCmp.compare_eq_iff_eq.1 h))

/-- A write leaves other streams alone, and other open files. -/
theorem write_elsewhere (id : Nat) (bs : Bytes) (world : World) :
    (∀ i, id ≠ i → (write id bs world).2.sinks[i]? = world.sinks[i]?) ∧
      ∀ i, world.file? id ≠ some i → (write id bs world).2.machine.handles[i]? = world.machine.handles[i]? := by
  rw [write, Run.get_bind, file?]
  cases world.isGone with
  | true => exact ⟨fun _ _ => rfl, fun _ _ => rfl⟩
  | false =>
    match hsink : world.sinks[id]? with
    | some (.memory written relay) =>
      have htaken := takeRelayed_keeps_sinks relay world
      simp only [KeepsFrom, Prod.mk.injEq] at htaken
      exact ⟨fun i hi => (sinks_setSink hi _).trans (congrArg (·[i]?) htaken.1),
        fun i _ => congrArg (·[i]?) htaken.2.1⟩
    | some (.inherited file none) | some (.opened file true) =>
      exact ⟨fun i _ => congrArg (·[i]?) (writeFile_sinks file bs world),
        fun i hi => writeFile_elsewhere (fun heq => hi (congrArg some heq)) bs world⟩
    | some (.inherited file (some buffer)) =>
      exact ⟨fun i hi => (congrArg (·[i]?) (writeFile_sinks file _ _)).trans (sinks_setSink hi _),
        fun i hi => writeFile_elsewhere (fun heq => hi (congrArg some heq)) _ _⟩
    | some (.opened _ false) | none => exact ⟨fun _ _ => rfl, fun _ _ => rfl⟩

theorem noted_note (level : Level) (origin : Origin) (text : String) (world : World) :
    world.Noted (note level origin text world).2 := by
  have hplumbing := note_keeps_plumbing level origin text world
  have hlog : (note level origin text world).2.log = world.log :=
    congrArg Bearings.log (note_keeps level origin text world)
  have hnote : (∃ target bs, world.log = some target ∧
      (note level origin text world).2 = (write target.sink bs world).2) ∨ (note level origin text world).2 = world := by
    rw [note, Run.get_bind]
    cases world.log with
    | none => exact .inr rfl
    | some target =>
      by_cases hlevel : level.rank ≤ target.level.rank
      · simp only [hlevel, if_true]
        exact .inl ⟨target, _, rfl, rfl⟩
      · simp only [hlevel, if_false]
        exact .inr rfl
  obtain ⟨target, bs, htarget, hwrite⟩ | hsame := hnote
  · obtain ⟨hsinks, hhandles⟩ := write_elsewhere target.sink bs world
    rw [← hwrite] at hsinks hhandles
    refine ⟨hplumbing, hlog, fun id hid => hsinks id (hid target htarget), fun file hfile => hhandles file ?_⟩
    rwa [logFile?, htarget] at hfile
  · rw [hsame]
    exact ⟨rfl, rfl, fun _ _ => rfl, fun _ _ => rfl⟩

theorem file?_eq (world : World) (id : Nat) :
    world.file? id = (world.plumbing.outlets[id]?).bind fun outlet => match outlet with
      | .given file | .opened file true => some file
      | .memory | .opened _ false => none := by
  rw [getElem?_outlets, file?]
  match world.sinks[id]? with
  | none | some (.memory _ _) | some (.inherited _ _) | some (.opened _ true) | some (.opened _ false) => rfl

theorem Noted.trans {world noted after : World} (h : world.Noted noted) (h' : noted.Noted after) :
    world.Noted after := by
  have hfile : noted.logFile? = world.logFile? := by
    simp only [logFile?, h.log, file?_eq, h.plumbing]
  refine ⟨h'.plumbing.trans h.plumbing, h'.log.trans h.log, fun id hid => ?_, fun file hf => ?_⟩
  · exact (h'.sinks id (h.log ▸ hid)).trans (h.sinks id hid)
  · exact (h'.handles file (hfile ▸ hf)).trans (h.handles file hf)

/-- Nothing that was there is disturbed by an operation that has failed: log records apart, streams and open
files are the same, and all streams that were started are closed again. -/
structure Undisturbed (world after : World) : Prop where
  /-- The same things stand behind streams. -/
  retains : world.plumbing.Retains after.plumbing
  /-- Streams that no log records go to are the same. -/
  sinks : ∀ id < world.sinks.size, (∀ target ∈ world.log, target.sink ≠ id) →
    after.sinks[id]? = world.sinks[id]?
  /-- Open files that no log records go to are the same. -/
  handles : ∀ file, world.plumbing.isFile file = true → world.logFile? ≠ some file →
    after.machine.handles[file]? = world.machine.handles[file]?
  /-- What was opened is closed: the shell does not have it open, and its stream takes no bytes. -/
  spent : ∀ id sink, world.sinks.size ≤ id → after.sinks[id]? = some sink → ∃ file, sink = .opened file false ∧
    ∀ p, after.machine.find? shellPid = some p → ∀ d ∈ p.fds, d.2.file ≠ file

theorem Noted.sinks_size {world after : World} (h : world.Noted after) : after.sinks.size = world.sinks.size := by
  rw [← size_outlets, ← size_outlets, h.plumbing]

theorem Noted.undisturbed {world after : World} (h : world.Noted after) : world.Undisturbed after where
  retains := h.plumbing ▸ .refl _
  sinks id _ hid := h.sinks id hid
  handles file _ hfile := h.handles file hfile
  spent id sink hid hsink := by
    rw [Array.getElem?_eq_none (h.sinks_size ▸ hid)] at hsink
    cases hsink

theorem getElem?_withStream (world : World) (handle : Handle) (id : Nat) :
    (world.withStream handle).sinks[id]? =
      if id = world.sinks.size then some (.opened world.machine.handles.size true) else world.sinks[id]? :=
  Array.getElem?_push

theorem handles_withStream (world : World) (handle : Handle) :
    (world.withStream handle).machine.handles =
      world.machine.handles.insert world.machine.handles.size handle :=
  handles_update ..

/-- A process after it was changed. -/
theorem find?_update (m : Script.Machine) (pid : Nat) {f : Script.Process → Script.Process}
    (hf : ∀ p, (f p).pid = p.pid) : (m.update pid f).find? pid = (m.find? pid).map f := by
  have hothers (ps : List Script.Process) :
      (ps.map fun p => if p.pid = pid then f p else p).find? (·.pid = pid) = (ps.find? (·.pid = pid)).map f := by
    induction ps with
    | nil => rfl
    | cons q ps ih => by_cases hq : q.pid = pid <;> simp [hq, hf, ih]
  unfold Script.Machine.update
  split
  · next heq => simp [Script.Machine.find?, Script.Machine.living, hf, heq]
  · next hne => simp [Script.Machine.find?, Script.Machine.living, hne, hothers]

/-- The shell does not have a file open that it has let go. -/
theorem ne_of_letGo {file : Nat} {world : World} {p : Script.Process}
    (hp : (letGo file world).2.machine.find? shellPid = some p) : ∀ d ∈ p.fds, d.2.file ≠ file := by
  have hfind : (letGo file world).2.machine.find? shellPid =
      (world.machine.find? shellPid).map fun p => { p with fds := p.fds.filter (·.2.file ≠ file) } :=
    find?_update world.machine shellPid fun _ => rfl
  obtain ⟨q, -, rfl⟩ := Option.map_eq_some_iff.1 (hfind.symm.trans hp)
  exact fun d hd => of_decide_eq_true (List.mem_filter.1 hd).2

/-- A stream that was started, and closed again. -/
theorem Noted.undisturbed_close {world noted : World} (h : world.Noted noted) (hnumbered : world.plumbing.Numbered)
    (handle : Handle) (files : FileSystem) :
    world.Undisturbed (close world.sinks.size ((noted.withStream handle).withFiles files)).2 := by
  have hfile : noted.machine.handles.size = world.plumbing.fileCount := congrArg Plumbing.fileCount h.plumbing
  have hsink : ((noted.withStream handle).withFiles files).sinks[world.sinks.size]? =
      some (.opened noted.machine.handles.size true) :=
    (getElem?_withStream ..).trans (if_pos h.sinks_size.symm)
  have hclose := close_eq world.sinks.size ((noted.withStream handle).withFiles files)
  rw [hsink] at hclose
  have hretains : world.plumbing.Retains (close world.sinks.size ((noted.withStream handle).withFiles files)).2.plumbing := by
    rw [plumbing_close, plumbing_withFiles, plumbing_withStream, h.plumbing]
    exact (Plumbing.Retains.opening _).closing (Nat.le_of_eq world.size_outlets)
  have hsinks (id : Nat) : (close world.sinks.size ((noted.withStream handle).withFiles files)).2.sinks[id]? =
      if id = world.sinks.size then some (.opened noted.machine.handles.size false) else noted.sinks[id]? := by
    have hset : (close world.sinks.size ((noted.withStream handle).withFiles files)).2.sinks =
        (noted.withStream handle).sinks.setIfInBounds world.sinks.size (.opened noted.machine.handles.size false) := by
      rw [hclose]
      rfl
    have hpushed : (noted.withStream handle).sinks.size = noted.sinks.size + 1 := Array.size_push _
    rw [hset, Array.getElem?_setIfInBounds, getElem?_withStream, h.sinks_size, hpushed, h.sinks_size]
    split
    · next heq => rw [if_pos (Nat.lt_succ_self _), if_pos heq.symm]
    · next hne => rw [if_neg (Ne.symm hne), if_neg (Ne.symm hne)]
  refine ⟨hretains, fun id hlt hid => ?_, fun file hthere hlog => ?_, fun id sink hid hnew => ?_⟩
  · rw [hsinks, if_neg (Nat.ne_of_lt hlt), h.sinks id hid]
  · have hhandles : (close world.sinks.size ((noted.withStream handle).withFiles files)).2.machine.handles =
        noted.machine.handles.insert noted.machine.handles.size handle := by
      rw [hclose]
      exact (handles_update ..).trans (handles_withStream noted handle)
    have hne : noted.machine.handles.size ≠ file := fun heq => by
      have hlt := hnumbered file hthere
      omega
    rw [hhandles, Std.TreeMap.getElem?_insert, if_neg (mt Std.LawfulEqCmp.compare_eq_iff_eq.1 hne),
      h.handles file hlog]
  · rw [hsinks] at hnew
    split at hnew
    · cases hnew
      rw [hclose]
      exact ⟨_, rfl, fun p => ne_of_letGo⟩
    · rw [Array.getElem?_eq_none (h.sinks_size ▸ hid)] at hnew
      cases hnew

end World

namespace Redirection

/-! ### Redirections -/

/-- What opening a target comes to. -/
theorem openTarget_cases (target : Target) (world : World) :
    (∃ failure files, openTarget target world = (.error failure, world.withFiles files)) ∨
      ∃ noted handle, world.Noted noted ∧
        openTarget target world = (.ok world.sinks.size, noted.withStream handle) := by
  rw [openTarget, Run.get_bind]
  cases target.openIn world.files world.cwd with
  | mk result files =>
    cases result with
    | error failure => exact .inl ⟨failure, files, rfl⟩
    | ok handle =>
      have hnoted := (world.noted_withFiles files).trans (World.noted_note .debug .redirect
        s!"redirect to {target.path} (append: {target.append})" (world.withFiles files))
      refine .inr ⟨_, handle, hnoted, ?_⟩
      rw [← hnoted.sinks_size]
      rfl

/-- What binding a stream to a target, if there is one, comes to. -/
theorem bind_cases (target : Option Target) (stream : Nat) (world : World) :
    target = none ∧ bind target stream world = (.ok (stream, []), world) ∨
      (∃ failure files, bind target stream world = (.error failure, world.withFiles files)) ∨
      ∃ path noted handle, target = some path ∧ world.Noted noted ∧
        bind target stream world = (.ok (world.sinks.size, [world.sinks.size]), noted.withStream handle) := by
  cases target with
  | none => exact .inl ⟨rfl, rfl⟩
  | some path =>
    have hbind : bind (some path) stream world =
        ((openTarget path world).1.map fun id => (id, [id]), (openTarget path world).2) := by
      rw [bind, Run.bind_apply]
      cases (openTarget path world).1 <;> rfl
    obtain ⟨failure, files, hopen⟩ | ⟨noted, handle, hnoted, hopen⟩ := openTarget_cases path world
    · exact .inr (.inl ⟨failure, files, by rw [hbind, hopen]; rfl⟩)
    · exact .inr (.inr ⟨path, noted, handle, rfl, hnoted, by rw [hbind, hopen]; rfl⟩)

theorem bind_of_error {target : Option Target} {stream : Nat} {failure : Failure} {world after : World}
    (h : bind target stream world = (.error failure, after)) : ∃ files, after = world.withFiles files := by
  obtain ⟨-, hbind⟩ | ⟨failure, files, hbind⟩ | ⟨path, noted, handle, -, -, hbind⟩ := bind_cases target stream world
  · cases hbind.symm.trans h
  · cases hbind.symm.trans h
    exact ⟨files, rfl⟩
  · cases hbind.symm.trans h

/-- What binding a stream comes to where it does not fail. -/
structure Binds (target : Option Target) (stream id : Nat) (opened : List Nat) (world after : World) : Prop where
  /-- Without a target the stream is passed on. -/
  passed : target = none → id = stream
  /-- With one it was opened. -/
  owned : opened = (target.map fun _ => id).toList
  /-- What was opened is the next stream. -/
  fresh : ∀ i ∈ opened, i = world.sinks.size
  /-- What was opened takes bytes to an open file. -/
  isOpen : ∀ i ∈ opened, ∃ file, after.plumbing.outlets[i]? = some (.opened file true)
  /-- What was there before is there still. -/
  retains : world.plumbing.Retains after.plumbing
  /-- All that can happen to the world: log records are written, and a file is opened. -/
  comes : opened = [] ∧ after = world ∨
    opened = [world.sinks.size] ∧ ∃ noted handle, world.Noted noted ∧ after = noted.withStream handle

theorem binds_of_bind {target : Option Target} {stream id : Nat} {opened : List Nat} {world after : World}
    (h : bind target stream world = (.ok (id, opened), after)) : Binds target stream id opened world after := by
  obtain ⟨rfl, hbind⟩ | ⟨failure, files, hbind⟩ | ⟨path, noted, handle, rfl, hnoted, hbind⟩ :=
    bind_cases target stream world
  · cases hbind.symm.trans h
    exact ⟨fun _ => rfl, rfl, nofun, nofun, .refl _, .inl ⟨rfl, rfl⟩⟩
  · cases hbind.symm.trans h
  · cases hbind.symm.trans h
    have hplumbing : (noted.withStream handle).plumbing = world.plumbing.opening := by
      rw [World.plumbing_withStream, hnoted.plumbing]
    refine ⟨nofun, rfl, fun i hi => List.mem_singleton.1 hi, fun i hi => ?_, ?_, .inr ⟨rfl, noted, handle, hnoted, rfl⟩⟩
    · rw [List.mem_singleton.1 hi, hplumbing, ← World.size_outlets]
      exact ⟨_, world.plumbing.getElem?_opening⟩
    · rw [hplumbing]
      exact .opening _

end Redirection

end LineShell
