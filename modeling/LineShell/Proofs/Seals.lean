import LineShell.Program
import LineShell.Proofs.Nodes
import LineShell.Proofs.Schedules

/-!
# Files that are left alone

A file stays as it is as long as everybody who works on the machine keeps away from it. Nobody reaches a file
but through an open file, so it is enough that the open files that lead there are out of reach.

## The model

A `Seal` names the file and the open files that lead to it. It `Holds` on a machine when nobody has these open
who could use them. Work is confined by a seal when each of its turns leaves the file and the seal as they were,
whatever others have done in the meantime, as long as the seal held; a run of confined threads does the same.
-/

namespace LineShell.Script

/-- A file that is to be left alone. -/
structure Seal where
  /-- The file. Nothing can happen to the device that holds nothing. -/
  node : NodeId
  /-- The open files that lead to it. -/
  files : Nat → Prop
  /-- The processes that may have it open, since they do nothing by themselves. -/
  exempt : Nat → Prop
  /-- The shell is one of them. -/
  shell : exempt shellPid

namespace Seal

variable {σ : Seal} {m m' m'' : Machine}

/-- What is done there is not done to the file. -/
def Avoids (σ : Seal) (node : NodeId) : Prop := node ≠ σ.node ∨ σ.node = .null

/-- Nobody has the file open who could use it. -/
structure Holds (σ : Seal) (m : Machine) : Prop where
  /-- The file is there, and no directory. -/
  there : ∃ content, m.files.node? σ.node = some content ∧
    ∀ parent entries alive mode, content ≠ .directory parent entries alive mode
  /-- No other open file leads to it. -/
  leads : ∀ file handle, m.handles[file]? = some handle → ¬ σ.files file → σ.Avoids handle.node
  /-- The open files that lead to it are there. -/
  known : ∀ file, σ.files file → file < m.handles.size ∧ ∃ handle, m.handles[file]? = some handle ∧
    handle.node = σ.node
  /-- Processes do not have it open. -/
  kept : ∀ p ∈ m.living, ¬ σ.exempt p.pid → ∀ d ∈ p.fds, ¬ σ.files d.2.file
  /-- Nor may those that are to come. -/
  fresh : ∀ pid, m.nextPid ≤ pid → ¬ σ.exempt pid

/-- The file is the same on two machines, and so are the open files that lead to it. -/
structure Same (σ : Seal) (m m' : Machine) : Prop where
  /-- The file. -/
  node : m'.files.node? σ.node = m.files.node? σ.node
  /-- The open files. -/
  handles : ∀ file, σ.files file → m'.handles[file]? = m.handles[file]?

/-- The seal on no file at all. -/
def nothing : Seal where
  node := .null
  files _ := False
  exempt pid := pid = shellPid
  shell := rfl

theorem holds_nothing (h : shellPid < m.nextPid) : nothing.Holds m where
  there := ⟨.device .null, rfl, nofun⟩
  leads _ _ _ _ := .inr rfl
  known _ := False.elim
  kept _ _ _ _ _ := id
  fresh _ hpid := Nat.ne_of_gt (Nat.lt_of_lt_of_le h hpid)

theorem Same.refl (σ : Seal) (m : Machine) : σ.Same m m := ⟨rfl, fun _ _ => rfl⟩

theorem Same.trans (h : σ.Same m m') (h' : σ.Same m' m'') : σ.Same m m'' :=
  ⟨h'.node.trans h.node, fun file hfile => (h'.handles file hfile).trans (h.handles file hfile)⟩

/-- One machine has become another, and the seal holds. -/
structure Spares (σ : Seal) (m m' : Machine) : Prop where
  /-- The seal holds still. -/
  holds : σ.Holds m'
  /-- The file is the same. -/
  same : σ.Same m m'

theorem Holds.refl (h : σ.Holds m) : σ.Spares m m := ⟨h, .refl σ m⟩

theorem Spares.trans (h : σ.Spares m m') (h' : σ.Spares m' m'') : σ.Spares m m'' :=
  ⟨h'.holds, h.same.trans h'.same⟩

/-! ### Changes of the files -/

theorem node?_set {node : NodeId} (h : σ.Avoids node) (fs : FileSystem) (content : Node) :
    (fs.set node content).node? σ.node = fs.node? σ.node := by
  obtain hne | hnull := h
  · exact fs.node?_set_of_ne (Ne.symm hne) content
  · rw [hnull]
    rfl

theorem node?_write {fs fs' : FileSystem} {h h' : Handle} {bs : Bytes} (hwrite : fs.write h bs = .ok (h', fs'))
    (havoids : σ.Avoids h.node) : fs'.node? σ.node = fs.node? σ.node := by
  obtain ⟨-, rfl | ⟨content, rfl, -⟩⟩ := FileSystem.write_cases hwrite
  · rfl
  · exact node?_set havoids fs content

namespace Holds

variable (h : σ.Holds m)

include h

theorem spares_files {files : FileSystem} (hnode : files.node? σ.node = m.files.node? σ.node) :
    σ.Spares m { m with files } := by
  refine ⟨⟨?_, h.leads, h.known, h.kept, h.fresh⟩, hnode, fun _ _ => rfl⟩
  rw [hnode]
  exact h.there

/-! ### Changes of the open files -/

theorem spares_setHandle {file : Nat} (hfile : ¬ σ.files file) {handle : Handle} (hnode : σ.Avoids handle.node) :
    σ.Spares m (m.setHandle file handle) := by
  have hget (n : Nat) : (m.setHandle file handle).handles[n]? = if file = n then some handle else m.handles[n]? :=
    (Std.TreeMap.getElem?_insert ..).trans (by simp only [Std.LawfulEqCmp.compare_eq_iff_eq])
  have hsame : ∀ n, σ.files n → (m.setHandle file handle).handles[n]? = m.handles[n]? := fun n hn => by
    rw [hget, if_neg fun heq : file = n => hfile (heq ▸ hn)]
  refine ⟨⟨h.there, fun n other hn hfiles => ?_, fun n hn => ?_, h.kept, h.fresh⟩, rfl, hsame⟩
  · rw [hget] at hn
    split at hn
    · cases hn
      exact hnode
    · exact h.leads n other hn hfiles
  · obtain ⟨hlt, hhandle⟩ := h.known n hn
    exact ⟨Nat.lt_of_lt_of_le hlt Std.TreeMap.size_le_size_insert, (hsame n hn).symm ▸ hhandle⟩

theorem not_files_size : ¬ σ.files m.handles.size := fun hfile => Nat.lt_irrefl _ (h.known _ hfile).1

theorem spares_opening {handle : Handle} (hnode : σ.Avoids handle.node) : σ.Spares m (m.opening handle).2 :=
  h.spares_setHandle h.not_files_size hnode

theorem avoids_newPipe : σ.Avoids (.pipe m.files.pipes.size) := by
  refine .inl fun heq => ?_
  obtain ⟨content, hcontent, -⟩ := h.there
  rw [← heq] at hcontent
  simp [FileSystem.node?] at hcontent

theorem node?_newPipe (pipe : Pipe) : (m.files.newPipe pipe).2.node? σ.node = m.files.node? σ.node := by
  cases hnode : σ.node with
  | entry place => rfl
  | null => rfl
  | pipe place =>
    have hne : place ≠ m.files.pipes.size := fun heq => by
      obtain hne | hnull := h.avoids_newPipe
      · exact hne (by rw [hnode, heq])
      · rw [hnode] at hnull
        cases hnull
    simp only [FileSystem.newPipe, FileSystem.node?, Array.getElem?_push, if_neg hne]

/-- A new pipe has nothing to do with the file. -/
theorem spares_newPipe (pipe : Pipe) :
    σ.Spares m (m.newPipe pipe).2 ∧ ¬ σ.files (m.newPipe pipe).1.1 ∧ ¬ σ.files (m.newPipe pipe).1.2 := by
  have hfiles := h.spares_files (h.node?_newPipe pipe)
  let reading : Handle := { node := .pipe m.files.pipes.size, reads := true, writes := false }
  let writing : Handle := { node := .pipe m.files.pipes.size, reads := false, writes := true }
  have hreading := hfiles.holds.spares_opening (show σ.Avoids reading.node from h.avoids_newPipe)
  have hwriting := hreading.holds.spares_opening (show σ.Avoids writing.node from h.avoids_newPipe)
  exact ⟨(hfiles.trans hreading).trans hwriting, hfiles.holds.not_files_size, hreading.holds.not_files_size⟩

/-! ### Changes of the processes -/

/-- Something else has changed than files and open files. -/
theorem spares_processes (hfiles : m'.files.node? σ.node = m.files.node? σ.node) (hhandles : m'.handles = m.handles)
    (hkept : ∀ p ∈ m'.living, ¬ σ.exempt p.pid → ∀ d ∈ p.fds, ¬ σ.files d.2.file) (hnext : m.nextPid ≤ m'.nextPid) :
    σ.Spares m m' := by
  refine ⟨⟨?_, ?_, ?_, hkept, fun pid hpid => h.fresh pid (Nat.le_trans hnext hpid)⟩, hfiles, fun file _ => ?_⟩
  · rw [hfiles]
    exact h.there
  · rw [hhandles]
    exact h.leads
  · rw [hhandles]
    exact h.known
  · rw [hhandles]

theorem spares_stir : σ.Spares m m.stir := h.spares_processes rfl rfl h.kept (Nat.le_refl _)

theorem spares_refreshed : σ.Spares m m.refreshed :=
  h.spares_processes (by cases σ.node <;> rfl) rfl h.kept (Nat.le_refl _)

omit h in
theorem mem_living_update {pid : Nat} {f : Process → Process} {p : Process} (hp : p ∈ (m.update pid f).living) :
    p ∈ m.living ∨ ∃ q ∈ m.living, q.pid = pid ∧ p = f q := by
  unfold Machine.update at hp
  split at hp
  · next heq =>
    obtain rfl | hothers := List.mem_cons.1 hp
    · exact .inr ⟨m.process, List.mem_cons_self, heq, rfl⟩
    · exact .inl (List.mem_cons_of_mem _ hothers)
  · obtain rfl | hothers := List.mem_cons.1 hp
    · exact .inl List.mem_cons_self
    · obtain ⟨q, hq, rfl⟩ := List.mem_map.1 hothers
      split
      · next heq => exact .inr ⟨q, List.mem_cons_of_mem _ hq, heq, rfl⟩
      · exact .inl (List.mem_cons_of_mem _ hq)

/-- A process that may have the file open is changed, or one that opens nothing. -/
theorem spares_update {pid : Nat} {f : Process → Process}
    (hf : ∀ q, (f q).pid = q.pid ∧ (σ.exempt pid ∨ (f q).fds = q.fds)) : σ.Spares m (m.update pid f) := by
  have hsame : (m.update pid f).files = m.files ∧ (m.update pid f).handles = m.handles ∧
      (m.update pid f).nextPid = m.nextPid := by
    unfold Machine.update
    split <;> exact ⟨rfl, rfl, rfl⟩
  refine h.spares_processes (by rw [hsame.1]) hsame.2.1 (fun p hp hexempt => ?_) (Nat.le_of_eq hsame.2.2.symm)
  obtain hp | ⟨q, hq, rfl, rfl⟩ := mem_living_update hp
  · exact h.kept p hp hexempt
  · obtain ⟨hpid, hshell | hfds⟩ := hf q
    · exact absurd (hpid ▸ hshell) hexempt
    · rw [hfds]
      exact h.kept q hq (hpid ▸ hexempt)

/-- A process comes that does not have the file open. -/
theorem spares_adding {p : Process} (hp : ∀ d ∈ p.fds, ¬ σ.files d.2.file) : σ.Spares m (m.adding p) := by
  refine h.spares_processes rfl rfl (fun q hq hexempt => ?_) (Nat.le_refl _)
  obtain rfl | hq := List.mem_cons.1 hq
  · exact h.kept _ List.mem_cons_self hexempt
  · obtain hq | hq := List.mem_append.1 hq
    · exact h.kept q (List.mem_cons_of_mem _ hq) hexempt
    · rw [List.mem_singleton.1 hq]
      exact hp

/-- A process is started that does not have the file open. -/
theorem spares_starting {p : Process} (hp : ∀ d ∈ p.fds, ¬ σ.files d.2.file) :
    σ.Spares m { m.adding p with nextPid := m.nextPid + 1 } :=
  have hadded := h.spares_adding hp
  hadded.trans (hadded.holds.spares_processes rfl rfl hadded.holds.kept (Nat.le_succ _))

theorem spares_enter (pid : Nat) : σ.Spares m (m.enter pid) := by
  unfold Machine.enter
  split
  · exact h.refl
  · dsimp only
    have hothers : ∀ p ∈ (if m.process.pid = 0 then m.others else m.process :: m.others), p ∈ m.living := by
      intro p hp
      split at hp
      · exact List.mem_cons_of_mem _ hp
      · exact hp
    split
    · exact h.refl
    · next q hq =>
      have hentered : σ.Spares m { m with
          process := q
          others := (if m.process.pid = 0 then m.others else m.process :: m.others).filter (·.pid ≠ pid) } := by
        refine h.spares_processes rfl rfl (fun p hp => ?_) (Nat.le_refl _)
        obtain rfl | hp := List.mem_cons.1 hp
        · exact h.kept p (hothers p (List.mem_of_find?_eq_some hq))
        · exact h.kept p (hothers p (List.mem_of_mem_filter hp))
      exact hentered.trans hentered.holds.spares_refreshed

/-! ### Signals -/

theorem spares_noting (pid : Nat) (signal : Signal) : σ.Spares m (m.update pid (·.noting signal)) := by
  refine h.spares_update fun q => ?_
  unfold Process.noting
  split
  · exact ⟨rfl, .inr rfl⟩
  · exact ⟨rfl, .inr rfl⟩

theorem spares_ended (ended : List Ended) : σ.Spares m { m with ended } :=
  h.spares_processes rfl rfl h.kept (Nat.le_refl _)

theorem spares_supplies (supplies : List (Nat × Bytes)) : σ.Spares m { m with supplies } :=
  h.spares_processes rfl rfl h.kept (Nat.le_refl _)

theorem spares_buried (p : Process) (ending : Ending) : σ.Spares m (m.buried p ending) := by
  unfold Machine.buried
  have hforgotten := h.spares_ended (m.ended.filter (·.parent ≠ p.pid))
  dsimp only
  split
  · exact hforgotten.trans hforgotten.holds.spares_stir
  · next parent hparent =>
    have hnews := hforgotten.trans (hforgotten.holds.spares_ended
      (m.ended.filter (·.parent ≠ p.pid) ++ [{ pid := p.pid, parent := p.parent, ending }]))
    split
    · have hnoted := hnews.trans (hnews.holds.spares_noting p.parent childSignal)
      exact hnoted.trans hnoted.holds.spares_stir
    · exact hnews.trans hnews.holds.spares_stir

theorem spares_finish (ending : Ending) : σ.Spares m (m.finish ending) := by
  have hgone : σ.Spares m { m with process := .nobody } := by
    refine h.spares_processes rfl rfl (fun p hp => ?_) (Nat.le_refl _)
    obtain rfl | hp := List.mem_cons.1 hp
    · exact fun _ => nofun
    · exact h.kept p (List.mem_cons_of_mem _ hp)
  exact hgone.trans (hgone.holds.spares_buried _ _)

theorem spares_send (pid : Nat) (signal : Signal) : σ.Spares m (m.send pid signal).2 := by
  unfold Machine.send
  split
  · exact h.refl
  · next p hp =>
    split
    · exact h.refl
    · have hnoted := h.spares_noting pid signal
      exact hnoted.trans hnoted.holds.spares_stir
    · have hgone : σ.Spares m { m with others := m.others.filter (·.pid ≠ p.pid) } := by
        refine h.spares_processes rfl rfl (fun q hq => h.kept q ?_) (Nat.le_refl _)
        obtain rfl | hq := List.mem_cons.1 hq
        · exact List.mem_cons_self
        · exact List.mem_cons_of_mem _ (List.mem_of_mem_filter hq)
      exact hgone.trans (hgone.holds.spares_buried p _)

end Holds

/-! ### Confined work -/

/-- What a process does from a machine on, and all that it leaves to do, spares the file, whatever others do in
the meantime as long as the seal holds; a process that it starts does so too. -/
def Confines (σ : Seal) : Nat → Machine → Progress → Prop
  | _, m, .finished m' => σ.Spares m m'
  | pid, m, .paused m' _ rest =>
    σ.Spares m m' ∧ m'.process.pid = pid ∧
      ∀ m, σ.Holds m → m.process.pid = pid → σ.Confines pid m (rest m)
  | pid, m, .waiting m' _ rest =>
    σ.Spares m m' ∧ ∀ m, σ.Holds m → m.process.pid = pid → σ.Confines pid m (rest m)
  | pid, m, .forked m' started child rest =>
    σ.Spares m m' ∧ (∀ m, σ.Holds m → m.process.pid = started → σ.Confines started m (child m)) ∧
      ∀ m, σ.Holds m → m.process.pid = pid → σ.Confines pid m (rest m)

/-- The work of a process spares the file. -/
def ConfinesTask (σ : Seal) (pid : Nat) (task : Task) : Prop :=
  ∀ m, σ.Holds m → m.process.pid = pid → σ.Confines pid m (task m)

/-- The work of all threads spares the file. -/
def ConfinesAll (σ : Seal) (threads : List Thread) : Prop := ∀ t ∈ threads, σ.ConfinesTask t.pid t.task

/-! ### Runs -/

theorem spares_follow (limit : Option Nat) (changes : Nat) {t : Thread} {p : Progress} (h : σ.Confines t.pid m p) :
    σ.Spares m (t.follow limit changes p).1 ∧ σ.ConfinesAll (t.follow limit changes p).2.2 := by
  induction p generalizing t m with
  | finished m' => exact ⟨h, nofun⟩
  | paused m' time rest ih =>
    obtain ⟨hspares, hpid, hrest⟩ := h
    rw [Thread.follow]
    split
    · have hmore := ih m' (show σ.Confines { t with clock := t.clock + time, task := rest }.pid m' (rest m') from
        hrest m' hspares.holds hpid)
      exact ⟨hspares.trans hmore.1, hmore.2⟩
    · refine ⟨hspares, fun u hu => ?_⟩
      rw [List.mem_singleton.1 hu]
      exact hrest
  | waiting m' ready rest ih =>
    refine ⟨h.1, fun u hu => ?_⟩
    rw [List.mem_singleton.1 hu]
    exact h.2
  | forked m' started child rest ihc ihr =>
    refine ⟨h.1, fun u hu => ?_⟩
    obtain rfl | hu := List.mem_cons.1 hu
    · exact h.2.2
    · rw [List.mem_singleton.1 hu]
      exact h.2.1

theorem task_woken (now : Nat) (m : Machine) (t : Thread) :
    (t.woken now m).pid = t.pid ∧ (t.woken now m).task = t.task := by
  unfold Thread.woken
  split
  · exact ⟨rfl, rfl⟩
  · split
    · exact ⟨rfl, rfl⟩
    · split <;> exact ⟨rfl, rfl⟩

theorem process_enter {pid : Nat} (h : m.isAlive pid = true) : (m.enter pid).process.pid = pid := by
  unfold Machine.enter
  split
  · assumption
  · next hne =>
    obtain ⟨p, hp, hpid⟩ := List.any_eq_true.1 h
    have hothers : p ∈ (if m.process.pid = 0 then m.others else m.process :: m.others) := by
      obtain rfl | hp := List.mem_cons.1 hp
      · exact absurd (of_decide_eq_true hpid) hne
      · split
        · exact hp
        · exact List.mem_cons_of_mem _ hp
    dsimp only
    split
    · next hnone => exact absurd hpid (List.find?_eq_none.1 hnone p hothers)
    · next q hq =>
      have hq := List.find?_some hq
      exact of_decide_eq_true hq

/-- One turn of one thread. -/
theorem spares_turn {s s' : Schedule} (hholds : σ.Holds s.machine) (hthreads : σ.ConfinesAll s.threads)
    (h : s.Turn s') : σ.Spares s.machine s'.machine ∧ σ.ConfinesAll s'.threads := by
  have hwoken (now : Nat) : σ.ConfinesAll (s.threads.map (Thread.woken now s.machine)) := fun u hu => by
    obtain ⟨t, ht, rfl⟩ := List.mem_map.1 hu
    obtain ⟨hpid, htask⟩ := task_woken now s.machine t
    rw [hpid, htask]
    exact hthreads t ht
  cases h with
  | gone now hperm => exact ⟨hholds.refl, fun u hu => hwoken now u (hperm.mem_iff.2 (List.mem_cons_of_mem _ hu))⟩
  | @work t others more machine later now limit hperm _ halive hwork =>
    have ht : σ.ConfinesTask t.pid t.task := hwoken now t (hperm.mem_iff.2 List.mem_cons_self)
    have hentered := hholds.spares_enter t.pid
    have hpid : (s.machine.enter t.pid).process.pid = t.pid := process_enter halive
    have hturn := spares_follow limit (s.machine.enter t.pid).changes (ht _ hentered.holds hpid)
    rw [show t.follow limit _ _ = _ from hwork] at hturn
    obtain ⟨hspares, hmore⟩ := hturn
    refine ⟨(hentered.trans hspares).trans (hspares.holds.spares_enter _), fun u hu => ?_⟩
    obtain hu | hu := List.mem_append.1 hu
    · exact hwoken now u (hperm.mem_iff.2 (List.mem_cons_of_mem _ hu))
    · exact hmore u hu

/-- **Confined threads spare the file**, whichever has its turn whenever. -/
theorem spares_turns {s s' : Schedule} (hholds : σ.Holds s.machine) (hthreads : σ.ConfinesAll s.threads)
    (h : Relation.ReflTransGen Schedule.Turn s s') : σ.Spares s.machine s'.machine ∧ σ.ConfinesAll s'.threads := by
  induction h with
  | refl => exact ⟨hholds.refl, hthreads⟩
  | tail _ hturn ih =>
    obtain ⟨hspares, hconfined⟩ := spares_turn ih.1.holds ih.2 hturn
    exact ⟨ih.1.trans hspares, hconfined⟩

/-! ### Work that is confined -/

theorem Confines.of_spares {pid : Nat} {p : Progress} (h : σ.Spares m m') (hp : σ.Confines pid m' p) :
    σ.Confines pid m p := by
  cases p with
  | finished => exact h.trans hp
  | paused => exact ⟨h.trans hp.1, hp.2⟩
  | waiting => exact ⟨h.trans hp.1, hp.2⟩
  | forked => exact ⟨h.trans hp.1, hp.2⟩

section

variable {α β : Type} {pid : Nat}

/-- Work with a result, done from a machine on, spares the file if all that follows it does. -/
def ConfinesFrom (σ : Seal) (pid : Nat) (m : Machine) (work : Eval α) : Prop :=
  ∀ next stop, (∀ a, σ.ConfinesTask pid (next a)) → (∀ s, σ.ConfinesTask pid (stop s)) →
    σ.Confines pid m (work next stop m)

/-- Work with a result spares the file. -/
def ConfinesWork (σ : Seal) (pid : Nat) (work : Eval α) : Prop :=
  ∀ m, σ.Holds m → m.process.pid = pid → σ.ConfinesFrom pid m work

theorem ConfinesWork.task {work : Eval Unit} (h : σ.ConfinesWork pid work) : σ.ConfinesTask pid work.task :=
  fun m hm hpid => h m hm hpid _ _ (fun _ _ hm _ => hm.refl) fun _ _ hm _ => hm.refl

theorem confines_pure (a : α) : σ.ConfinesWork pid (pure a : Eval α) :=
  fun m hm hpid _ _ hnext _ => hnext a m hm hpid

theorem confines_throw (s : Stop) : σ.ConfinesWork pid (throw s : Eval α) :=
  fun m hm hpid _ _ _ hstop => hstop s m hm hpid

theorem ConfinesWork.bind {work : Eval α} {f : α → Eval β} (h : σ.ConfinesWork pid work)
    (hf : ∀ a, σ.ConfinesWork pid (f a)) : σ.ConfinesWork pid (work >>= f) :=
  fun m hm hpid next stop hnext hstop =>
    h m hm hpid _ stop (fun a m hm hpid => hf a m hm hpid next stop hnext hstop) hstop

/-- Work that begins by looking at the machine. -/
theorem confines_get_bind {f : Machine → Eval α}
    (h : ∀ m, σ.Holds m → m.process.pid = pid → σ.ConfinesFrom pid m (f m)) :
    σ.ConfinesWork pid ((get : Eval Machine) >>= f) := h

/-- Work that begins by looking at its process. -/
theorem confines_process_bind {f : Process → Eval α}
    (h : ∀ m, σ.Holds m → m.process.pid = pid → σ.ConfinesFrom pid m (f m.process)) :
    σ.ConfinesWork pid (process >>= f) := h

/-- Work that changes the machine and goes on. -/
theorem confines_set_bind (hspares : σ.Spares m m') (hpid : m'.process.pid = pid) {f : PUnit → Eval α}
    (hf : σ.ConfinesWork pid (f ⟨⟩)) : σ.ConfinesFrom pid m (set m' >>= f) :=
  fun next stop hnext hstop => .of_spares hspares (hf m' hspares.holds hpid next stop hnext hstop)

theorem confines_modify {f : Machine → Machine}
    (h : ∀ m, σ.Holds m → m.process.pid = pid → σ.Spares m (f m) ∧ (f m).process.pid = pid) :
    σ.ConfinesWork pid (modify f : Eval PUnit) := fun m hm hpid _ _ hnext _ =>
  have ⟨hspares, hpid'⟩ := h m hm hpid
  .of_spares hspares (hnext _ _ hspares.holds hpid')

theorem confines_awaiting (ready : Machine → Bool) : σ.ConfinesWork pid (Eval.awaiting ready) :=
  fun m hm hpid next stop hnext _ => by
  unfold Eval.awaiting
  split
  · exact hnext () m hm hpid
  · exact ⟨hm.refl, hnext ()⟩

end

theorem Holds.spares_process (h : σ.Holds m) {p : Process} (hpid : p.pid = m.process.pid)
    (hfds : ∀ d ∈ p.fds, d ∈ m.process.fds) : σ.Spares m { m with process := p } :=
  h.spares_processes rfl rfl (fun q hq hexempt d hd => by
    obtain rfl | hq := List.mem_cons.1 hq
    · exact h.kept m.process List.mem_cons_self (hpid ▸ hexempt) d (hfds d hd)
    · exact h.kept q (List.mem_cons_of_mem _ hq) hexempt d hd) (Nat.le_refl _)

/-! ### Copying for the shell -/

variable (pid : Nat)

theorem confines_meetBrokenPipe : σ.ConfinesWork pid meetBrokenPipe := by
  have hnoting : σ.ConfinesWork pid (modifyProcess (·.noting pipeSignal)) :=
    confines_modify fun m hm hpid => by
      have hnoted : (m.process.noting pipeSignal).pid = m.process.pid ∧
          (m.process.noting pipeSignal).fds = m.process.fds := by
        unfold Process.noting
        split <;> exact ⟨rfl, rfl⟩
      exact ⟨hm.spares_process hnoted.1 fun d hd => hnoted.2 ▸ hd, hnoted.1.trans hpid⟩
  refine confines_process_bind fun m hm hpid => ?_
  dsimp only
  split
  · exact (confines_throw _).bind (fun _ => confines_pure _) m hm hpid
  · exact hnoting.bind (fun _ => confines_pure _) m hm hpid
  · exact confines_pure _ m hm hpid

section

variable {file : Nat} (hfile : ¬ σ.files file) (bound : Nat)

include hfile

/-- Writing to another open file spares the file. -/
theorem confines_writePortions (starting : Bool) (bs : Bytes) :
    σ.ConfinesWork pid (writePortions file bound starting bs) := by
  induction bound generalizing starting bs with
  | zero => exact confines_pure _
  | succ bound ih =>
    refine confines_get_bind fun m hm hpid => ?_
    split
    · exact confines_pure _ m hm hpid
    · next h hh =>
      have havoids := hm.leads file h hh hfile
      split
      · split
        · exact confines_pure _ m hm hpid
        · next h' files hwrite =>
          have hnode := (FileSystem.write_cases hwrite).1
          refine confines_set_bind (hm.spares_files (node?_write hwrite havoids)) hpid ?_
          refine (confines_modify fun m hm hpid => ?_).bind fun _ => confines_pure _
          exact ⟨hm.spares_setHandle hfile (hnode ▸ havoids), hpid⟩
      · split
        · exact ((confines_meetBrokenPipe pid).bind fun _ => confines_pure _) m hm hpid
        · dsimp only
          have hpushed (pipe : Pipe) : σ.Spares m { m with files := m.files.set h.node (.pipe pipe) }.stir :=
            have hset := hm.spares_files (node?_set havoids m.files (.pipe pipe))
            hset.trans hset.holds.spares_stir
          refine confines_set_bind (hpushed _) hpid ?_
          split
          · exact confines_pure _
          · exact (confines_awaiting _).bind fun _ => ih _ _

theorem confines_writeHandle (cs : Chars) : σ.ConfinesWork pid (writeHandle file cs) := by
  refine confines_get_bind fun m hm hpid => ?_
  split
  · exact confines_pure _ m hm hpid
  · split
    · exact confines_writePortions pid hfile _ _ _ m hm hpid
    · exact confines_pure _ m hm hpid

end

/-- A process that does not have the file open does not reach it through a descriptor. -/
theorem confines_writeTo (hpid : ¬ σ.exempt pid) (fd : Nat) (cs : Chars) : σ.ConfinesWork pid (writeTo fd cs) := by
  unfold writeTo
  split
  · exact confines_pure _
  · refine confines_process_bind fun m hm hp => ?_
    cases hfile : m.process.file? fd with
    | none => exact confines_pure _ m hm hp
    | some file =>
      obtain ⟨d, hd, rfl⟩ := Option.map_eq_some_iff.1 hfile
      obtain ⟨before, after, hfds, -⟩ := List.lookup_eq_some_iff.1 hd
      have hmem : (fd, d) ∈ m.process.fds := by simp [hfds]
      exact confines_writeHandle pid (hm.kept m.process List.mem_cons_self (hp ▸ hpid) _ hmem) cs m hm hp

theorem confines_close (file : Nat) : σ.ConfinesWork pid (Worker.copySupply.close file) := by
  refine confines_process_bind fun m hm hpid => ?_
  have hclosed : σ.Spares m
      { m with process := { m.process with fds := m.process.fds.filter (·.2.file ≠ file) } }.refreshed.stir :=
    have hless := hm.spares_process (p := { m.process with fds := m.process.fds.filter (·.2.file ≠ file) }) rfl
      fun d hd => List.mem_of_mem_filter hd
    have hfresh := hless.trans hless.holds.spares_refreshed
    hfresh.trans hfresh.holds.spares_stir
  exact fun next _ hnext _ => .of_spares hclosed (hnext () _ hclosed.holds hpid)

/-- Copying to another open file spares the file. -/
theorem confines_copySupply {file : Nat} (hfile : ¬ σ.files file) (bound : Nat) :
    σ.ConfinesWork pid (Worker.copySupply file bound) := by
  induction bound with
  | zero => exact confines_close pid file
  | succ bound ih =>
    refine confines_get_bind fun m hm hpid => ?_
    split
    · exact confines_close pid file m hm hpid
    · exact confines_close pid file m hm hpid
    · refine confines_set_bind (hm.spares_supplies (m.supplies.map _)) ?_ ?_
      · exact hpid
      · refine (confines_writeHandle pid hfile _).bind fun result => ?_
        split
        · exact ih
        · exact confines_close pid file

end Seal

end LineShell.Script
