import LineShell.Script.Task

/-!
# Taking turns

How many processes run on one machine.

## The model

A `Thread` is a task of a process, with a clock of its own. The thread whose clock is furthest behind
goes on, until its clock has passed that of another one or something has changed that another one may
wait for. A thread that waits goes on, a little later, when what it waits for holds. So the order of
events is that of a machine on which all threads run side by side, as far as clocks tell.
-/

namespace LineShell.Script

/-! ### What is left of tasks -/

namespace Task

/-- One task is what another one leaves to do when it goes on. -/
inductive Below : Task → Task → Prop where
  /-- After a while. -/
  | paused {t rest : Task} {m m' : Machine} {time : Nat} : t m = .paused m' time rest → Below rest t
  /-- When something holds. -/
  | waiting {t rest : Task} {m m' : Machine} {ready : Machine → Bool} :
      t m = .waiting m' ready rest → Below rest t
  /-- Beside a process that was started. -/
  | forked {t child rest : Task} {m m' : Machine} {pid : Nat} :
      t m = .forked m' pid child rest → Below rest t
  /-- For the process that was started. -/
  | child {t child rest : Task} {m m' : Machine} {pid : Nat} :
      t m = .forked m' pid child rest → Below child t

/-- What a task leaves to do is well-founded, by the progress that it makes. -/
def Founded : Progress → Prop
  | .finished _ => True
  | .paused _ _ rest | .waiting _ _ rest => Acc Below rest
  | .forked _ _ child rest => Acc Below child ∧ Acc Below rest

theorem acc_of_founded {t : Task} (h : ∀ m, Founded (t m)) : Acc Below t := by
  refine ⟨t, fun u hu => ?_⟩
  cases hu with
  | @paused _ _ m _ _ ht =>
    have := h m
    rwa [ht] at this
  | @waiting _ _ m _ _ ht =>
    have := h m
    rwa [ht] at this
  | @forked _ _ _ m _ _ ht =>
    have := h m
    rw [ht] at this
    exact this.2
  | @child _ _ _ m _ _ ht =>
    have := h m
    rw [ht] at this
    exact this.1

theorem founded (p : Progress) : Founded p := by
  induction p with
  | finished m => trivial
  | paused m time rest ih => exact acc_of_founded ih
  | waiting m ready rest ih => exact acc_of_founded ih
  | forked m pid child rest ihc ihr => exact ⟨acc_of_founded ihc, acc_of_founded ihr⟩

theorem below_wf : WellFounded Below := ⟨fun t => acc_of_founded fun m => founded (t m)⟩

/-- One list of tasks comes from another when what is left of a task takes its place. -/
def Fewer (ts' ts : List Task) : Prop :=
  ∃ t rest more, ts.Perm (t :: rest) ∧ ts'.Perm (rest ++ more) ∧
    ∀ u ∈ more, Relation.TransGen Below u t

theorem Fewer.of_perm {ts us us' : List Task} (hp : us.Perm us') (h : Fewer ts us) : Fewer ts us' := by
  obtain ⟨t, rest, more, hus, hts, hmore⟩ := h
  exact ⟨t, rest, more, hp.symm.trans hus, hts, hmore⟩

theorem acc_of_perm {ts us : List Task} (hp : ts.Perm us) (h : Acc Fewer ts) : Acc Fewer us :=
  ⟨us, fun _ hv => h.inv (hv.of_perm hp.symm)⟩

theorem acc_append {ts more : List Task} (hts : Acc Fewer ts)
    (hmore : ∀ u ∈ more, ∀ us, Acc Fewer us → Acc Fewer (u :: us)) : Acc Fewer (more ++ ts) := by
  induction more with
  | nil => exact hts
  | cons u more ih =>
    exact hmore u (.head _) _ (ih fun v hv => hmore v (.tail _ hv))

theorem acc_cons {t : Task} (ht : Acc (Relation.TransGen Below) t) {ts : List Task}
    (hts : Acc Fewer ts) : Acc Fewer (t :: ts) := by
  induction ht generalizing ts with
  | intro t _ iht =>
    induction hts with
    | intro ts hts ihts =>
      refine ⟨_, fun us ⟨u, rest, more, hp, hus, hmore⟩ => ?_⟩
      obtain rfl | hmem := List.mem_cons.1 (hp.mem_iff.1 (.head ts))
      · -- The task itself gives way.
        have hrest : rest.Perm ts := hp.cons_inv.symm
        have hacc : Acc Fewer (more ++ ts) :=
          acc_append ⟨ts, hts⟩ fun v hv vs hvs => iht v (hmore v hv) hvs
        exact acc_of_perm ((List.perm_append_comm.trans (hrest.symm.append_right more)).trans hus.symm) hacc
      · -- One of the others gives way.
        obtain ⟨before, after, rfl⟩ := List.append_of_mem hmem
        have hts' : ts.Perm (u :: (before ++ after)) := by
          have hmid : (u :: (before ++ t :: after)).Perm (t :: u :: (before ++ after)) :=
            (List.perm_middle.cons u).trans (.swap ..)
          exact (hp.trans hmid).cons_inv
        have hacc := ihts _ ⟨u, before ++ after, more, hts', .refl _, hmore⟩
        refine acc_of_perm (.trans ?_ hus.symm) hacc
        exact (List.perm_middle.symm.append_right more)

theorem fewer_wf : WellFounded Fewer := by
  refine ⟨fun ts => ?_⟩
  induction ts with
  | nil =>
    refine ⟨_, fun us hus => ?_⟩
    obtain ⟨u, rest, more, hp, -⟩ := hus
    exact absurd hp.length_eq (by simp)
  | cons t ts ih => exact acc_cons (below_wf.transGen.apply t) ih

end Task

/-! ### Threads -/

/-- A task of a process. -/
structure Thread where
  /-- The process. -/
  pid : Nat
  /-- How far it is in time. -/
  clock : Nat
  /-- What is left to do. -/
  task : Task
  /-- What it waits for, if it waits. -/
  ready : Option (Machine → Bool) := none
  /-- How many changes there had been when it was last found to have to wait. -/
  seen : Nat := 0

namespace Thread

/-- How long it takes a process to begin, once it was started. -/
def startTime : Nat := 100

/-- How long it takes a thread to go on, once it can. -/
def wakeTime : Nat := 20

/-- A clock has not passed a limit, if there is one. -/
def within (limit : Option Nat) (clock : Nat) : Bool := limit.all (clock ≤ ·)

/-- What comes of the progress of a thread: it goes on until its clock has passed a limit, something has
changed, or it stops. Gives the time, and the threads that come of it. -/
def follow (limit : Option Nat) (changes : Nat) :
    Thread → Progress → Machine × Nat × List Thread
  | t, .finished m => (m, t.clock, [])
  | t, .paused m time task =>
    let t := { t with clock := t.clock + time, task }
    if within limit t.clock && m.changes = changes then follow limit changes t (task m)
    else (m, t.clock, [t])
  | t, .waiting m ready task =>
    (m, t.clock, [{ t with task, ready := some ready, seen := m.changes }])
  | t, .forked m pid child task =>
    (m, t.clock, [{ t with task }, { pid, clock := t.clock + startTime, task := child }])

/-- Let a thread have its turn. -/
def turn (limit : Option Nat) (t : Thread) (m : Machine) : Machine × Nat × List Thread :=
  follow limit m.changes t (t.task m)

/-- The thread, which goes on from some time on if what it waits for holds. -/
def woken (now : Nat) (m : Machine) (t : Thread) : Thread :=
  match t.ready with
  | none => t
  | some ready =>
    if t.seen = m.changes then t
    else if ready m then { t with ready := none, clock := max t.clock now + wakeTime }
    else { t with seen := m.changes }

/-- The thread does not wait. -/
def isReady (t : Thread) : Bool := t.ready.isNone

/-- The thread that is furthest behind of those that do not wait, and the others. -/
def furthestBehind : List Thread → Option (Thread × List Thread)
  | [] => none
  | t :: ts =>
    match furthestBehind ts with
    | none => if t.isReady then some (t, ts) else none
    | some (u, others) =>
      if t.isReady && t.clock ≤ u.clock then some (t, ts) else some (u, t :: others)

theorem furthestBehind_perm {ts others : List Thread} {t : Thread}
    (h : furthestBehind ts = some (t, others)) : ts.Perm (t :: others) := by
  induction ts generalizing t others with
  | nil => simp [furthestBehind] at h
  | cons u ts ih =>
    rw [furthestBehind] at h
    cases hf : furthestBehind ts with
    | none =>
      simp only [hf, Option.ite_none_right_eq_some, Option.some.injEq, Prod.mk.injEq] at h
      obtain ⟨-, rfl, rfl⟩ := h
      exact .refl _
    | some found =>
      obtain ⟨v, rest⟩ := found
      simp only [hf] at h
      split at h
      · cases h
        exact .refl _
      · cases h
        exact ((ih hf).cons u).trans (.swap ..)

theorem below_of_mem_follow {limit : Option Nat} {changes : Nat} {p : Progress} {t u : Thread}
    (hu : u ∈ (follow limit changes t p).2.2) {m : Machine} {task : Task} (hp : task m = p) :
    Relation.TransGen Task.Below u.task task := by
  induction p generalizing t m task with
  | finished => simp [follow] at hu
  | paused m' time rest ih =>
    rw [follow] at hu
    split at hu
    · exact .tail (ih m' hu rfl) (.paused hp)
    · obtain rfl := List.mem_singleton.1 hu
      exact .single (.paused hp)
  | waiting m' ready rest ih =>
    obtain rfl := List.mem_singleton.1 hu
    exact .single (.waiting hp)
  | forked m' pid child rest ihc ihr =>
    simp only [follow, List.mem_cons, List.not_mem_nil, or_false] at hu
    obtain rfl | rfl := hu
    · exact .single (.forked hp)
    · exact .single (.child hp)

end Thread

/-- A machine and what is to be done on it. -/
structure Schedule where
  /-- The machine. -/
  machine : Machine
  /-- The threads. -/
  threads : List Thread
  /-- How far the machine is in time. -/
  now : Nat := 0

namespace Schedule

/-- Let one thread have its turn, beside the running process; none if all wait, or all that do not are beyond a
limit. -/
def step (limit : Option Nat) (s : Schedule) : Option Schedule :=
  let threads := s.threads.map (Thread.woken s.now s.machine)
  match Thread.furthestBehind threads with
  | none => none
  | some (t, others) =>
    if ! Thread.within limit t.clock then none
    else if ! s.machine.isAlive t.pid then some { s with threads := others }
    else
      let next := ((Thread.furthestBehind others).map (·.1.clock)).or limit
      let (machine, now, more) := t.turn next (s.machine.enter t.pid)
      some { machine := machine.enter s.machine.process.pid, threads := others ++ more, now }

/-! ### Every run ends

A turn puts what is left of a task in the place of the task, and what is left of a task is less than the
task. -/

/-- What is left to do. -/
def tasks (s : Schedule) : List Task := s.threads.map (·.task)

theorem woken_tasks (now : Nat) (m : Machine) (ts : List Thread) :
    (ts.map (Thread.woken now m)).map (·.task) = ts.map (·.task) := by
  rw [List.map_map]
  refine List.map_congr_left fun t _ => ?_
  simp only [Function.comp_apply, Thread.woken]
  split
  · rfl
  · split
    · rfl
    · split <;> rfl

theorem step_fewer {limit : Option Nat} {s s' : Schedule} (h : s.step limit = some s') :
    Task.Fewer s'.tasks s.tasks := by
  unfold step at h
  cases hf : Thread.furthestBehind (s.threads.map (Thread.woken s.now s.machine)) with
  | none => simp [hf] at h
  | some found =>
    obtain ⟨t, others⟩ := found
    have hp : s.tasks.Perm (t.task :: others.map (·.task)) := by
      rw [tasks, ← woken_tasks s.now s.machine]
      exact (Thread.furthestBehind_perm hf).map (·.task)
    simp only [hf] at h
    split at h
    · cases h
    · split at h
      · cases h
        exact ⟨t.task, _, [], hp, by simp [tasks], by simp⟩
      · cases h
        refine ⟨t.task, _, _, hp, by rw [tasks, List.map_append], fun u hu => ?_⟩
        obtain ⟨v, hv, rfl⟩ := List.mem_map.1 hu
        exact Thread.below_of_mem_follow hv rfl

/-- Let threads have their turns until something holds, all wait, or time has passed a limit. -/
def run (holds : Machine → Bool) (limit : Option Nat) (s : Schedule) : Schedule :=
  if holds s.machine then s
  else match _h : s.step limit with
    | none => s
    | some s' => run holds limit s'
termination_by Task.fewer_wf.wrap s.tasks
decreasing_by exact step_fewer ‹_›

end Schedule

end LineShell.Script
