import LineShell.Script.Schedule
import Mathlib.Logic.Relation

/-!
# Turns in any order

Which thread of a machine has its turn next, and for how long, depends on clocks. A `Turn` leaves both open, so what
holds after every turn holds whatever the clocks say. Nothing can go on for ever: with each turn there is less to do.
-/

namespace LineShell.Script

namespace Thread

theorem ready_of_furthestBehind {ts others : List Thread} {t : Thread} (h : furthestBehind ts = some (t, others)) :
    t.ready = none := by
  induction ts generalizing t others with
  | nil => simp [furthestBehind] at h
  | cons u ts ih =>
    rw [furthestBehind] at h
    cases hf : furthestBehind ts with
    | none =>
      simp only [hf, Option.ite_none_right_eq_some, Option.some.injEq, Prod.mk.injEq] at h
      obtain ⟨hu, rfl, -⟩ := h
      exact Option.isNone_iff_eq_none.1 hu
    | some found =>
      obtain ⟨v, rest⟩ := found
      simp only [hf] at h
      split at h
      · next hu =>
        obtain ⟨rfl, -⟩ := Prod.mk.inj (Option.some.inj h)
        simp only [Bool.and_eq_true] at hu
        exact Option.isNone_iff_eq_none.1 hu.1
      · obtain ⟨rfl, -⟩ := Prod.mk.inj (Option.some.inj h)
        exact ih hf

theorem ready_of_furthestBehind_eq_none {ts : List Thread} (h : furthestBehind ts = none) :
    ∀ t ∈ ts, t.ready ≠ none := by
  induction ts with
  | nil => simp
  | cons u ts ih =>
    rw [furthestBehind] at h
    cases hf : furthestBehind ts with
    | none =>
      simp only [hf] at h
      intro t ht
      obtain rfl | ht := List.mem_cons.1 ht
      · intro hnone
        simp [isReady, hnone] at h
      · exact ih hf t ht
    | some found =>
      simp only [hf] at h
      split at h <;> cases h

end Thread

namespace Schedule

/-- A thread that does not wait has its turn beside the running process, whichever thread it is, and for however
long. -/
inductive Turn (s : Schedule) : Schedule → Prop where
  /-- The thread of a process that has ended goes. -/
  | gone {t : Thread} {others : List Thread} (now : Nat) :
    (s.threads.map (Thread.woken now s.machine)).Perm (t :: others) → t.ready = none →
      s.machine.isAlive t.pid = false → Turn s { s with threads := others }
  /-- The thread works. -/
  | work {t : Thread} {others more : List Thread} {machine : Machine} {later : Nat} (now : Nat) (limit : Option Nat) :
    (s.threads.map (Thread.woken now s.machine)).Perm (t :: others) → t.ready = none →
      s.machine.isAlive t.pid = true → t.turn limit (s.machine.enter t.pid) = (machine, later, more) →
      Turn s { machine := machine.enter s.machine.process.pid, threads := others ++ more, now := later }

variable {s s' : Schedule}

/-- The turn of the thread that is furthest behind is one of them. -/
theorem turn_of_step {limit : Option Nat} (h : s.step limit = some s') : s.Turn s' := by
  unfold step at h
  cases hfirst : Thread.furthestBehind (s.threads.map (Thread.woken s.now s.machine)) with
  | none => simp [hfirst] at h
  | some found =>
    obtain ⟨t, others⟩ := found
    have hperm := Thread.furthestBehind_perm hfirst
    have hready := Thread.ready_of_furthestBehind hfirst
    simp only [hfirst] at h
    split at h
    · cases h
    · split at h
      · next hgone =>
        cases h
        exact .gone s.now hperm hready (by simpa using hgone)
      · next halive =>
        cases h
        exact .work s.now _ hperm hready (by simpa using halive) rfl

/-- If no thread has a turn, all wait. -/
theorem ready_of_step_eq_none (h : s.step none = none) (now : Nat) :
    ∀ t ∈ s.threads.map (Thread.woken now s.machine), t.ready ≠ none := by
  have hnone : Thread.furthestBehind (s.threads.map (Thread.woken s.now s.machine)) = none := by
    unfold step at h
    cases hfirst : Thread.furthestBehind (s.threads.map (Thread.woken s.now s.machine)) with
    | none => rfl
    | some found =>
      simp only [hfirst, Thread.within, Option.all_none, Bool.not_true, Bool.false_eq_true, if_false] at h
      split at h <;> cases h
  intro t ht hready
  obtain ⟨u, hu, rfl⟩ := List.mem_map.1 ht
  -- Whether a thread wakes up does not depend on the time.
  refine Thread.ready_of_furthestBehind_eq_none hnone _ (List.mem_map_of_mem hu) ?_
  revert hready
  unfold Thread.woken
  split
  · exact id
  · split
    · exact id
    · split
      · exact fun _ => rfl
      · exact id

/-- All threads wait if and only if none can have a turn. -/
theorem not_turn_of_step_eq_none (h : s.step none = none) : ¬ s.Turn s' := by
  intro hturn
  cases hturn with
  | gone now hperm hready => exact ready_of_step_eq_none h now _ (hperm.mem_iff.2 List.mem_cons_self) hready
  | work now limit hperm hready => exact ready_of_step_eq_none h now _ (hperm.mem_iff.2 List.mem_cons_self) hready

/-- With each turn there is less to do. -/
theorem Turn.fewer (h : s.Turn s') : Task.Fewer s'.tasks s.tasks := by
  have htasks {now : Nat} {t : Thread} {others : List Thread}
      (hperm : (s.threads.map (Thread.woken now s.machine)).Perm (t :: others)) :
      s.tasks.Perm (t.task :: others.map (·.task)) := by
    rw [tasks, ← woken_tasks now s.machine]
    exact hperm.map (·.task)
  cases h with
  | gone now hperm => exact ⟨_, _, [], htasks hperm, by simp [tasks], by simp⟩
  | work now limit hperm _ _ hturn =>
    refine ⟨_, _, _, htasks hperm, by rw [tasks, List.map_append], fun u hu => ?_⟩
    obtain ⟨v, hv, rfl⟩ := List.mem_map.1 hu
    have hfollow := congrArg (fun result => v ∈ result.2.2) hturn
    exact Thread.below_of_mem_follow (hfollow.mpr hv) rfl

theorem run_eq (holds : Machine → Bool) (limit : Option Nat) (s : Schedule) :
    s.run holds limit =
      if holds s.machine then s
      else match s.step limit with
        | none => s
        | some s' => s'.run holds limit := by
  rw [run]
  split
  · rfl
  · split <;> simp_all

/-- A run is a row of turns. -/
theorem reflTransGen_turn_run (holds : Machine → Bool) (limit : Option Nat) (s : Schedule) :
    Relation.ReflTransGen Turn s (s.run holds limit) := by
  induction hts : s.tasks using Task.fewer_wf.induction generalizing s with
  | _ ts ih =>
    rw [run_eq]
    split
    · exact .refl
    · split
      · exact .refl
      · next s' hstep => exact .head (turn_of_step hstep) (ih _ (hts ▸ step_fewer hstep) s' rfl)

/-- A run is over when what it ran for holds, or all threads wait. -/
theorem run_ends (holds : Machine → Bool) (s : Schedule) :
    holds (s.run holds none).machine = true ∨ (s.run holds none).step none = none := by
  induction hts : s.tasks using Task.fewer_wf.induction generalizing s with
  | _ ts ih =>
    rw [run_eq]
    split
    · next hholds => exact .inl hholds
    · split
      · next hnone => exact .inr hnone
      · next s' hstep => exact ih _ (hts ▸ step_fewer hstep) s' rfl

end Schedule

end LineShell.Script
