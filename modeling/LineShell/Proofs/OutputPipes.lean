import LineShell.Launch
import LineShell.Proofs.Guards

/-!
# Output streams at the start

The program is given two pipes for its results and its messages, which somebody else empties. When it starts, each of
its output streams has its pipe to itself.

## The model

`Launch.outputSeal` is the seal on the pipe behind an output stream: two open files lead there, one to write to it and
one to read from it, and besides the shell only the process that empties it has it open.
-/

namespace LineShell.Launch

open Script (Machine Seal)

/-- What opening files one after the other comes to. -/
theorem foldl_opening (handles : List Handle) {m : Machine} {known : List Handle} (hsize : m.handles.size = known.length)
    (hget : ∀ n : Nat, m.handles[n]? = known[n]?) :
    ∃ table : Std.TreeMap Nat Handle, handles.foldl (fun m handle => (m.opening handle).2) m = { m with handles := table } ∧
      table.size = known.length + handles.length ∧ ∀ n : Nat, table[n]? = (known ++ handles)[n]? := by
  induction handles generalizing m known with
  | nil => exact ⟨m.handles, rfl, hsize, by simpa using hget⟩
  | cons handle handles ih =>
    have hnew : (m.opening handle).2.handles = m.handles.insert known.length handle := by
      rw [← hsize]
      rfl
    have hsize' : (m.opening handle).2.handles.size = (known ++ [handle]).length := by
      have hfresh : m.handles.contains known.length = false := by
        rw [Std.TreeMap.contains_eq_isSome_getElem?, hget, List.getElem?_eq_none (Nat.le_refl _), Option.isSome_none]
      rw [hnew, Std.TreeMap.size_insert, if_neg (Bool.eq_false_iff.1 hfresh), hsize,
        List.length_append, List.length_singleton]
    have hget' : ∀ n : Nat, (m.opening handle).2.handles[n]? = (known ++ [handle])[n]? := fun n => by
      simp only [hnew, Std.TreeMap.getElem?_insert, Std.LawfulEqCmp.compare_eq_iff_eq, hget]
      split
      · next heq => rw [← heq, List.getElem?_concat_length]
      · next hne =>
        by_cases hlt : n < known.length
        · rw [List.getElem?_append_left hlt]
        · rw [List.getElem?_eq_none (Nat.not_lt.1 hlt), List.getElem?_eq_none]
          rw [List.length_append, List.length_singleton]
          omega
    obtain ⟨table, heq, hlength, htable⟩ := ih hsize' hget'
    refine ⟨table, heq, ?_, ?_⟩
    · rw [hlength, List.length_append, List.length_singleton, List.length_cons, Nat.add_assoc, Nat.add_comm 1]
    · simpa using htable

/-- A seal holds when files are opened on a machine without open files, if it fits to their list. -/
theorem holds_foldl_opening {σ : Seal} {m : Machine} (hempty : m.handles = {}) (handles : List Handle)
    (hthere : ∃ content, m.files.node? σ.node = some content ∧
      ∀ parent entries alive mode, content ≠ .directory parent entries alive mode)
    (hleads : ∀ (n : Nat) handle, handles[n]? = some handle → ¬ σ.files n → σ.Avoids handle.node)
    (hknown : ∀ n, σ.files n → ∃ handle, handles[n]? = some handle ∧ handle.node = σ.node)
    (hkept : ∀ p ∈ m.living, ¬ σ.exempt p.pid → ∀ d ∈ p.fds, ¬ σ.files d.2.file)
    (hfresh : ∀ pid, m.nextPid ≤ pid → ¬ σ.exempt pid) :
    σ.Holds (handles.foldl (fun m handle => (m.opening handle).2) m) := by
  have hsize : m.handles.size = ([] : List Handle).length := by
    rw [hempty]
    rfl
  have hget (n : Nat) : m.handles[n]? = ([] : List Handle)[n]? := by
    rw [hempty]
    rfl
  obtain ⟨table, heq, hsize, htable⟩ := foldl_opening handles hsize hget
  rw [heq]
  refine ⟨hthere, fun n handle hn => hleads n handle ?_, fun n hn => ?_, hkept, hfresh⟩
  · exact (htable n).symm.trans hn
  · obtain ⟨handle, hhandle, hnode⟩ := hknown n hn
    refine ⟨?_, handle, (htable n).trans hhandle, hnode⟩
    rw [hsize]
    exact Nat.lt_of_lt_of_le (List.getElem?_eq_some_iff.1 hhandle).1 (Nat.le_add_left _ _)

/-- The file behind an output stream of the program: a pipe that somebody else empties. -/
def outputSeal (files : FileSystem) (s : Nat) : Seal where
  node := .pipe (files.pipes.size + s)
  files file := file = s + 1 ∨ file = s + 3
  exempt pid := pid = shellPid ∨ pid = readerPid
  shell := .inl rfl

/-- Both output streams have their files to themselves when the program starts. -/
theorem guarded_world (launch : Launch) (files : FileSystem) (cwd : NodeId) (input : Bytes) {s : Nat} (hs : s < 2) :
    (launch.world files cwd input).Guarded (outputSeal files s) s := by
  have hcases : s = 0 ∨ s = 1 := by omega
  have hholds : (outputSeal files s).Holds (launch.world files cwd input).machine := by
    refine Seal.Spares.holds (Seal.Holds.spares_refreshed (holds_foldl_opening rfl _ ?_ ?_ ?_ ?_ ?_))
    · refine ⟨.pipe (.unbounded []), ?_, nofun⟩
      change (((files.pipes.push _).push _)[files.pipes.size + s]?).map Node.pipe = _
      obtain rfl | rfl := hcases <;> simp only [Array.getElem?_push, Array.size_push] <;> simp
    · intro n handle hhandle hother
      have hnodes : n = 0 ∧ handle.node = .entry files.nodes.size ∨
          (n = 1 ∨ n = 3) ∧ handle.node = .pipe files.pipes.size ∨
          (n = 2 ∨ n = 4) ∧ handle.node = .pipe (files.pipes.size + 1) := by
        match n with
        | 0 | 1 | 2 | 3 | 4 =>
          cases hhandle
          simp
      simp only [outputSeal] at hother
      refine .inl ?_
      obtain ⟨-, hnode⟩ | ⟨hn, hnode⟩ | ⟨hn, hnode⟩ := hnodes
      · rw [hnode]
        exact nofun
      · rw [hnode]
        simp only [outputSeal, ne_eq, NodeId.pipe.injEq]
        omega
      · rw [hnode]
        simp only [outputSeal, ne_eq, NodeId.pipe.injEq]
        omega
    · rintro n (rfl | rfl)
      · obtain rfl | rfl := hcases <;> exact ⟨_, rfl, by simp [outputSeal]⟩
      · obtain rfl | rfl := hcases <;> exact ⟨_, rfl, by simp [outputSeal]⟩
    · intro p hp hexempt
      obtain rfl | hp := List.mem_cons.1 hp
      · exact absurd (.inl rfl) hexempt
      · rw [List.mem_singleton.1 hp] at hexempt
        exact absurd (.inr rfl) hexempt
    · rintro pid hpid (rfl | rfl)
      · exact absurd (show shellPid + 1 ≤ shellPid from hpid) (by decide)
      · exact absurd (show shellPid + 1 ≤ readerPid from hpid) (by decide)
  exact
    { machine := hholds
      tasks := nofun
      within := by
        obtain rfl | rfl := hcases <;> exact ⟨_, rfl, .inl rfl⟩
      sinks := fun id _ hid hsink => by
        match id with
        | 0 =>
          cases hsink
          show ¬ (1 = s + 1 ∨ 1 = s + 3)
          omega
        | 1 =>
          cases hsink
          show ¬ (2 = s + 1 ∨ 2 = s + 3)
          omega
      sources := fun id _ hsource => by
        match id with
        | 0 =>
          cases hsource
          show ¬ (0 = s + 1 ∨ 0 = s + 3)
          omega
      log := nofun }

end LineShell.Launch
