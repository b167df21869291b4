import LineShell.Files.Change
import Mathlib.Data.List.Basic

/-!
# Changing single nodes

What stands at a place after another node was set there, or after a directory got one more entry: the new
node there, and the old ones elsewhere. What is no directory is changed by nothing but writing to it.
-/

namespace LineShell.FileSystem

/-! ### Setting nodes -/

theorem node?_set_of_ne (fs : FileSystem) {id id' : NodeId} (h : id' ≠ id) (node : Node) :
    (fs.set id node).node? id' = fs.node? id' := by
  unfold set
  split
  · next _ place =>
    cases id' with
    | entry place' =>
      have hne : place ≠ place' := fun heq => h (by rw [heq])
      simp [node?, Array.getElem?_setIfInBounds_ne hne]
    | pipe place' => rfl
    | null => rfl
  · next place pipe =>
    cases id' with
    | entry place' => rfl
    | pipe place' =>
      have hne : place ≠ place' := fun heq => h (by rw [heq])
      simp [node?, Array.getElem?_setIfInBounds_ne hne]
    | null => rfl
  · rfl

theorem node?_set_entry {fs : FileSystem} {place : Nat} {old : Node}
    (h : fs.node? (.entry place) = some old) (node : Node) :
    (fs.set (.entry place) node).node? (.entry place) = some node := by
  obtain ⟨hlt, -⟩ := Array.getElem?_eq_some_iff.1 h
  simp [set, node?, hlt]

theorem node?_set_regular {fs : FileSystem} {id : NodeId} {data : ByteArray} {mode : Nat}
    (h : fs.node? id = some (.regular data mode)) (node : Node) :
    (fs.set id node).node? id = some node := by
  cases id with
  | entry place => exact node?_set_entry h node
  | pipe place => simp [node?] at h
  | null => simp [node?] at h

theorem node?_set_pipe {fs : FileSystem} {id : NodeId} {old : Pipe} (h : fs.node? id = some (.pipe old))
    (pipe : Pipe) : (fs.set id (.pipe pipe)).node? id = some (.pipe pipe) := by
  cases id with
  | entry place => exact node?_set_entry h _
  | null => simp [node?] at h
  | pipe place =>
    obtain ⟨p, hp, -⟩ := Option.map_eq_some_iff.1 h
    obtain ⟨hlt, -⟩ := Array.getElem?_eq_some_iff.1 hp
    simp [set, node?, hlt]

@[simp]
theorem own_set (fs : FileSystem) (id : NodeId) (node : Node) : (fs.set id node).own = fs.own := by
  unfold set
  split <;> rfl

/-! ### Writing -/

/-- What a write does to the file: it stays what it is, or becomes another regular file or pipe. -/
theorem write_cases {fs fs' : FileSystem} {h h' : Handle} {bs : Bytes} (hwrite : fs.write h bs = .ok (h', fs')) :
    h'.node = h.node ∧ (fs' = fs ∨ ∃ content, fs' = fs.set h.node content ∧ fs'.node? h.node = some content ∧
      ∀ parent entries alive mode, content ≠ .directory parent entries alive mode) := by
  unfold write at hwrite
  split at hwrite
  · cases hwrite
    exact ⟨rfl, .inl rfl⟩
  · split at hwrite
    · next hnode =>
      cases hwrite
      exact ⟨rfl, .inr ⟨_, rfl, node?_set_regular hnode _, nofun⟩⟩
    · next hnode =>
      cases hwrite
      exact ⟨rfl, .inr ⟨_, rfl, node?_set_pipe hnode _, nofun⟩⟩
    · cases hwrite
    · cases hwrite
      exact ⟨rfl, .inl rfl⟩

/-- What a write does depends on nothing but the file. -/
theorem write_congr {fs fs' : FileSystem} {h : Handle} (hnode : fs'.node? h.node = fs.node? h.node) (bs : Bytes) :
    (∃ cause, fs.write h bs = .error cause ∧ fs'.write h bs = .error cause) ∨
      ∃ h' files files', fs.write h bs = .ok (h', files) ∧ fs'.write h bs = .ok (h', files') ∧
        files'.node? h.node = files.node? h.node := by
  unfold write
  rw [hnode]
  split
  · exact .inr ⟨h, fs, fs', rfl, rfl, hnode⟩
  · split
    · next hold => exact .inr ⟨_, _, _, rfl, rfl, by rw [node?_set_regular (hnode.trans hold), node?_set_regular hold]⟩
    · next hold => exact .inr ⟨_, _, _, rfl, rfl, by rw [node?_set_pipe (hnode.trans hold), node?_set_pipe hold]⟩
    · exact .inl ⟨_, rfl, rfl⟩
    · exact .inr ⟨h, fs, fs', rfl, rfl, hnode⟩

/-! ### Adding entries -/

theorem node?_size (fs : FileSystem) : fs.node? (.entry fs.nodes.size) = none := by
  simp [node?]

/-- A directory gets one more entry. -/
theorem node?_add {fs : FileSystem} {dir : NodeId} {parent : NodeId} {entries : List (String × NodeId)}
    {alive : Bool} {mode : Nat} (hdir : fs.node? dir = some (.directory parent entries alive mode)) (name : String)
    (node : Node) (id : NodeId) :
    (fs.add dir name node).node? id =
      if id = dir then some (.directory parent (entries ++ [(name, .entry fs.nodes.size)]) alive mode)
      else if id = .entry fs.nodes.size then some node else fs.node? id := by
  simp only [add, hdir]
  cases dir with
  | null => cases hdir
  | pipe k =>
    obtain ⟨p, -, hp⟩ := Option.map_eq_some_iff.1 hdir
    cases hp
  | entry n =>
    have hn : n < fs.nodes.size := by
      by_contra hcon
      simp [node?, Nat.not_lt.1 hcon] at hdir
    cases id with
    | null => rfl
    | pipe k => rfl
    | entry k =>
      simp only [set, node?, Array.getElem?_push, Array.size_setIfInBounds, NodeId.entry.injEq,
        Array.getElem?_setIfInBounds]
      by_cases hk : k = n
      · subst hk
        have hne : k ≠ fs.nodes.size := by omega
        simp [hne, hn]
      · by_cases hks : k = fs.nodes.size
        · simp [hks, Ne.symm (Nat.ne_of_lt hn)]
        · simp [hk, hks, Ne.symm hk]

theorem own_add (fs : FileSystem) (dir : NodeId) (name : String) (node : Node) :
    (fs.add dir name node).own = fs.own := by
  unfold add
  split
  · exact own_set _ _ _
  · rfl

/-! ### Opening -/

section

variable {fs fs' : FileSystem} {id : NodeId} {content : Node}

/-- What is no directory stays as it is when an entry is made. -/
theorem node?_add_of_plain (h : fs.node? id = some content)
    (hplain : ∀ parent entries alive mode, content ≠ .directory parent entries alive mode) (dir : NodeId) (name : String)
    (node : Node) : (fs.add dir name node).node? id = some content := by
  cases hdir : fs.node? dir with
  | none => simpa [add, hdir] using h
  | some found =>
    cases found with
    | directory parent entries alive mode =>
      have hne : id ≠ dir := by
        rintro rfl
        exact hplain _ _ _ _ (Option.some.inj (h.symm.trans hdir))
      have hold : id ≠ .entry fs.nodes.size := by
        rintro rfl
        cases (node?_size fs).symm.trans h
      rw [node?_add hdir, if_neg hne, if_neg hold, h]
    | regular | link | device | pipe | descriptor => simpa [add, hdir] using h

theorem node?_makeDirectory (h : fs.node? id = some content)
    (hplain : ∀ parent entries alive mode, content ≠ .directory parent entries alive mode) {cwd : NodeId} {path : String}
    (hmake : fs.makeDirectory cwd path = .ok fs') : fs'.node? id = some content := by
  unfold makeDirectory at hmake
  split at hmake
  · cases hmake
  · simp only [bind, Except.bind] at hmake
    split at hmake
    · cases hmake
    · split at hmake
      · cases hmake
      · split at hmake
        · cases hmake
        · split at hmake
          · cases hmake
          · cases hmake
            exact node?_add_of_plain h hplain _ _ _

/-- What is no directory stays as it is when directories are made. -/
theorem node?_makeAll (h : fs.node? id = some content)
    (hplain : ∀ parent entries alive mode, content ≠ .directory parent entries alive mode) (cwd : NodeId)
    (paths : List String) : (makeAll cwd paths fs).2.node? id = some content := by
  induction paths generalizing fs with
  | nil => exact h
  | cons path above ih =>
    have hsettle {fs : FileSystem} (h : fs.node? id = some content) (cause : Cause) :
        (if fs.isDirectory cwd path then (.ok (), fs) else (.error cause, fs) :
          Except Cause Unit × FileSystem).2.node? id = some content := by
      split <;> exact h
    unfold makeAll
    dsimp only
    split
    · exact h
    · split
      · next hmake => exact node?_makeDirectory h hplain hmake
      · have habove := ih h
        split
        · next hall => rwa [hall] at habove
        · next hall =>
          rw [hall] at habove
          split
          · next hmake => exact node?_makeDirectory habove hplain hmake
          · exact hsettle habove _
      · exact hsettle h _

/-- What is no directory stays as it is when another file is opened. -/
theorem node?_openWith (h : fs.node? id = some content)
    (hplain : ∀ parent entries alive mode, content ≠ .directory parent entries alive mode) {cwd : NodeId} {path : String}
    {access : Access} {mode : Nat} {handle : Handle} (hopen : fs.openWith cwd path access mode = .ok (handle, fs'))
    (hne : handle.node ≠ id) : fs'.node? id = some content := by
  unfold openWith at hopen
  split at hopen
  · cases hopen
  · simp only [bind, Except.bind] at hopen
    split at hopen
    · cases hopen
    · split at hopen
      · cases hopen
        exact node?_add_of_plain h hplain _ _ _
      · split at hopen
        · cases hopen
        · split at hopen
          · cases hopen
          · split at hopen
            · cases hopen
              exact (fs.node?_set_of_ne (Ne.symm hne) _).trans h
            · cases hopen
              exact h

end

end LineShell.FileSystem
