import LineShell.Proofs.Sessions

/-!
# Where a history is kept

The path of a history file is read twice, when a session starts and when it ends, and each time from the working
directory of that moment. A path from the root leads to the same place both times. Any other path does so if the
session ends in the directory in which it started; after a change of directory the history can be saved elsewhere,
and the file that was loaded stays as it was.

## The model

`FileSystem.find` gives the node to which a path leads from a directory. A file system that is only added to
`Extends` the earlier one, and saving adds to it (`extends_save`), so a path that led to a node before still leads
there when the history is saved.
-/

namespace LineShell

namespace FileSystem

variable {fs fs' : FileSystem} {cwd : NodeId} {path : String}

/-- A path from the root leads to the same place from everywhere, every path does from the same directory. -/
theorem find_of_start (fs : FileSystem) {cwd cwd' : NodeId} (h : Path.isAbsolute path = true ∨ cwd' = cwd) :
    fs.find cwd' path = fs.find cwd path := by
  obtain habsolute | rfl := h
  · simp only [find, start, habsolute, if_true]
  · rfl

theorem Extends.find (h : Extends fs fs') {id : NodeId} (hfind : fs.find cwd path = .ok id) :
    fs'.find cwd path = .ok id := by
  unfold FileSystem.find at hfind ⊢
  split at hfind
  · cases hfind
  · cases hwalk : fs.walk true maxLinks (start cwd path) (Path.names path) with
    | error cause =>
      rw [hwalk] at hfind
      cases hfind
    | ok r => rwa [h.walk hwalk, ← hwalk]

theorem Extends.of_eq (h : fs' = fs) : Extends fs fs' := h ▸ .refl fs

theorem find_of_stat {node : Node} (h : fs.stat cwd path = .ok node) :
    ∃ id, fs.find cwd path = .ok id ∧ fs.node? id = some node := by
  simp only [stat, bind, Except.bind] at h
  split at h
  · cases h
  · next id hfind =>
    split at h
    · next hnode =>
      cases h
      exact ⟨id, hfind, hnode⟩
    · cases h

/-! ### What is added -/

/-- Writing to a regular file takes away no name. -/
theorem extends_write {handle handle' : Handle} {data : ByteArray} {mode : Nat} {bs : Bytes}
    (hnode : fs.node? handle.node = some (.regular data mode)) (hwrite : fs.write handle bs = .ok (handle', fs')) :
    Extends fs fs' := by
  simp only [write, hnode] at hwrite
  split at hwrite
  · cases hwrite
    exact .refl fs
  · cases hwrite
    exact extends_set hnode _ mode

theorem extends_makeDirectory (hmake : fs.makeDirectory cwd path = .ok fs') : Extends fs fs' := by
  unfold makeDirectory at hmake
  split at hmake
  · cases hmake
  · simp only [bind, Except.bind] at hmake
    split at hmake
    · cases hmake
    · split at hmake
      · cases hmake
      · split at hmake
        · cases hmake
        · next hsite =>
          split at hmake
          · cases hmake
          · cases hmake
            obtain ⟨rfl, rfl, -, _, _, _, _, hdir⟩ := site_vacant hsite
            exact extends_add hdir _ ⟨nofun, nofun⟩

theorem extends_makeAll (fs : FileSystem) (cwd : NodeId) (paths : List String) :
    Extends fs (makeAll cwd paths fs).2 := by
  induction paths generalizing fs with
  | nil => exact Extends.refl fs
  | cons path above ih =>
    have hsettle (fs : FileSystem) (cause : Cause) :
        (if fs.isDirectory cwd path then (.ok (), fs) else (.error cause, fs) :
          Except Cause Unit × FileSystem).2 = fs := by
      split <;> rfl
    unfold makeAll
    dsimp only
    split
    · exact Extends.refl fs
    · split
      · next hmake => exact extends_makeDirectory hmake
      · have habove := ih fs
        split
        · next hall => rwa [hall] at habove
        · next hall =>
          rw [hall] at habove
          split
          · next hmake => exact habove.trans (extends_makeDirectory hmake)
          · rwa [hsettle]
      · rw [hsettle]
        exact Extends.refl fs

end FileSystem

namespace History

variable {fs fs' : FileSystem} {cwd : NodeId} {path : String}

theorem extends_prepare (fs : FileSystem) (cwd : NodeId) (path : String) :
    FileSystem.Extends fs (prepare fs cwd path).2 := by
  unfold prepare
  split
  · exact .refl fs
  · next dir _ =>
    have hmade := FileSystem.extends_makeAll fs cwd (Path.ancestors dir)
    rw [← FileSystem.makeDirectories] at hmade
    split
    · exact .refl fs
    · split <;> next hmake => rwa [hmake] at hmade

/-- A history that can be saved is added to the files, in a regular one to which the path leads. -/
theorem extends_save (h : canSave fs cwd path = true) (history : History) :
    FileSystem.Extends fs (history.save fs cwd path).2 := by
  obtain ⟨fs₁, handle, fs₂, data, mode, hprepare, hopen, hnode⟩ := canSave_cases h
  have hprepared := extends_prepare fs cwd path
  rw [hprepare] at hprepared
  have hopened : FileSystem.Extends fs fs₂ := hprepared.trans (FileSystem.extends_openFile hopen)
  simp only [save, hprepare, hopen]
  split
  · exact hopened
  · next hwrite => exact hopened.trans (FileSystem.extends_write hnode hwrite)

/-- A history that can be saved is saved at the place to which the path leads, which is the place to which it led
before if there was one. -/
theorem save_in_place (h : canSave fs cwd path = true) (history : History) :
    ∃ fs' id mode, history.save fs cwd path = (.ok (), fs') ∧ fs'.find cwd path = .ok id ∧
      fs'.node? id = some (.regular (Text.encode (render history.entries)).toByteArray mode) ∧
      ∀ id', fs.find cwd path = .ok id' → id' = id := by
  obtain ⟨fs', mode, hsave, hstat⟩ := save_of_canSave h history
  obtain ⟨id, hfind, hnode⟩ := FileSystem.find_of_stat hstat
  have hext := extends_save h history
  rw [hsave] at hext
  exact ⟨fs', id, mode, hsave, hfind, hnode, fun id' hfind' => Except.ok.inj ((hext.find hfind').symm.trans hfind)⟩

end History

namespace Shell

section

variable {σ : Type} {path : String}

/-- **The history is saved where it was loaded.** Let the history file be named by a path from the root, or let the
session end in the directory in which the history was loaded. Then the path leads to the same place at the end as at
the start, whatever the files are. A history that can be saved is saved there, by a shell that is still there; and if
the session took away no name that led somewhere, it is saved in the very file to which the path led at the start. -/
theorem saved_where_loaded (shell : Shell) (reader : LineReader σ) (bound : Nat) (s : σ) (before : World)
    (hpath : shell.histfile = some path) :
    let ended := (shell.loop reader bound 0 s (shell.loadHistory before).2).2
    let final := (shell.session reader bound s (shell.loadHistory before).2).2
    Path.isAbsolute path = true ∨ ended.cwd = before.cwd →
      (∀ fs : FileSystem, fs.find ended.cwd path = fs.find before.cwd path) ∧
        (ended.isGone = false → History.canSave ended.files ended.cwd path = true →
          ∃ id mode, final.files.find before.cwd path = .ok id ∧
            final.files.node? id = some (.regular (Text.encode (History.render final.entries)).toByteArray mode) ∧
            (FileSystem.Extends before.files ended.files →
              ∀ id', before.files.find before.cwd path = .ok id' → id' = id)) := by
  intro ended final hplace
  have hsame (fs : FileSystem) : fs.find ended.cwd path = fs.find before.cwd path := fs.find_of_start hplace
  refine ⟨hsame, fun hgone hsave => ?_⟩
  obtain ⟨fs', id, mode, hsaved, hfind, hnode, hold⟩ := History.save_in_place hsave ended.history
  have hfinal : final = ended.withFiles fs' := congrArg Prod.snd (saveHistory_of_save hpath hgone hsaved)
  rw [hfinal]
  exact ⟨id, mode, (hsame fs').symm.trans hfind, hnode, fun hext id' hfind' =>
    hold id' ((hsame ended.files).trans (hext.find hfind'))⟩

/-- A history file, a directory beside it, and memory for what the shell writes. -/
def besideDirectory : World :=
  let world := worldWith "/h" (.regular (Text.encode "ls\n"))
  world.withFiles (world.files.install FileSystem.root "/sub" .directory)

/-- A session that leaves its directory and comes back. -/
theorem saved_where_loaded_back :
    let shell := keeping "h"
    let readings := [.ok (some "cd sub"), .ok (some "cd ..")]
    let final := (shell.session .ofScript 9 { coming := readings } (shell.loadHistory besideDirectory).2).2
    final.entries = ["ls", "cd sub", "cd .."] ∧
      ∃ id mode, besideDirectory.files.find FileSystem.root "h" = .ok id ∧
        final.files.find FileSystem.root "h" = .ok id ∧
        final.files.node? id = some (.regular (Text.encode (History.render final.entries)).toByteArray mode) := by
  intro shell readings final
  obtain ⟨-, hsaved⟩ := saved_where_loaded shell .ofScript 9 { coming := readings } besideDirectory rfl
    (.inr (by decide +kernel))
  obtain ⟨id, mode, hfind, hnode, hold⟩ := hsaved (by decide +kernel) (by decide +kernel)
  have hfound : besideDirectory.files.find FileSystem.root "h" = .ok (.entry 1) := rfl
  obtain rfl := hold (FileSystem.Extends.of_eq rfl) _ hfound
  exact ⟨by decide +kernel, _, mode, hfound, hfind, hnode⟩

/-- A session that leaves its directory for good: the file that was loaded stays as it was, and there is another one
in the directory in which the session ended. -/
theorem saved_elsewhere :
    let shell := keeping "h"
    let started := (shell.loadHistory besideDirectory).2
    let final := (shell.session .ofScript 9 { coming := [.ok (some "cd sub")] } started).2
    started.entries = ["ls"] ∧ final.entries = ["ls", "cd sub"] ∧
      besideDirectory.files.exists? FileSystem.root "/sub/h" = false ∧
      (final.files.read FileSystem.root "/h").toOption = some (Text.encode "ls\n") ∧
      (final.files.read FileSystem.root "/sub/h").toOption = some (Text.encode "ls\ncd sub\n") :=
  ⟨by decide +kernel, by decide +kernel, by decide +kernel, by decide +kernel, by decide +kernel⟩

end

end Shell

end LineShell
