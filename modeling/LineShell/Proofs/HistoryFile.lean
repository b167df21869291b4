import LineShell.History
import LineShell.Proofs.Places

/-!
# Keeping a history in a file

When a history is saved and loaded again, the text that was written for its entries is the text that is read. That
needs a path that leads to a regular file: a device takes everything and gives nothing back. Which entries can be read
from their text is another matter.

## The model

`canSave` says that a history can be saved at a path in a regular file, and `canKeep` that it can be read there
too. Saving writes the text that `render` makes of the entries, and loading reads what `parse` makes of a text; that
the bytes come back is the business of `FileSystem.read_of_write`.
-/

namespace LineShell

namespace Text

/-- A text that stands on a single line. -/
def IsUnbroken (s : String) : Prop := ∀ c ∈ s.toList, c ≠ '\r' ∧ c ≠ '\n'

instance : DecidablePred IsUnbroken := fun s => List.decidableBAll _ s.toList

theorem toByteArray_encode (s : String) : (encode s).toByteArray = s.toByteArray :=
  String.utf8Encode_toList

theorem decode?_encode (s : String) : decode? (encode s) = some s := by
  rw [decode?, toByteArray_encode, String.fromUTF8?, dif_pos s.isValidUTF8]
  rfl

end Text

namespace History

theorem isBlankText_of_mem_parse {text e : String} (h : e ∈ parse text) : Text.isBlankText e = false := by
  simpa using (List.mem_filter.1 h).2

/-! ### Saving and loading -/

/-- A history can be saved at a path, in a regular file that can be read. -/
def canKeep (fs : FileSystem) (cwd : NodeId) (path : String) : Bool :=
  match prepare fs cwd path with
  | (.error _, _) => false
  | (.ok (), fs) =>
    match fs.openFile cwd path false with
    | .error _ => false
    | .ok (handle, fs) =>
      match fs.node? handle.node with
      | some (.regular _ mode) => mode &&& Node.readBit ≠ 0
      | _ => false

/-- A history can be saved at a path, in a regular file. -/
def canSave (fs : FileSystem) (cwd : NodeId) (path : String) : Bool :=
  match prepare fs cwd path with
  | (.error _, _) => false
  | (.ok (), fs) =>
    match fs.openFile cwd path false with
    | .error _ => false
    | .ok (handle, fs) =>
      match fs.node? handle.node with
      | some (.regular ..) => true
      | _ => false

section

variable {fs : FileSystem} {cwd : NodeId} {path : String}

/-- A history is saved in a regular file that was opened for it, and then the path leads to its entries. -/
theorem save_of_openFile {fs₁ fs₂ : FileSystem} {handle : Handle} {data : ByteArray} {mode : Nat}
    (hprepare : prepare fs cwd path = (.ok (), fs₁)) (hopen : fs₁.openFile cwd path false = .ok (handle, fs₂))
    (hnode : fs₂.node? handle.node = some (.regular data mode)) (history : History) :
    ∃ fs', history.save fs cwd path = (.ok (), fs') ∧
      fs'.stat cwd path = .ok (.regular (Text.encode (render history.entries)).toByteArray mode) := by
  obtain ⟨handle', fs', hwrite, hstat⟩ :=
    FileSystem.read_of_write hopen hnode (Text.encode (render history.entries))
  exact ⟨fs', by simp only [save, hprepare, hopen, hwrite], hstat⟩

/-- A history that can be kept is saved, and then the path leads to a file with its entries. -/
theorem save_of_canKeep (h : canKeep fs cwd path = true) (history : History) :
    ∃ fs' mode, history.save fs cwd path = (.ok (), fs') ∧ mode &&& Node.readBit ≠ 0 ∧
      fs'.stat cwd path = .ok (.regular (Text.encode (render history.entries)).toByteArray mode) := by
  unfold canKeep at h
  split at h
  · cases h
  · next fs₁ hprepare =>
    split at h
    · cases h
    · next handle fs₂ hopen =>
      split at h
      · next data mode hnode =>
        obtain ⟨fs', hsave, hstat⟩ := save_of_openFile hprepare hopen hnode history
        exact ⟨fs', mode, hsave, of_decide_eq_true h, hstat⟩
      · cases h

/-- How a history can be saved: its directory is there or can be made, and a regular file can be opened in it. -/
theorem canSave_cases (h : canSave fs cwd path = true) :
    ∃ fs₁ handle fs₂ data mode, prepare fs cwd path = (.ok (), fs₁) ∧
      fs₁.openFile cwd path false = .ok (handle, fs₂) ∧ fs₂.node? handle.node = some (.regular data mode) := by
  unfold canSave at h
  split at h
  · cases h
  · next fs₁ hprepare =>
    split at h
    · cases h
    · next handle fs₂ hopen =>
      split at h
      · next data mode hnode => exact ⟨fs₁, handle, fs₂, data, mode, hprepare, hopen, hnode⟩
      · cases h

/-- A history that can be saved is, and then the path leads to a file with its entries. -/
theorem save_of_canSave (h : canSave fs cwd path = true) (history : History) :
    ∃ fs' mode, history.save fs cwd path = (.ok (), fs') ∧
      fs'.stat cwd path = .ok (.regular (Text.encode (render history.entries)).toByteArray mode) := by
  obtain ⟨fs₁, handle, fs₂, data, mode, hprepare, hopen, hnode⟩ := canSave_cases h
  obtain ⟨fs', hsave, hstat⟩ := save_of_openFile hprepare hopen hnode history
  exact ⟨fs', mode, hsave, hstat⟩

/-- Loading adds the entries of some text, and does nothing else. -/
theorem eq_of_load {history history' : History} {n : Nat} (h : history.load fs cwd path = .ok (history', n)) :
    ∃ text, history' = { history with entries := history.entries ++ parse text } ∧ n = (parse text).length := by
  unfold load at h
  dsimp only at h
  split at h
  · cases h
  · next text _ =>
    obtain ⟨rfl, rfl⟩ := Prod.mk.inj (Except.ok.inj h)
    exact ⟨text, rfl, rfl⟩

/-- What is loaded are the entries of some text. -/
theorem entries_of_load {history history' : History} {n : Nat}
    (h : history.load fs cwd path = .ok (history', n)) :
    ∃ text, history'.entries = history.entries ++ parse text := by
  obtain ⟨text, rfl, -⟩ := eq_of_load h
  exact ⟨text, rfl⟩

/-- Loading adds the entries of the text that a file holds. -/
theorem load_of_stat {text : String} {mode : Nat} (hreads : mode &&& Node.readBit ≠ 0)
    (h : fs.stat cwd path = .ok (.regular (Text.encode text).toByteArray mode)) (history : History) :
    history.load fs cwd path =
      .ok ({ history with entries := history.entries ++ parse text }, (parse text).length) := by
  have hpermits (data : ByteArray) : (Node.regular data mode).permits Node.readBit = true :=
    decide_eq_true hreads
  have hread : fs.read cwd path = .ok (Text.encode text) := by
    simp [FileSystem.read, h, hpermits, bind, Except.bind, pure, Except.pure, bytesOf]
  simp only [load, hread, Text.decode?_encode, bind, Except.bind, pure, Except.pure]

/-- A path from the root leads to the same place from everywhere. -/
theorem stat_of_isAbsolute (h : Path.isAbsolute path = true) (cwd cwd' : NodeId) :
    fs.stat cwd path = fs.stat cwd' path := by
  simp only [FileSystem.stat, FileSystem.find, FileSystem.start, h, if_true]

end

end History

end LineShell
