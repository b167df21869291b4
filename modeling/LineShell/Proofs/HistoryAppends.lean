import LineShell.Builtin
import LineShell.Proofs.HistoryKept
import LineShell.Proofs.HistoryPlace

/-!
# Appending a history piece by piece

However a history is pushed to, loaded into and appended to files, each entry is appended once: what the appends that
succeed write, one after the other, are the first entries of the history, up to the last one there was when an append
succeeded last. Uses that fail leave the history as it was, and no use takes an entry away.

## The model

A `Use` carries the files that it meets, so between two uses anything may happen to them. `records` tells of the
appends that succeed how many entries there were, and which of them were fresh. The count of a history is the number
in the last record (`appended_eq_last`), and every append writes the entries from the count on, which
`flatMap_records` puts together. What it means to write them is said of the file (`AddsText`), and that the commands
of the shell are such uses by `history_readHistory` and `history_appendHistory`.
-/

namespace LineShell

namespace FileSystem

/-! ### Adding to a file -/

section

variable {fs fs' fs'' : FileSystem} {cwd : NodeId} {path : String} {handle handle' : Handle} {bs : Bytes}

/-- How a file is opened to be written at its end: it is made, or it was there and stays as it is. -/
theorem openFile_append_cases (hopen : fs.openFile cwd path true = .ok (handle, fs')) :
    pathFault path = none ∧ handle.append = true ∧
      ((∃ dir name, fs.locate maxLinks maxLinks cwd path = .ok (.vacant dir name) ∧
          handle.node = .entry fs.nodes.size ∧ fs' = fs.add dir name (.regular .empty newMode)) ∨
        fs.locate maxLinks maxLinks cwd path = .ok (.taken handle.node) ∧ fs' = fs) := by
  simp only [openFile, openWith, siteFor, Access.output, if_true] at hopen
  cases hfault : pathFault path with
  | some cause => simp [hfault] at hopen
  | none =>
    cases hsite : fs.locate maxLinks maxLinks cwd path with
    | error cause => simp [hfault, hsite, bind, Except.bind] at hopen
    | ok site =>
      simp only [hfault, hsite, bind, Except.bind] at hopen
      cases site with
      | vacant dir name =>
        cases hopen
        exact ⟨rfl, rfl, .inl ⟨dir, name, rfl, rfl, rfl⟩⟩
      | taken id =>
        simp only [Bool.false_eq_true, if_false, Bool.not_true] at hopen
        split at hopen
        · cases hopen
        · split at hopen
          · next hempties => cases hempties
          · cases hopen
            exact ⟨rfl, rfl, .inr ⟨rfl, rfl⟩⟩

/-- A path for which a vacant site was found leads nowhere. -/
theorem walk_of_vacant {bound links : Nat} {place dir : NodeId} {name : String}
    (h : fs.locate bound links place path = .ok (.vacant dir name)) :
    fs.walk true links (start place path) (Path.names path) = .error .noEntry := by
  fun_induction locate fs bound links place path with
  | case7 links place path dir' name' hslash id' htaken target left bound hnode hlast ih =>
    rw [walk_names (.refl fs) hlast hslash, walk_name_link (site_taken htaken), ih h]
    rw [signpost?, hnode]
  | case11 bound links place path dir' name' left hlast hslash hfree =>
    obtain ⟨rfl, rfl, hentry, -⟩ := site_vacant h
    rw [walk_names (.refl fs) hlast hslash]
    exact walk_of_failed (by rw [descend_cons, hentry]) left
  | _ => cases h

theorem find_of_vacant {dir : NodeId} {name : String} (hfault : pathFault path = none)
    (h : fs.locate maxLinks maxLinks cwd path = .ok (.vacant dir name)) : fs.find cwd path = .error .noEntry := by
  simp only [find, hfault, walk_of_vacant h, Except.map]

/-- What is written at the end of a regular file stands after what was there. -/
theorem stat_of_write_at_end {data : ByteArray} {mode : Nat} (happend : handle.append = true)
    (hfind : ∀ fs'', Extends fs' fs'' → fs''.find cwd path = .ok handle.node)
    (hnode : fs'.node? handle.node = some (.regular data mode)) (hwrite : fs'.write handle bs = .ok (handle', fs'')) :
    fs''.stat cwd path = .ok (.regular (data ++ bs.toByteArray) mode) := by
  by_cases hbs : bs = []
  · obtain ⟨rfl, rfl⟩ : handle = handle' ∧ fs' = fs'' := by simpa [write, hbs] using hwrite
    simp [stat, hfind fs' (.refl fs'), hnode, hbs, bind, Except.bind, pure, Except.pure]
  · have hdata : overwrite data data.size bs = data ++ bs.toByteArray := by simp [overwrite]
    simp only [write, if_neg hbs, hnode, happend, if_true, hdata] at hwrite
    obtain ⟨-, rfl⟩ := Prod.mk.inj (Except.ok.inj hwrite)
    have hfound := hfind _ (extends_set hnode (data ++ bs.toByteArray) mode)
    simp [stat, hfound, node?_set_regular hnode, bind, Except.bind, pure, Except.pure]

/-- A regular file that was opened to be added to holds what it held and then what was written. -/
theorem stat_append_regular {data : ByteArray} {mode : Nat} (hopen : fs.openFile cwd path true = .ok (handle, fs'))
    (hstat : fs.stat cwd path = .ok (.regular data mode)) (hwrite : fs'.write handle bs = .ok (handle', fs'')) :
    fs''.stat cwd path = .ok (.regular (data ++ bs.toByteArray) mode) := by
  obtain ⟨id, hfind, hnode⟩ := find_of_stat hstat
  obtain ⟨hfault, happend, ⟨dir, name, hsite, -, -⟩ | ⟨hsite, rfl⟩⟩ := openFile_append_cases hopen
  · rw [find_of_vacant hfault hsite] at hfind
    cases hfind
  · have hleads (later : FileSystem) (hext : Extends fs' later) : later.find cwd path = .ok handle.node := by
      obtain ⟨left, hwalk⟩ := walk_of_locate hext hsite rfl
      exact find_of_walk hfault hwalk
    obtain rfl : id = handle.node := Except.ok.inj (hfind.symm.trans (hleads fs' (.refl fs')))
    exact stat_of_write_at_end happend hleads hnode hwrite

/-- A file that was made to be added to holds what was written. -/
theorem stat_append_new {cause : Cause} (hopen : fs.openFile cwd path true = .ok (handle, fs'))
    (hfind : fs.find cwd path = .error cause) (hwrite : fs'.write handle bs = .ok (handle', fs'')) :
    fs''.stat cwd path = .ok (.regular bs.toByteArray newMode) := by
  obtain ⟨hfault, happend, ⟨dir, name, hsite, hnew, rfl⟩ | ⟨hsite, rfl⟩⟩ := openFile_append_cases hopen
  · obtain ⟨hfree, parent, entries, alive, mode, hdir⟩ := locate_vacant hsite
    have hmade : Extends fs (fs.add dir name (.regular .empty newMode)) := extends_add hdir name ⟨nofun, nofun⟩
    have hne : NodeId.entry fs.nodes.size ≠ dir := by
      rintro rfl
      simp [node?_size] at hdir
    have hnode : (fs.add dir name (.regular .empty newMode)).node? handle.node = some (.regular .empty newMode) := by
      simp [hnew, node?_add hdir, hne]
    have hleads (later : FileSystem) (hext : Extends (fs.add dir name (.regular .empty newMode)) later) :
        later.find cwd path = .ok handle.node := by
      have hentry := hext.entry (entry_add hdir hfree (.regular .empty newMode))
      rw [← hnew] at hentry
      obtain ⟨left, hwalk⟩ := walk_of_locate (hmade.trans hext) hsite
        ⟨hentry, (hext.signpost _).trans (signpost?_of_regular hnode)⟩
      exact find_of_walk hfault hwalk
    simpa using stat_of_write_at_end happend hleads hnode hwrite
  · obtain ⟨left, hwalk⟩ := walk_of_locate (.refl fs') hsite rfl
    rw [find_of_walk hfault hwalk] at hfind
    cases hfind

end

end FileSystem

namespace History

/-! ### Uses -/

/-- What a history is used for, with the files there are at that moment. -/
inductive Use where
  /-- One more line was entered. -/
  | push (line : String)
  /-- The entries of a file are added. -/
  | load (fs : FileSystem) (cwd : NodeId) (path : String)
  /-- The fresh entries are added to a file. -/
  | append (fs : FileSystem) (cwd : NodeId) (path : String)

/-- What becomes of a history when it is used. -/
def use (h : History) : Use → Except Failure History
  | .push line => .ok (h.push line)
  | .load fs cwd path => (h.load fs cwd path).map (·.1)
  | .append fs cwd path => (h.append fs cwd path).1

/-- The history after a use, whether that fails or not. -/
def after (h : History) (u : Use) : History := (h.use u).toOption.getD h

/-- The history after several uses. -/
def afterAll (h : History) (us : List Use) : History := us.foldl after h

/-- An append that succeeded. -/
structure Record where
  /-- How many entries there were. -/
  size : Nat
  /-- Those that were written. -/
  written : List String
  deriving DecidableEq, Repr

/-- The record of a use, if that is an append and succeeds. -/
def record? (h : History) (u : Use) : Option Record :=
  match u, h.use u with
  | .append .., .ok _ => some { size := h.size, written := h.fresh }
  | _, _ => none

/-- The appends among the uses that succeed. -/
def records (h : History) : List Use → List Record
  | [] => []
  | u :: us => (h.record? u).toList ++ (h.after u).records us

/-! ### One use -/

section

variable {h h' : History} {fs fs' : FileSystem} {cwd : NodeId} {path : String}

theorem after_of_error {u : Use} {failure : Failure} (huse : h.use u = .error failure) : h.after u = h := by
  rw [after, huse]
  rfl

/-- A use adds entries, unless it is an append that succeeds. -/
theorem after_cases (h : History) (u : Use) :
    (h.record? u = none ∧ ∃ added, h.after u = { h with entries := h.entries ++ added }) ∨
      h.record? u = some { size := h.size, written := h.fresh } ∧ h.after u = h.settled := by
  cases huse : h.use u with
  | error failure =>
    refine .inl ⟨by cases u <;> simp [record?, huse], [], ?_⟩
    rw [after_of_error huse, List.append_nil]
  | ok h' =>
    have hafter : h.after u = h' := by
      rw [after, huse]
      rfl
    rw [hafter]
    cases u with
    | push line => exact .inl ⟨rfl, [line], (Except.ok.inj huse).symm⟩
    | load fs cwd path =>
      refine .inl ⟨rfl, ?_⟩
      simp only [use] at huse
      cases hload : h.load fs cwd path with
      | error failure => simp [hload, Except.map] at huse
      | ok result =>
        obtain ⟨text, hresult, -⟩ := eq_of_load hload
        rw [hload] at huse
        exact ⟨parse text, (Except.ok.inj huse).symm.trans hresult⟩
    | append fs cwd path => exact .inr ⟨by simp [record?, huse], Builtin.append_eq_settled huse⟩

theorem entries_prefix_after (h : History) (u : Use) : h.entries <+: (h.after u).entries := by
  rcases after_cases h u with ⟨-, added, hafter⟩ | ⟨-, hafter⟩
  · rw [hafter]
    exact List.prefix_append h.entries added
  · rw [hafter]
    exact List.prefix_refl h.entries

/-- The count grows, but not beyond the entries. -/
theorem appended_after {h : History} (hcount : h.appended ≤ h.size) (u : Use) :
    h.appended ≤ (h.after u).appended ∧ (h.after u).appended ≤ (h.after u).size := by
  rcases after_cases h u with ⟨-, added, hafter⟩ | ⟨-, hafter⟩
  · rw [hafter]
    refine ⟨le_rfl, hcount.trans ?_⟩
    simp [size]
  · rw [hafter]
    exact ⟨hcount, le_rfl⟩

/-- Between two file systems, text was added at the end of the file to which a path leads; where it led nowhere
the file was made. -/
def AddsText (fs fs' : FileSystem) (cwd : NodeId) (path text : String) : Prop :=
  (∀ data mode, fs.stat cwd path = .ok (.regular data mode) →
    fs'.stat cwd path = .ok (.regular (data ++ (Text.encode text).toByteArray) mode)) ∧
  ∀ cause, fs.find cwd path = .error cause →
    fs'.stat cwd path = .ok (.regular (Text.encode text).toByteArray FileSystem.newMode)

/-- An append that succeeds adds the fresh entries to the file, after its directory was made if it was missing.
Without fresh entries no file is touched. -/
theorem append_adds (happend : h.append fs cwd path = (.ok h', fs')) :
    h.fresh = [] ∧ fs' = fs ∨
      ∃ made, prepare fs cwd path = (.ok (), made) ∧ AddsText made fs' cwd path (render h.fresh) := by
  unfold append at happend
  split at happend
  · next hfresh => exact .inl ⟨hfresh, (Prod.mk.inj happend).2.symm⟩
  · split at happend
    · cases happend
    · next made hprepare =>
      split at happend
      · cases happend
      · next hopen =>
        split at happend
        · cases happend
        · next hwrite =>
          obtain ⟨-, rfl⟩ := Prod.mk.inj happend
          refine .inr ⟨made, hprepare, ?_, ?_⟩
          · exact fun data mode hstat => FileSystem.stat_append_regular hopen hstat hwrite
          · exact fun cause hfind => FileSystem.stat_append_new hopen hfind hwrite

end

/-! ### The commands -/

/-- Reading a file into the history is a use of the history that there is, with the files that there are. -/
theorem history_readHistory (path : String) (world : World) :
    ((Builtin.readHistory path).run world).2.history =
      world.history.after (.load world.files world.cwd path) := by
  rw [Builtin.readHistory, Run.run_get_bind]
  by_cases hexists : world.files.exists? world.cwd path = true
  · simp only [hexists, Bool.not_true, Bool.false_eq_true, if_false, after, use]
    cases world.history.load world.files world.cwd path with
    | error failure => rfl
    | ok result => rfl
  · have hmissing : ∃ cause, world.files.stat world.cwd path = .error cause := by
      unfold FileSystem.exists? at hexists
      cases hstat : world.files.stat world.cwd path with
      | error cause => exact ⟨cause, rfl⟩
      | ok node => simp [hstat, Except.isOk, Except.toBool] at hexists
    obtain ⟨cause, hstat⟩ := hmissing
    have hfails : world.history.use (.load world.files world.cwd path) =
        .error (cause.during (.readingHistory path)) := by
      simp [use, load, FileSystem.read, hstat, bind, Except.bind, Except.map]
    rw [after_of_error hfails, if_pos (by simp [hexists])]
    rfl

/-- So is appending it to a file. -/
theorem history_appendHistory (path : String) (world : World) :
    ((Builtin.appendHistory path).run world).2.history =
      world.history.after (.append world.files world.cwd path) := by
  rw [Builtin.appendHistory, Run.run_get_bind, after, use]
  cases world.history.append world.files world.cwd path with | mk result files
  cases result with
  | error failure => rfl
  | ok history => rfl

/-- Whichever of the two fails, the history stays. -/
theorem history_of_error {command : String → Builtin.Work}
    (hcommand : command ∈ [Builtin.readHistory, Builtin.appendHistory]) {path : String} {world : World}
    {failure : Failure} (hfails : ((command path).run world).1 = .error failure) :
    ((command path).run world).2.history = world.history := by
  simp only [List.mem_cons, List.not_mem_nil, or_false] at hcommand
  rcases hcommand with rfl | rfl
  · rw [Builtin.readHistory, Run.run_get_bind] at hfails ⊢
    by_cases hexists : world.files.exists? world.cwd path = true
    · simp only [hexists, Bool.not_true, Bool.false_eq_true, if_false] at hfails ⊢
      cases hload : world.history.load world.files world.cwd path with
      | error failure => rfl
      | ok result =>
        rw [hload] at hfails
        cases hfails
    · rw [if_pos (by simp [hexists])]
      rfl
  · rw [Builtin.appendHistory, Run.run_get_bind] at hfails ⊢
    cases happend : world.history.append world.files world.cwd path with | mk result files
    rw [happend] at hfails
    cases result with
    | error failure => rfl
    | ok history => cases hfails

/-! ### Several uses -/

theorem entries_prefix_afterAll (h : History) (us : List Use) : h.entries <+: (h.afterAll us).entries := by
  induction us generalizing h with
  | nil => exact List.prefix_refl h.entries
  | cons u us ih => exact (entries_prefix_after h u).trans (ih (h.after u))

theorem appended_afterAll {h : History} (hcount : h.appended ≤ h.size) (us : List Use) :
    h.appended ≤ (h.afterAll us).appended ∧ (h.afterAll us).appended ≤ (h.afterAll us).size := by
  induction us generalizing h with
  | nil => exact ⟨le_rfl, hcount⟩
  | cons u us ih =>
    obtain ⟨hgrows, hafter⟩ := appended_after hcount u
    obtain ⟨hgrows', hfinal⟩ := ih hafter
    exact ⟨hgrows.trans hgrows', hfinal⟩

/-- The count is the number of entries there were when an append succeeded last. -/
theorem appended_eq_last (h : History) (us : List Use) :
    (h.afterAll us).appended = ((h.records us).getLast?.map (·.size)).getD h.appended := by
  induction us generalizing h with
  | nil => rfl
  | cons u us ih =>
    change ((h.after u).afterAll us).appended = _
    rw [ih, records]
    rcases after_cases h u with ⟨hrecord, added, hafter⟩ | ⟨hrecord, hafter⟩
    · rw [hrecord, hafter]
      rfl
    · rw [hrecord, hafter, Option.toList_some, List.singleton_append, List.getLast?_cons]
      cases (h.settled.records us).getLast? <;> rfl

/-- What is written by appends are the entries from the first count to the last one. -/
theorem flatMap_records {h : History} (hcount : h.appended ≤ h.size) (us : List Use) :
    (h.records us).flatMap (·.written) =
      ((h.afterAll us).entries.take (h.afterAll us).appended).drop h.appended := by
  induction us generalizing h with
  | nil => simp [records, afterAll]
  | cons u us ih =>
    have hrest := ih (appended_after hcount u).2
    change _ = List.drop h.appended (List.take ((h.after u).afterAll us).appended ((h.after u).afterAll us).entries)
    rw [records, List.flatMap_append, hrest]
    rcases after_cases h u with ⟨hrecord, added, hafter⟩ | ⟨hrecord, hafter⟩
    · rw [hrecord, hafter]
      rfl
    · -- What this append writes goes just as far as the entries there are, and there the rest begins.
      obtain ⟨rest, hentries⟩ := entries_prefix_afterAll (h.after u) us
      have hreach := (appended_afterAll (appended_after hcount u).2 us).1
      rw [hafter] at hentries hreach ⊢
      change h.entries ++ rest = _ at hentries
      change h.entries.length ≤ _ at hreach
      rw [hrecord, ← hentries, List.take_append, List.take_of_length_le hreach, List.drop_append_of_le_length hcount]
      simp [settled, fresh]

/-- **Every entry is appended once.** Let a history be used in any way, with any files. Its entries grow at their end
only, a use or a command that fails leaves it as it was, and its count never goes beyond the entries. What the
appends that succeeded have written, one after the other, are the first entries, as many as there were at the last of
them; and it is what each of them adds to its file. -/
theorem appends_once (us : List Use) :
    let final := ({} : History).afterAll us
    let records := ({} : History).records us
    (∀ later, final.entries <+: (final.afterAll later).entries) ∧
      (∀ u failure, final.use u = .error failure → final.after u = final) ∧
      (∀ path world, world.history = final →
        ((Builtin.readHistory path).run world).2.history = final.after (.load world.files world.cwd path) ∧
          ((Builtin.appendHistory path).run world).2.history = final.after (.append world.files world.cwd path)) ∧
      (∀ command ∈ [Builtin.readHistory, Builtin.appendHistory], ∀ path world failure, world.history = final →
        ((command path).run world).1 = .error failure → ((command path).run world).2.history = final) ∧
      final.appended ≤ final.entries.length ∧
      records.flatMap (·.written) = final.entries.take ((records.getLast?.map (·.size)).getD 0) ∧
      ∀ fs cwd path h' fs', final.append fs cwd path = (.ok h', fs') →
        final.record? (.append fs cwd path) = some { size := final.entries.length, written := final.fresh } ∧
          (final.fresh = [] ∧ fs' = fs ∨
            ∃ made, prepare fs cwd path = (.ok (), made) ∧ AddsText made fs' cwd path (render final.fresh)) := by
  intro final records
  have hcount : ({} : History).appended ≤ ({} : History).size := le_rfl
  have hlast : final.appended = (records.getLast?.map (·.size)).getD 0 := appended_eq_last {} us
  refine ⟨entries_prefix_afterAll final, fun u failure => after_of_error, ?_, ?_, (appended_afterAll hcount us).2,
    ?_, ?_⟩
  · intro path world hworld
    rw [history_readHistory, history_appendHistory, hworld]
    exact ⟨rfl, rfl⟩
  · intro command hcommand path world failure hworld hfails
    rw [history_of_error hcommand hfails, hworld]
  · rw [← hlast]
    exact flatMap_records hcount us
  · intro fs cwd path h' fs' happend
    refine ⟨?_, append_adds happend⟩
    simp [record?, use, happend, size]

/-- Two appends to different files with a failed one between them, which would have made a file of a directory. -/
example :
    let fs := FileSystem.install {} FileSystem.root "/h" (.regular (Text.encode "ls\n\npwd\n"))
    let uses := [Use.push "a", .append fs FileSystem.root "/h", .load fs FileSystem.root "/h",
      .append fs FileSystem.root "/", .push "b", .append fs FileSystem.root "/new/h", .push "c"]
    ({} : History).records uses = [⟨1, ["a"]⟩, ⟨4, ["ls", "pwd", "b"]⟩] ∧
      ({} : History).afterAll uses = { entries := ["a", "ls", "pwd", "b", "c"], appended := 4 } := by
  decide +kernel

end History

end LineShell
