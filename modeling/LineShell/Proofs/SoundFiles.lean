import LineShell.Files.Skeleton
import LineShell.Proofs.PathNames
import LineShell.Proofs.Places
import Mathlib.Logic.Relation

/-!
# Sound file systems

In a file system two things are always so: above a directory stands a directory, and an entry of a directory has a
name, which no slash divides and which does not stand for the directory itself or for the one above. A table of nodes
need not be like that, so it is said here (`IsSound`), and shown of the files that every system has and of whatever
becomes of them (`isSound_of_changes`).

## The model

`IsSound` looks at each directory by itself. A change keeps it if directories stay directories and every node is sound
as things were before (`IsSound.of_nodes`). What it is good for comes last: names are looked up in directories
(`entry_cases`), so a path that ends with a dot or two, or with a slash, leads to a directory
(`hasDirectory_of_walk_dots`).
-/

namespace LineShell.FileSystem

variable {fs fs' : FileSystem}

/-- A directory stands at this place. -/
def hasDirectory (fs : FileSystem) (id : NodeId) : Bool :=
  match fs.node? id with
  | some (.directory ..) => true
  | _ => false

/-- What a directory says is so: above it stands a directory, and its entries have names. -/
def IsSoundNode (fs : FileSystem) : Node → Prop
  | .directory parent entries _ _ => fs.hasDirectory parent = true ∧ ∀ entry ∈ entries, Path.IsName entry.1
  | _ => True

instance (fs : FileSystem) : DecidablePred fs.IsSoundNode
  | .directory parent entries _ _ =>
    inferInstanceAs (Decidable (fs.hasDirectory parent = true ∧ ∀ entry ∈ entries, Path.IsName entry.1))
  | .regular .. | .link _ | .device _ | .pipe _ | .descriptor _ => inferInstanceAs (Decidable True)

/-- All directories are sound. -/
def IsSound (fs : FileSystem) : Prop := ∀ node ∈ fs.nodes.toList, fs.IsSoundNode node

instance : DecidablePred IsSound := fun fs => inferInstanceAs (Decidable (∀ node ∈ fs.nodes.toList, fs.IsSoundNode node))

theorem hasDirectory_iff {id : NodeId} :
    fs.hasDirectory id = true ↔ ∃ parent entries alive mode, fs.node? id = some (.directory parent entries alive mode) := by
  unfold hasDirectory
  cases fs.node? id with
  | none => simp
  | some node => cases node <;> simp

/-- Directories are nodes of the table. -/
theorem isSound_iff : fs.IsSound ↔ ∀ id node, fs.node? id = some node → fs.IsSoundNode node := by
  constructor
  · intro h id node hnode
    cases id with
    | entry place => exact h node (Array.mem_toList_iff.2 (Array.mem_of_getElem? hnode))
    | pipe place =>
      obtain ⟨pipe, -, rfl⟩ := Option.map_eq_some_iff.1 hnode
      trivial
    | null =>
      cases hnode
      trivial
  · intro h node hnode
    obtain ⟨place, hplace⟩ := List.mem_iff_getElem?.1 hnode
    exact h (.entry place) node (by simpa [node?] using hplace)

/-! ### Changes of nodes -/

/-- A change keeps a file system sound if directories stay directories and all nodes are sound as things were. -/
theorem IsSound.of_nodes (fs : FileSystem) (hkept : ∀ id, fs.hasDirectory id = true → fs'.hasDirectory id = true)
    (hsound : ∀ id node, fs'.node? id = some node → fs.IsSoundNode node) : fs'.IsSound := by
  refine isSound_iff.2 fun id node hnode => ?_
  have hold := hsound id node hnode
  cases node with
  | directory parent entries alive mode => exact ⟨hkept parent hold.1, hold.2⟩
  | _ => trivial

theorem node?_set_cases (fs : FileSystem) (id : NodeId) (node : Node) (id' : NodeId) :
    (fs.set id node).node? id' = fs.node? id' ∨ id' = id ∧ (fs.set id node).node? id' = some node := by
  by_cases heq : id' = id
  · subst heq
    cases id' with
    | null => exact .inl rfl
    | entry place =>
      by_cases hlt : place < fs.nodes.size
      · exact .inr ⟨rfl, by simp [set, node?, hlt]⟩
      · exact .inl (by simp [set, node?, hlt])
    | pipe place =>
      by_cases hlt : place < fs.pipes.size
      · cases node with
        | pipe pipe => exact .inr ⟨rfl, by simp [set, node?, hlt]⟩
        | _ => exact .inl rfl
      · cases node with
        | pipe pipe => exact .inl (by simp [set, node?, hlt])
        | _ => exact .inl rfl
  · exact .inl (node?_set_of_ne fs heq node)

/-- A sound node takes the place of another one. In the place of a directory it has to be a directory. -/
theorem IsSound.set (h : fs.IsSound) {id : NodeId} {node : Node} (hnode : fs.IsSoundNode node)
    (hkind : fs.hasDirectory id = true → ∃ parent entries alive mode, node = .directory parent entries alive mode) :
    (fs.set id node).IsSound := by
  refine IsSound.of_nodes fs (fun id' hdir => ?_) fun id' node' hnode' => ?_
  · obtain hsame | ⟨rfl, hnew⟩ := node?_set_cases fs id node id'
    · rwa [hasDirectory, hsame]
    · obtain ⟨parent, entries, alive, mode, rfl⟩ := hkind hdir
      exact hasDirectory_iff.2 ⟨_, _, _, _, hnew⟩
  · obtain hsame | ⟨-, hnew⟩ := node?_set_cases fs id node id'
    · exact isSound_iff.1 h id' node' (hsame ▸ hnode')
    · obtain rfl := Option.some.inj (hnew.symm.trans hnode')
      exact hnode

/-- A directory gets one more entry, with a name. -/
theorem IsSound.add (h : fs.IsSound) (dir : NodeId) {name : String} (hname : Path.IsName name) {node : Node}
    (hnode : fs.IsSoundNode node) : (fs.add dir name node).IsSound := by
  cases hdir : fs.node? dir with
  | none => simpa [FileSystem.add, hdir] using h
  | some found =>
    cases found with
    | directory parent entries alive mode =>
      obtain ⟨hparent, hentries⟩ := isSound_iff.1 h dir _ hdir
      refine IsSound.of_nodes fs (fun id hid => ?_) fun id node' hnode' => ?_
      · obtain ⟨parent', entries', alive', mode', hold⟩ := hasDirectory_iff.1 hid
        have hne : id ≠ .entry fs.nodes.size := by
          rintro rfl
          cases (node?_size fs).symm.trans hold
        refine hasDirectory_iff.2 ?_
        simp only [node?_add hdir, if_neg hne]
        by_cases heq : id = dir
        · exact ⟨_, _, _, _, if_pos heq⟩
        · exact ⟨_, _, _, _, (if_neg heq).trans hold⟩
      · rw [node?_add hdir] at hnode'
        split at hnode'
        · cases hnode'
          exact ⟨hparent, fun entry hentry => (List.mem_append.1 hentry).elim (hentries entry)
            fun hnew => List.mem_singleton.1 hnew ▸ hname⟩
        · split at hnode'
          · cases hnode'
            exact hnode
          · exact isSound_iff.1 h id node' hnode'
    | _ => simpa [FileSystem.add, hdir] using h

/-! ### Operations -/

theorem isName_of_lastName {links left : Nat} {place dir : NodeId} {path name : String}
    (h : fs.lastName links place path = .ok (dir, some name, left)) : Path.IsName name := by
  obtain ⟨ns, hparts, -⟩ := walk_of_lastName h
  have hmem : name ∈ (Path.parts path).filter (· ≠ "") := hparts ▸ List.mem_concat_self
  obtain ⟨hpart, hne⟩ := List.mem_filter.1 hmem
  have hdots : name ≠ "." ∧ name ≠ ".." := by
    simp only [lastName, bind, Except.bind, hparts, List.getLast?_concat] at h
    split at h
    · cases h
    · split at h <;> simp_all [pure, Except.pure]
  exact ⟨by simpa using hne, hdots.1, hdots.2, Path.no_slash_of_mem_parts hpart⟩

theorem isName_of_locate {bound links : Nat} {place dir : NodeId} {path name : String}
    (h : fs.locate bound links place path = .ok (.vacant dir name)) : Path.IsName name := by
  fun_induction locate fs bound links place path with
  | case7 links place path dir' name' hslash id' htaken target left bound hnode hlast ih => exact ih h
  | case11 bound links place path dir' name' left hlast hslash hfree =>
    obtain ⟨-, rfl, -⟩ := site_vacant h
    exact isName_of_lastName hlast
  | _ => cases h

theorem IsSound.makeDirectory (h : fs.IsSound) {cwd : NodeId} {path : String}
    (hmake : fs.makeDirectory cwd path = .ok fs') : fs'.IsSound := by
  unfold FileSystem.makeDirectory at hmake
  split at hmake
  · cases hmake
  · simp only [bind, Except.bind] at hmake
    split at hmake
    · cases hmake
    · split at hmake
      · cases hmake
      · next hlast =>
        split at hmake
        · cases hmake
        · next hsite =>
          split at hmake
          · cases hmake
          · cases hmake
            obtain ⟨rfl, rfl, -, hdir⟩ := site_vacant hsite
            exact h.add _ (isName_of_lastName hlast) ⟨hasDirectory_iff.2 hdir, nofun⟩

theorem IsSound.makeAll (h : fs.IsSound) (cwd : NodeId) (paths : List String) :
    (FileSystem.makeAll cwd paths fs).2.IsSound := by
  induction paths generalizing fs with
  | nil => exact h
  | cons path above ih =>
    have hsettle {fs : FileSystem} (h : fs.IsSound) (cause : Cause) :
        (if fs.isDirectory cwd path then (.ok (), fs) else (.error cause, fs) :
          Except Cause Unit × FileSystem).2.IsSound := by
      split <;> exact h
    unfold FileSystem.makeAll
    dsimp only
    split
    · exact h
    · split
      · next hmake => exact h.makeDirectory hmake
      · have habove := ih h
        split
        · next hall => rwa [hall] at habove
        · next hall =>
          rw [hall] at habove
          split
          · next hmake => exact habove.makeDirectory hmake
          · exact hsettle habove _
      · exact hsettle h _

theorem IsSound.openWith (h : fs.IsSound) {cwd : NodeId} {path : String} {access : Access} {mode : Nat}
    {handle : Handle} (hopen : fs.openWith cwd path access mode = .ok (handle, fs')) : fs'.IsSound := by
  unfold FileSystem.openWith at hopen
  split at hopen
  · cases hopen
  · simp only [bind, Except.bind] at hopen
    split at hopen
    · cases hopen
    · next hsite =>
      split at hopen
      · cases hopen
        unfold siteFor at hsite
        split at hsite
        · exact h.add _ (isName_of_locate hsite) trivial
        · cases hfind : fs.find cwd path <;> simp [hfind, Except.map] at hsite
      · split at hopen
        · cases hopen
        · split at hopen
          · cases hopen
          · split at hopen
            · next hold _ =>
              cases hopen
              refine h.set trivial fun hdir => ?_
              obtain ⟨parent, entries, alive, mode', hnode⟩ := hasDirectory_iff.1 hdir
              simp [hnode] at hold
            · cases hopen
              exact h

theorem IsSound.write (h : fs.IsSound) {handle handle' : Handle} {bs : Bytes}
    (hwrite : fs.write handle bs = .ok (handle', fs')) : fs'.IsSound := by
  unfold FileSystem.write at hwrite
  split at hwrite
  · cases hwrite
    exact h
  · split at hwrite
    · next hnode =>
      cases hwrite
      exact h.set trivial fun hdir => by simp [hasDirectory, hnode] at hdir
    · next hnode =>
      cases hwrite
      exact h.set trivial fun hdir => by simp [hasDirectory, hnode] at hdir
    · cases hwrite
    · cases hwrite
      exact h

/-- A removal takes every node for what is left of it. -/
theorem node?_withered (fs : FileSystem) (top id : NodeId) :
    ({ fs with nodes := fs.nodes.mapIdx fun i node => fs.withered top (.entry i) node } : FileSystem).node? id =
      (fs.node? id).map (fs.withered top id) := by
  cases id with
  | entry place => simp [node?]
  | pipe place => cases hpipe : fs.pipes[place]? <;> simp [node?, hpipe, withered]
  | null => rfl

/-- A directory stays one, and loses entries. -/
theorem withered_directory (fs : FileSystem) (top id parent : NodeId) (entries : List (String × NodeId)) (alive : Bool)
    (mode : Nat) : ∃ entries' alive',
      fs.withered top id (.directory parent entries alive mode) = .directory parent entries' alive' mode ∧
        ∀ entry ∈ entries', entry ∈ entries := by
  by_cases hwithin : fs.isWithin top fs.nodes.size id = true
  · exact ⟨[], false, by rw [withered, if_pos hwithin], nofun⟩
  · exact ⟨_, alive, by rw [withered, if_neg hwithin], fun _ hentry => List.mem_of_mem_filter hentry⟩

theorem isSoundNode_withered (top id : NodeId) {node : Node} (h : fs.IsSoundNode node) :
    fs.IsSoundNode (fs.withered top id node) := by
  cases node with
  | directory parent entries alive mode =>
    obtain ⟨entries', alive', hnode, hkept⟩ := fs.withered_directory top id parent entries alive mode
    rw [hnode]
    exact ⟨h.1, fun entry hentry => h.2 entry (hkept entry hentry)⟩
  | _ => trivial

/-- When something is removed, directories keep their places. -/
theorem IsSound.remove (h : fs.IsSound) {cwd : NodeId} {path : String} (hremove : fs.remove cwd path = .ok fs') :
    fs'.IsSound := by
  cases hfind : fs.find cwd path false with
  | error cause => simp [FileSystem.remove, hfind, bind, Except.bind] at hremove
  | ok top =>
    simp only [FileSystem.remove, hfind, bind, Except.bind] at hremove
    obtain rfl := Except.ok.inj hremove
    refine IsSound.of_nodes fs (fun id hdir => ?_) fun id node hnew => ?_
    · obtain ⟨parent, entries, alive, mode, hold⟩ := hasDirectory_iff.1 hdir
      obtain ⟨entries', alive', hnode, -⟩ := fs.withered_directory top id parent entries alive mode
      exact hasDirectory_iff.2 ⟨parent, entries', alive', mode, by rw [node?_withered, hold, Option.map_some, hnode]⟩
    · rw [node?_withered] at hnew
      obtain ⟨old, hold, rfl⟩ := Option.map_eq_some_iff.1 hnew
      exact isSoundNode_withered top id (isSound_iff.1 h id old hold)

theorem IsSound.setMode (h : fs.IsSound) (cwd : NodeId) (path : String) (mode : Nat) :
    (fs.setMode cwd path mode).IsSound := by
  unfold FileSystem.setMode
  split
  · exact h
  · split
    · next hnode => exact h.set trivial fun hdir => by simp [hasDirectory, hnode] at hdir
    · next hnode =>
      have hold := isSound_iff.1 h _ _ hnode
      exact h.set ⟨hold.1, hold.2⟩ fun _ => ⟨_, _, _, _, rfl⟩
    · exact h

theorem IsSound.advance (h : fs.IsSound) (handle : Handle) (n : Nat) : (fs.advance handle n).2.IsSound := by
  unfold FileSystem.advance
  split
  · next hnode => exact h.set trivial fun hdir => by simp [hasDirectory, hnode] at hdir
  · exact h

/-! ### Any number of changes -/

/-- One change of the files. -/
inductive Change : FileSystem → FileSystem → Prop where
  /-- A file is opened, and made if it may be and is missing. -/
  | opened {fs fs' : FileSystem} {cwd : NodeId} {path : String} {access : Access} {mode : Nat} {handle : Handle} :
    fs.openWith cwd path access mode = .ok (handle, fs') → Change fs fs'
  /-- An open file is written. -/
  | written {fs fs' : FileSystem} {handle handle' : Handle} {bs : Bytes} :
    fs.write handle bs = .ok (handle', fs') → Change fs fs'
  /-- Bytes of an open file are used up. -/
  | consumed (fs : FileSystem) (handle : Handle) (n : Nat) : Change fs (fs.advance handle n).2
  /-- Something is removed, with everything below it. -/
  | removed {fs fs' : FileSystem} {cwd : NodeId} {path : String} : fs.remove cwd path = .ok fs' → Change fs fs'
  /-- A directory is made, with those above it. -/
  | nested (fs : FileSystem) (cwd : NodeId) (path : String) : Change fs (fs.makeDirectories cwd path).2
  /-- A pipe is made. -/
  | piped (fs : FileSystem) (pipe : Pipe) : Change fs (fs.newPipe pipe).2
  /-- Permission bits are changed. -/
  | permitted (fs : FileSystem) (cwd : NodeId) (path : String) (mode : Nat) : Change fs (fs.setMode cwd path mode)

theorem IsSound.change (h : fs.IsSound) (hchange : Change fs fs') : fs'.IsSound := by
  cases hchange with
  | opened hopen => exact h.openWith hopen
  | written hwrite => exact h.write hwrite
  | consumed handle n => exact h.advance handle n
  | removed hremove => exact h.remove hremove
  | nested cwd path => exact h.makeAll cwd _
  | piped pipe =>
    -- No node of the table changes, and no pipe is a directory.
    refine IsSound.of_nodes fs (fun id hdir => ?_) fun id node hnode => ?_
    · cases id with
      | pipe place =>
        obtain ⟨_, _, _, _, hpipe⟩ := hasDirectory_iff.1 hdir
        obtain ⟨_, -, hno⟩ := Option.map_eq_some_iff.1 hpipe
        cases hno
      | _ => exact hdir
    · cases id with
      | pipe place =>
        obtain ⟨pipe, -, rfl⟩ := Option.map_eq_some_iff.1 hnode
        trivial
      | entry place => exact isSound_iff.1 h (.entry place) node hnode
      | null => exact isSound_iff.1 h .null node hnode
  | permitted cwd path mode => exact h.setMode cwd path mode

theorem isSound_skeleton : skeleton.IsSound := by decide +kernel

/-- **Files are sound.** Whatever happens to the files that every system has, they stay sound. -/
theorem isSound_of_changes (h : Relation.ReflTransGen Change skeleton fs) : fs.IsSound := by
  induction h with
  | refl => exact isSound_skeleton
  | tail _ hchange ih => exact ih.change hchange

/-! ### What paths lead to -/

section

variable {cwd id : NodeId} {path : String}

theorem find_eq_ok_iff : fs.find cwd path = .ok id ↔
    pathFault path = none ∧ ∃ left, fs.walk true maxLinks (start cwd path) (Path.names path) = .ok (id, left) := by
  unfold find
  cases pathFault path with
  | some cause => simp
  | none =>
    cases fs.walk true maxLinks (start cwd path) (Path.names path) with
    | error cause => simp [Except.map]
    | ok r =>
      obtain ⟨id', left⟩ := r
      simp [Except.map]

theorem stat_of_find {node : Node} (hfind : fs.find cwd path = .ok id) (hnode : fs.node? id = some node) :
    fs.stat cwd path = .ok node := by
  simp [stat, hfind, hnode, bind, Except.bind, pure, Except.pure]

end

/-- A name leads somewhere only in a directory: to itself, to the one above, or to an entry. -/
theorem entry_cases {place id : NodeId} {name : String} (h : fs.entry place name = .ok id) :
    ∃ parent entries alive mode, fs.node? place = some (.directory parent entries alive mode) ∧
      ((name = "" ∨ name = ".") ∧ id = place ∨ name = ".." ∧ id = parent ∨ entries.lookup name = some id) := by
  unfold entry at h
  split at h
  · next parent entries alive mode hnode =>
    refine ⟨parent, entries, alive, mode, hnode, ?_⟩
    split_ifs at h with hempty hsearch hdot hdots hlong
    · exact .inl ⟨.inl hempty, (Except.ok.inj h).symm⟩
    · exact .inl ⟨.inr hdot, (Except.ok.inj h).symm⟩
    · exact .inr (.inl ⟨hdots, (Except.ok.inj h).symm⟩)
    · cases hlookup : entries.lookup name with
      | none => simp [hlookup] at h
      | some id' =>
        rw [hlookup] at h
        exact .inr (.inr (congrArg some (Except.ok.inj h)))
  · cases h

theorem signpost?_of_hasDirectory {id : NodeId} (h : fs.hasDirectory id = true) : fs.signpost? id = none := by
  obtain ⟨parent, entries, alive, mode, hnode⟩ := hasDirectory_iff.1 h
  rw [signpost?, hnode]

/-- A walk along one name looks it up where it starts. -/
theorem exists_entry_of_walk {place id : NodeId} {name : String} {links left : Nat}
    (h : fs.walk true links place [name] = .ok (id, left)) : ∃ id', fs.entry place name = .ok id' := by
  cases hentry : fs.entry place name with
  | ok id' => exact ⟨id', rfl⟩
  | error cause =>
    rw [walk_of_failed (by rw [descend_cons, hentry])] at h
    cases h

/-- Names that end with a dot or two, or with the empty name, lead to a directory. -/
theorem hasDirectory_of_walk_dots (hsound : fs.IsSound) {place id : NodeId} {ns : List String} {name : String}
    {links left : Nat} (hname : name = "" ∨ name = "." ∨ name = "..")
    (h : fs.walk true links place (ns ++ [name]) = .ok (id, left)) : fs.hasDirectory id = true := by
  rw [walk_append] at h
  cases hbefore : fs.walk true links place ns with
  | error cause => simp [hbefore, Except.bind] at h
  | ok r =>
    replace h : fs.walk true r.2 r.1 [name] = .ok (id, left) := by simpa [hbefore, Except.bind] using h
    obtain ⟨id', hentry⟩ := exists_entry_of_walk h
    obtain ⟨parent, entries, alive, mode, hnode, hcases⟩ := entry_cases hentry
    obtain ⟨hparent, hentries⟩ := isSound_iff.1 hsound _ _ hnode
    have hdir : fs.hasDirectory id' = true := by
      obtain ⟨-, rfl⟩ | ⟨-, rfl⟩ | hlookup := hcases
      · exact hasDirectory_iff.2 ⟨_, _, _, _, hnode⟩
      · exact hparent
      · -- None of these names is the name of an entry.
        obtain ⟨before, after, rfl, -⟩ := List.lookup_eq_some_iff.1 hlookup
        have hlisted := hentries (name, id') (by simp)
        obtain rfl | rfl | rfl := hname <;> simp [Path.IsName] at hlisted
    rw [walk_name hentry (signpost?_of_hasDirectory hdir)] at h
    cases h
    exact hdir

end LineShell.FileSystem
