import LineShell.Builtin
import LineShell.CommandIndex
import LineShell.Proofs.HistoryPlace
import LineShell.Proofs.PrefixTree
import LineShell.Proofs.SoundFiles

/-!
# The search for programs

Two ways lead to a program. `Lookup.find` looks a name up in one directory of the search list after the other, and
`Lookup.programs` lists what these directories hold. Whatever is listed is found (`completions_run`). What is found is
listed, but for one case: an empty entry of the list stands for the working directory when a name is looked up, and for
nothing when names are listed (`programs_of_resolve`).

A name with a slash is a path, and the search list does not matter for it (`find_of_slash`), again but for one case:
slashes and dots after a name are overlooked, so such a name is looked up as if they were not there.

## The model

The names of the path at which a program is looked for are those of the directory and the name itself (`names_join`),
so the walk to the program first reaches the directory that is listed (`exists_listed_of_isExecutable`). Names that end
with dots lead to directories, which are no programs, and that takes sound files.
-/

namespace LineShell

namespace FileSystem

variable {fs : FileSystem} {cwd id : NodeId} {path : String}

theorem exists_of_isExecutable (h : fs.isExecutable cwd path = true) :
    ∃ id data mode, fs.find cwd path = .ok id ∧ fs.node? id = some (.regular data mode) := by
  unfold isExecutable at h
  split at h
  · next data mode hstat =>
    obtain ⟨id, hfind, hnode⟩ := find_of_stat hstat
    exact ⟨id, data, mode, hfind, hnode⟩
  · cases h

/-- No program stands at the end of a path that ends with a dot or two, or asks for a directory. -/
theorem isExecutable_of_dots (hsound : fs.IsSound) (cwd : NodeId) {ns : List String} {name : String}
    (hnames : Path.names path = ns ++ [name]) (hname : name = "" ∨ name = "." ∨ name = "..") :
    fs.isExecutable cwd path = false := by
  refine Bool.eq_false_iff.2 fun h => ?_
  obtain ⟨id, data, mode, hfind, hnode⟩ := exists_of_isExecutable h
  obtain ⟨-, left, hwalk⟩ := find_eq_ok_iff.1 hfind
  rw [hnames] at hwalk
  have hdir := hasDirectory_of_walk_dots hsound hname hwalk
  simp [hasDirectory, hnode] at hdir

/-- A program at the end of a path that goes on from a directory is listed in that directory. -/
theorem exists_listed_of_isExecutable (hsound : fs.IsSound) {dir name : String} (hdir : dir ≠ "") (hne : name ≠ "")
    (hslash : '/' ∉ name.toList) (h : fs.isExecutable cwd (Path.join dir name) = true) :
    ∃ parent entries alive mode, fs.stat cwd dir = .ok (.directory parent entries alive mode) ∧
      name ∈ entries.map (·.1) := by
  have hrelative := Path.isAbsolute_of_no_slash hslash
  have hnames := Path.names_join dir hslash hne
  obtain ⟨id, data, mode, hfind, hnode⟩ := exists_of_isExecutable h
  obtain ⟨hfault, left, hwalk⟩ := find_eq_ok_iff.1 hfind
  have hstart : start cwd (Path.join dir name) = start cwd dir := by
    rw [start, start, Path.isAbsolute_join hdir hrelative]
  rw [hstart, hnames, walk_append] at hwalk
  cases hbefore : fs.walk true maxLinks (start cwd dir) (Path.fullParts dir) with
  | error cause => simp [hbefore, Except.bind] at hwalk
  | ok r =>
    obtain ⟨place, between⟩ := r
    replace hwalk : fs.walk true between place [name] = .ok (id, left) := by
      simpa [hbefore, Except.bind] using hwalk
    obtain ⟨id', hentry⟩ := exists_entry_of_walk hwalk
    obtain ⟨parent, entries, alive, mode', hplace, hcases⟩ := entry_cases hentry
    refine ⟨parent, entries, alive, mode', stat_of_find (find_eq_ok_iff.2 ⟨?_, between, ?_⟩) hplace, ?_⟩
    · obtain ⟨gap, hjoin⟩ := Path.join_append dir hrelative
      rw [hjoin, String.append_assoc] at hfault
      simpa using pathFault_of_longer dir (gap ++ name) "" (by simpa using hfault) (by simpa using hdir)
    · obtain hplain | ⟨-, hempty⟩ := Path.names_cases dir
      · rw [hplain, hbefore]
      · -- The empty name asks for the directory that was reached.
        have hself : fs.entry place "" = .ok place := by simp [entry, hplace]
        have hsign := signpost?_of_hasDirectory (hasDirectory_iff.2 ⟨_, _, _, _, hplace⟩)
        rw [hempty, walk_append, hbefore]
        exact walk_name hself hsign
    · obtain ⟨hname, -⟩ | ⟨hname, -⟩ | hlookup := hcases
      · exact absurd h (by simp [isExecutable_of_dots hsound cwd hnames (hname.imp_right .inl)])
      · exact absurd h (by simp [isExecutable_of_dots hsound cwd hnames (.inr (.inr hname))])
      · obtain ⟨before, after, rfl, -⟩ := List.lookup_eq_some_iff.1 hlookup
        simp

/-- Nothing forbids to list the directory to which a path leads, if it leads to one. -/
def isListable (fs : FileSystem) (cwd : NodeId) (path : String) : Bool :=
  match fs.stat cwd path with
  | .ok (.directory parent entries alive mode) => (Node.directory parent entries alive mode).permits Node.readBit
  | _ => true

/-- What a directory lists are names. -/
theorem isName_of_mem_list (hsound : fs.IsSound) {dir name : String} {ns : List String}
    (hlist : fs.list cwd dir = .ok ns) (hmem : name ∈ ns) : Path.IsName name := by
  simp only [list, bind, Except.bind] at hlist
  split at hlist
  · cases hlist
  · next node hstat =>
    obtain ⟨id, -, hnode⟩ := find_of_stat hstat
    split at hlist
    · next parent entries alive mode =>
      split at hlist
      · cases hlist
        obtain ⟨entry, hentry, rfl⟩ := List.mem_map.1 hmem
        exact (isSound_iff.1 hsound id _ hnode).2 entry hentry
      · cases hlist
    · cases hlist

end FileSystem

namespace Lookup

variable {fs : FileSystem} {cwd : NodeId} {list name path : String}

/-! ### Names and paths -/

theorem program?_eq_some_iff {found : String} :
    program? fs cwd path = some found ↔ fs.isExecutable cwd path = true ∧ found = path := by
  cases h : fs.isExecutable cwd path <;> simp [program?, h, @eq_comm _ found]

theorem program?_eq_none_iff : program? fs cwd path = none ↔ fs.isExecutable cwd path = false := by
  simp [program?]

/-- A name is looked up in one directory of the list after the other. -/
theorem find_of_name (fs : FileSystem) (cwd : NodeId) (list : String) (hne : name ≠ "") (hslash : '/' ∉ name.toList) :
    find fs cwd list name =
      (SearchPath.directories list).findSome? fun dir => program? fs cwd (Path.join dir name) := by
  simp [find, Path.isAbsolute_of_no_slash hslash, Path.components_of_no_slash hne hslash]

/-- A padded name is looked up like the name. -/
theorem find_of_padded (fs : FileSystem) (cwd : NodeId) (list : String) (h : Path.Padded name path) :
    find fs cwd list path = find fs cwd list name := by
  obtain ⟨rest, hpath, -⟩ := h.padding
  have hslash : '/' ∈ path.toList := by simp [hpath]
  rw [find_of_name fs cwd list h.ne_empty h.no_slash]
  simp [find, h.isAbsolute, (Path.components_eq_singleton_iff hslash h.isAbsolute).2 h]

/-- A path with a slash that is no padded name stands for itself. -/
theorem find_of_not_padded (fs : FileSystem) (cwd : NodeId) (list : String) (hslash : '/' ∈ path.toList)
    (h : ∀ name, ¬ Path.Padded name path) : find fs cwd list path = program? fs cwd path := by
  unfold find
  by_cases habsolute : Path.isAbsolute path = true
  · rw [if_pos habsolute]
  · rw [Bool.not_eq_true] at habsolute
    rw [if_neg (by simp [habsolute])]
    split
    · next hnone => exact absurd hnone (Path.components_ne_nil hslash habsolute)
    · next name hone => exact absurd ((Path.components_eq_singleton_iff hslash habsolute).1 hone) (h name)
    · rfl

theorem program?_of_padded (hsound : fs.IsSound) (cwd : NodeId) (h : Path.Padded name path) :
    program? fs cwd path = none := by
  obtain ⟨ns, last, hnames, hlast⟩ := h.names
  exact program?_eq_none_iff.2 (fs.isExecutable_of_dots hsound cwd hnames (hlast.imp_right .inl))

/-- Dots name directories, which are no programs. -/
theorem find_of_dots (hsound : fs.IsSound) (cwd : NodeId) (list : String) (hname : name = "." ∨ name = "..") :
    find fs cwd list name = none := by
  have hplain : name ≠ "" ∧ '/' ∉ name.toList := by
    obtain rfl | rfl := hname <;> decide
  rw [find_of_name fs cwd list hplain.1 hplain.2, List.findSome?_eq_none_iff]
  exact fun dir _ => program?_eq_none_iff.2
    (fs.isExecutable_of_dots hsound cwd (Path.names_join dir hplain.2 hplain.1) (.inr hname))

/-- **Paths need no search.** Unless a path with a slash is the name of a file that is padded with slashes and dots,
its answer is the path itself if a program stands there and none otherwise, whatever the search list is. For a padded
name, which can be no path to a program, the answer is that for the name alone: the directories of the list are
searched. -/
theorem find_of_slash (fs : FileSystem) (hsound : fs.IsSound) (cwd : NodeId) (path : String)
    (hslash : '/' ∈ path.toList) :
    ((∀ name, Path.Padded name path → ¬ Path.IsName name) →
      ∀ list, find fs cwd list path = if fs.isExecutable cwd path then some path else none) ∧
    ∀ name, Path.Padded name path →
      fs.isExecutable cwd path = false ∧ ∀ list, find fs cwd list path = find fs cwd list name := by
  refine ⟨fun h list => ?_, fun name hpadded =>
    ⟨program?_eq_none_iff.1 (program?_of_padded hsound cwd hpadded), fun list => find_of_padded fs cwd list hpadded⟩⟩
  by_cases hpadded : ∃ name, Path.Padded name path
  · obtain ⟨name, hpadded⟩ := hpadded
    have hdots : name = "." ∨ name = ".." := by
      have hno := h name hpadded
      have hne := hpadded.ne_empty
      have hslash := hpadded.no_slash
      unfold Path.IsName at hno
      tauto
    rw [find_of_padded fs cwd list hpadded, find_of_dots hsound cwd list hdots]
    exact (program?_of_padded hsound cwd hpadded).symm
  · exact find_of_not_padded fs cwd list hslash fun name hname => hpadded ⟨name, hname⟩

/-- A program in a directory for programs, and another one beside that directory. -/
def toolFiles : FileSystem where
  nodes := #[.directory (.entry 0) [("bin", .entry 1), ("tool", .entry 2)] true 0o755,
    .directory (.entry 0) [("ls", .entry 3)] true 0o755, .regular .empty 0o755, .regular .empty 0o755]

/-- A path with doubled slashes, and a name that is padded. -/
theorem find_of_slash_doubled :
    toolFiles.IsSound ∧ '/' ∈ "bin//ls".toList ∧ (∀ name, Path.Padded name "bin//ls" → ¬ Path.IsName name) ∧
      (∀ list, find toolFiles FileSystem.root list "bin//ls" = some "bin//ls") ∧ Path.Padded "ls" "ls//." ∧
      toolFiles.isExecutable FileSystem.root "ls//." = false ∧
      find toolFiles FileSystem.root "/bin" "ls//." = find toolFiles FileSystem.root "/bin" "ls" := by
  have hsound : toolFiles.IsSound := by decide
  have hsingle (name : String) : ¬ Path.Padded name "bin//ls" := fun hpadded => by
    have hcomponents := (Path.components_eq_singleton_iff (by decide) hpadded.isAbsolute).2 hpadded
    have htwo : Path.components "bin//ls" = ["bin", "ls"] := by decide
    simp [htwo] at hcomponents
  have hpadded : Path.Padded "ls" "ls//." := ⟨by decide, by decide, "/.", by decide, by decide⟩
  have hpath := (find_of_slash toolFiles hsound FileSystem.root "bin//ls" (by decide)).1
    fun name hname => absurd hname (hsingle name)
  have hname := (find_of_slash toolFiles hsound FileSystem.root "ls//." (by decide)).2 "ls" hpadded
  exact ⟨hsound, by decide, fun name h => absurd h (hsingle name),
    fun list => (hpath list).trans (by decide), hpadded, hname.1, hname.2 "/bin"⟩

/-- A name with a slash after it is searched, although no program can stand at such a path. -/
theorem find_padded_searched :
    toolFiles.isExecutable FileSystem.root "ls/" = false ∧
      find toolFiles FileSystem.root "/bin" "ls/" = some "/bin/ls" ∧
      find toolFiles FileSystem.root "/" "ls/" = none := by
  decide

/-! ### Listed programs -/

theorem mem_programsIn {dir : String} : name ∈ programsIn fs cwd dir ↔
    (∃ ns, fs.list cwd dir = .ok ns ∧ name ∈ ns) ∧ fs.isExecutable cwd (Path.join dir name) = true := by
  rw [programsIn, List.mem_filter]
  cases fs.list cwd dir <;> simp [Except.toOption]

theorem mem_programs : name ∈ programs fs cwd list ↔
    name ≠ "" ∧ ∃ dir ∈ SearchPath.directories list, name ∈ programsIn fs cwd dir := by
  rw [programs, (Trie.holds_ofList _).mem_completions, List.mem_flatMap, and_comm]
  simp

/-- A listed program has a name, and stands where its name is looked up. -/
theorem exists_of_mem_programs (hsound : fs.IsSound) (h : name ∈ programs fs cwd list) :
    Path.IsName name ∧ ∃ dir ∈ SearchPath.directories list, fs.isExecutable cwd (Path.join dir name) = true := by
  obtain ⟨-, dir, hdir, hmem⟩ := mem_programs.1 h
  obtain ⟨⟨ns, hlist, hname⟩, hexecutable⟩ := mem_programsIn.1 hmem
  exact ⟨fs.isName_of_mem_list hsound hlist hname, dir, hdir, hexecutable⟩

/-- What is found stands in one of the directories. -/
theorem exists_of_find {found : String} (hne : name ≠ "") (hslash : '/' ∉ name.toList)
    (h : find fs cwd list name = some found) :
    ∃ dir ∈ SearchPath.directories list, fs.isExecutable cwd found = true ∧ found = Path.join dir name := by
  rw [find_of_name fs cwd list hne hslash] at h
  obtain ⟨dir, hdir, hfound⟩ := List.exists_of_findSome?_eq_some h
  obtain ⟨hexecutable, rfl⟩ := program?_eq_some_iff.1 hfound
  exact ⟨dir, hdir, hexecutable, rfl⟩

/-- A name is found if it names a program in one of the directories. -/
theorem exists_find (fs : FileSystem) (cwd : NodeId) (list : String) {dir : String} (hne : name ≠ "")
    (hslash : '/' ∉ name.toList) (hdir : dir ∈ SearchPath.directories list)
    (h : fs.isExecutable cwd (Path.join dir name) = true) :
    ∃ found, find fs cwd list name = some found := by
  rw [find_of_name fs cwd list hne hslash, ← Option.isSome_iff_exists, List.findSome?_isSome_iff]
  exact ⟨dir, hdir, by simp [program?, h]⟩

/-- Where the directories can be read, they list the programs that they lead to, all but the empty one. -/
theorem mem_programs_iff (hsound : fs.IsSound)
    (hlistable : ∀ dir ∈ SearchPath.directories list, fs.isListable cwd dir = true) (hne : name ≠ "")
    (hslash : '/' ∉ name.toList) : name ∈ programs fs cwd list ↔
      ∃ dir ∈ SearchPath.directories list, dir ≠ "" ∧ fs.isExecutable cwd (Path.join dir name) = true := by
  rw [mem_programs]
  constructor
  · rintro ⟨-, dir, hdir, hmem⟩
    obtain ⟨⟨ns, hlist, -⟩, hexecutable⟩ := mem_programsIn.1 hmem
    refine ⟨dir, hdir, ?_, hexecutable⟩
    rintro rfl
    have hnowhere : fs.list cwd "" = .error .noEntry := rfl
    simp [hnowhere] at hlist
  · rintro ⟨dir, hdir, hdir_ne, hexecutable⟩
    obtain ⟨parent, entries, alive, mode, hstat, hmem⟩ :=
      fs.exists_listed_of_isExecutable hsound hdir_ne hne hslash hexecutable
    have hreads := hlistable dir hdir
    rw [FileSystem.isListable, hstat] at hreads
    have hlist : fs.list cwd dir = .ok (entries.map (·.1)) := by
      simp [FileSystem.list, hstat, hreads, bind, Except.bind, pure, Except.pure]
    exact ⟨hne, dir, hdir, mem_programsIn.2 ⟨⟨_, hlist, hmem⟩, hexecutable⟩⟩

end Lookup

namespace SearchPath

/-- **What runs is offered.** Let the directories of the search list be readable. A name for which a program is found is
offered if and only if it names a program in a directory of the list that is not the empty one. So it is offered if
the list has no empty entry, or if the program was not found through one. -/
theorem programs_of_resolve (path : SearchPath) (world : World) (hsound : world.files.IsSound)
    (hlistable : ∀ dir ∈ directories (path.list world), world.files.isListable world.cwd dir = true)
    {name found : String} (hne : name ≠ "") (hslash : '/' ∉ name.toList)
    (hfound : path.resolve world name = some found) :
    (name ∈ path.programs world ↔ ∃ dir ∈ directories (path.list world), dir ≠ "" ∧
      world.files.isExecutable world.cwd (Path.join dir name) = true) ∧
    ("" ∉ directories (path.list world) ∨ found ≠ name → name ∈ path.programs world) := by
  have hiff := Lookup.mem_programs_iff hsound hlistable hne hslash
  obtain ⟨dir, hdir, hexecutable, rfl⟩ := Lookup.exists_of_find hne hslash hfound
  refine ⟨hiff, fun h => hiff.2 ⟨dir, hdir, ?_, hexecutable⟩⟩
  rintro rfl
  obtain hlist | hother := h
  · exact hlist hdir
  · exact hother (by simp [Path.join])

/-- The files of `toolFiles`, and nothing else. -/
def toolWorld : World := World.withFiles {} Lookup.toolFiles

/-- A program that stands in a directory of the list, after the working directory was searched for it. -/
theorem programs_of_resolve_listed :
    let path := SearchPath.fixed ":/bin"
    toolWorld.files.IsSound ∧
      (∀ dir ∈ directories (path.list toolWorld), toolWorld.files.isListable toolWorld.cwd dir = true) ∧
      path.resolve toolWorld "ls" = some "/bin/ls" ∧ "ls" ∈ path.programs toolWorld := by
  intro path
  have hsound : toolWorld.files.IsSound := by decide
  have hlistable : ∀ dir ∈ directories (path.list toolWorld), toolWorld.files.isListable toolWorld.cwd dir = true := by
    decide
  have hfound : path.resolve toolWorld "ls" = some "/bin/ls" := by decide
  have hoffered := programs_of_resolve path toolWorld hsound hlistable (by decide) (by decide) hfound
  exact ⟨hsound, hlistable, hfound, hoffered.2 (.inr (by decide))⟩

/-- A program in the working directory runs, but is not offered. -/
theorem programs_without_resolved :
    let path := SearchPath.fixed ":/bin"
    (∀ dir ∈ directories (path.list toolWorld), toolWorld.files.isListable toolWorld.cwd dir = true) ∧
      path.resolve toolWorld "tool" = some "tool" ∧ path.programs toolWorld = ["ls"] := by
  decide +kernel

end SearchPath

/-! ### Candidates for command names -/

theorem Registry.get?_of_mem_names {registry : Registry} {name : String} (h : name ∈ registry.names) :
    (registry.get? name).isSome = true := by
  obtain ⟨entry, hentry, rfl⟩ := List.mem_map.1 h
  exact List.lookup_isSome_iff.2 ⟨entry, hentry, beq_self_eq_true _⟩

namespace CommandIndex

/-- When the index is first asked, programs are looked up. -/
theorem ready_of_new {index : CommandIndex} (h : index.programs = none) (world : World) :
    (index.ready world).1 = { index with programs := some (index.searchPath.programs world) } := by
  cases index
  cases h
  rfl

/-- **What is offered runs.** Let the index of command names be made in one world and asked in another one, in which the
search list is the same and the same programs stand at the same paths, as they do if neither the files nor the working
directory have changed. Whatever is offered for a beginning begins so, and it is the name of a built-in command or a
program is found for it, whose file has that name. -/
theorem completions_run (registry : Registry) (path : SearchPath) (before world : World)
    (hsound : before.files.IsSound) (hlist : path.list world = path.list before)
    (hsame : ∀ p, world.files.isExecutable world.cwd p = before.files.isExecutable before.cwd p) :
    let index := (({ builtins := registry.names, searchPath := path } : CommandIndex).ready before).1
    ∀ start, ∀ name ∈ index.completer world start, start.toList <+: name.toList ∧
      ((registry.get? name).isSome = true ∨ ∃ found, path.resolve world name = some found ∧
        world.files.isExecutable world.cwd found = true ∧ Path.fileName? found = some name) := by
  intro index start name hname
  have hindex : index = { builtins := registry.names, searchPath := path, programs := some (path.programs before) } :=
    ready_of_new rfl before
  rw [hindex] at hname
  obtain ⟨hmem, -, hstart⟩ := (Trie.holds_ofList _).mem_completions.1 hname
  refine ⟨hstart, ?_⟩
  obtain hbuiltin | hprogram := List.mem_append.1 hmem
  · exact .inl (Registry.get?_of_mem_names hbuiltin)
  · obtain ⟨hisname, dir, hdir, hexecutable⟩ := Lookup.exists_of_mem_programs hsound hprogram
    have hne : name ≠ "" := hisname.1
    have hslash : '/' ∉ name.toList := hisname.2.2.2
    obtain ⟨found, hfound⟩ := Lookup.exists_find world.files world.cwd (path.list world) hne hslash (hlist ▸ hdir)
      ((hsame _).trans hexecutable)
    obtain ⟨dir', -, hruns, rfl⟩ := Lookup.exists_of_find hne hslash hfound
    exact .inr ⟨_, hfound, hruns, Path.fileName?_join dir' hisname⟩

/-- A program in a directory of the list, offered beside the built-in commands. -/
theorem completions_run_beside_builtins :
    let path := SearchPath.fixed "/bin:"
    let index := (({ builtins := (Registry.ofList Builtin.defaults).names, searchPath := path } : CommandIndex).ready
      SearchPath.toolWorld).1
    SearchPath.toolWorld.files.IsSound ∧ "ls" ∈ index.completer SearchPath.toolWorld "l" ∧
      ((Registry.ofList Builtin.defaults).get? "ls").isSome = false ∧
      ∃ found, path.resolve SearchPath.toolWorld "ls" = some found ∧
        SearchPath.toolWorld.files.isExecutable SearchPath.toolWorld.cwd found = true ∧
        Path.fileName? found = some "ls" := by
  intro path index
  have hsound : SearchPath.toolWorld.files.IsSound := by decide
  have hoffered : "ls" ∈ index.completer SearchPath.toolWorld "l" := by decide +kernel
  have hunknown : ((Registry.ofList Builtin.defaults).get? "ls").isSome = false := by decide
  obtain ⟨-, hbuiltin | hfound⟩ := completions_run (.ofList Builtin.defaults) path SearchPath.toolWorld
    SearchPath.toolWorld hsound rfl (fun _ => rfl) "l" "ls" hoffered
  · rw [hunknown] at hbuiltin
    cases hbuiltin
  · exact ⟨hsound, hoffered, hunknown, hfound⟩

end CommandIndex

end LineShell
