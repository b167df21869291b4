import LineShell.Proofs.Nodes

/-!
# Where paths lead

A file that was opened to be written stands where its path leads, also if it was made for that, and stays
there while it is written. Two searches have to agree here: `locate` follows a path to the directory in
which its last name stands or would stand, and `walk` follows it to the end.

## The model

`walk_append` cuts a walk in two, so the search for the directory is the first part of the walk to the end
(`walk_of_locate`). A file system `Extends` another one if every name that leads somewhere leads to the same
place, which making files and directories and writing to files keep.
-/

namespace LineShell.FileSystem

/-! ### Walks in two parts -/

/-- What a place refers to instead of standing for itself: the target of a link, or the number of a
descriptor. -/
def signpost? (fs : FileSystem) (id : NodeId) : Option (String ⊕ Nat) :=
  match fs.node? id with
  | some (.link target) => some (.inl target)
  | some (.descriptor number) => some (.inr number)
  | _ => none

theorem signpost?_of_regular {fs : FileSystem} {id : NodeId} {data : ByteArray} {mode : Nat}
    (h : fs.node? id = some (.regular data mode)) : fs.signpost? id = none := by
  simp [signpost?, h]

theorem descend_cons (fs : FileSystem) (place : NodeId) (name : String) (rest : List String) :
    fs.descend true place (name :: rest) =
      match fs.entry place name with
      | .error cause => .failed cause
      | .ok id =>
        match fs.signpost? id with
        | some (.inl target) => .link place target rest
        | some (.inr number) => .descriptor number rest
        | none => fs.descend true id rest := by
  rw [descend]
  cases fs.entry place name with
  | error cause => rfl
  | ok id =>
    simp only [signpost?]
    cases fs.node? id with
    | none => rfl
    | some node => cases node <;> simp

/-- What comes of a descent when more names follow those it was for. -/
def Descent.andThen (fs : FileSystem) (ms : List String) : Descent → Descent
  | .reached place => fs.descend true place ms
  | .link within target rest => .link within target (rest ++ ms)
  | .descriptor number rest => .descriptor number (rest ++ ms)
  | .failed cause => .failed cause

theorem descend_append (fs : FileSystem) (place : NodeId) (ns ms : List String) :
    fs.descend true place (ns ++ ms) = (fs.descend true place ns).andThen fs ms := by
  induction ns generalizing place with
  | nil => rfl
  | cons name ns ih =>
    rw [List.cons_append, descend_cons, descend_cons]
    cases fs.entry place name with
    | error cause => rfl
    | ok id =>
      cases hsign : fs.signpost? id with
      | none => simpa only [hsign] using ih id
      | some sign => cases sign <;> simp only [hsign, Descent.andThen]

theorem walk_of_failed {fs : FileSystem} {place : NodeId} {ns : List String} {cause : Cause}
    (h : fs.descend true place ns = .failed cause) (links : Nat) :
    fs.walk true links place ns = .error cause := by
  cases links <;> rw [walk, h]

/-- A walk along names and then along more names. -/
theorem walk_append (fs : FileSystem) (links : Nat) (place : NodeId) (ns ms : List String) :
    fs.walk true links place (ns ++ ms) =
      (fs.walk true links place ns).bind fun r => fs.walk true r.2 r.1 ms := by
  induction links generalizing place ns with
  | zero =>
    rw [walk, walk, descend_append]
    cases fs.descend true place ns with
    | reached place => rw [Descent.andThen, Except.bind, walk]
    | failed | link | descriptor => rfl
  | succ links ih =>
    rw [walk, walk, descend_append]
    cases fs.descend true place ns with
    | reached place => rw [Descent.andThen, Except.bind, walk]
    | failed cause => rfl
    | link within target rest =>
      simp only [Descent.andThen, ← List.append_assoc]
      exact ih _ _
    | descriptor number rest =>
      simp only [Descent.andThen]
      cases fs.own.lookup number with
      | none => rfl
      | some id => exact ih _ _

/-- The empty name is looked up in a directory, and leads nowhere else. -/
theorem walk_empty {fs : FileSystem} {links left : Nat} {place dir : NodeId}
    (h : fs.walk true links place [""] = .ok (dir, left)) : dir = place ∧ left = links := by
  cases hnode : fs.node? place with
  | none => simp [walk, descend_cons, entry, hnode] at h
  | some node =>
    cases node with
    | directory parent entries alive mode =>
      simp [walk, entry, hnode, descend] at h
      exact ⟨h.1.symm, h.2.symm⟩
    | _ => simp [walk, descend_cons, entry, hnode] at h

/-- The last name of a path is looked up where a walk along the others ends. -/
theorem walk_of_lastName {fs : FileSystem} {links left : Nat} {place dir : NodeId} {path name : String}
    (h : fs.lastName links place path = .ok (dir, some name, left)) :
    ∃ ns, (Path.parts path).filter (· ≠ "") = ns ++ [name] ∧
      fs.walk true links (start place path) ns = .ok (dir, left) := by
  simp only [lastName, bind, Except.bind] at h
  split at h
  · cases h
  · next r hwalk =>
    obtain ⟨hlast, rfl, rfl⟩ : ((Path.parts path).filter (· ≠ "")).getLast? = some name ∧ r.1 = dir ∧
        r.2 = left := by
      split at h <;> simp_all [pure, Except.pure]
    refine ⟨((Path.parts path).filter (· ≠ "")).dropLast,
      (List.dropLast_append_getLast? name hlast).symm, ?_⟩
    rw [walk_append] at hwalk
    cases hdir : fs.walk true links (start place path) ((Path.parts path).filter (· ≠ "")).dropLast with
    | error cause =>
      rw [hdir] at hwalk
      cases hwalk
    | ok r' =>
      rw [hdir] at hwalk
      obtain ⟨h₁, h₂⟩ := walk_empty hwalk
      rw [h₁, h₂]

/-! ### More names -/

/-- Whatever a name leads to in the one file system it leads to in the other one, and no more places
refer to others. -/
structure Extends (fs fs' : FileSystem) : Prop where
  own : fs'.own = fs.own
  entry : ∀ {place : NodeId} {name : String} {id : NodeId}, fs.entry place name = .ok id →
    fs'.entry place name = .ok id
  signpost : ∀ id, fs'.signpost? id = fs.signpost? id

namespace Extends

variable {fs fs' : FileSystem}

theorem refl (fs : FileSystem) : Extends fs fs := ⟨rfl, fun h => h, fun _ => rfl⟩

theorem trans {fs'' : FileSystem} (h : Extends fs fs') (h' : Extends fs' fs'') : Extends fs fs'' :=
  ⟨h'.own.trans h.own, fun hentry => h'.entry (h.entry hentry),
    fun id => (h'.signpost id).trans (h.signpost id)⟩

theorem descend (h : Extends fs fs') {place : NodeId} {ns : List String}
    (hok : ∀ cause, fs.descend true place ns ≠ .failed cause) :
    fs'.descend true place ns = fs.descend true place ns := by
  induction ns generalizing place with
  | nil => rfl
  | cons name ns ih =>
    rw [descend_cons] at hok
    rw [descend_cons, descend_cons]
    cases hentry : fs.entry place name with
    | error cause =>
      rw [hentry] at hok
      exact absurd rfl (hok cause)
    | ok id =>
      rw [h.entry hentry]
      simp only [hentry, h.signpost] at hok ⊢
      cases hsign : fs.signpost? id with
      | none =>
        simp only [hsign] at hok
        exact ih hok
      | some sign => cases sign <;> rfl

/-- A walk that arrives somewhere arrives there. -/
theorem walk (h : Extends fs fs') {links : Nat} {place : NodeId} {ns : List String} {r : NodeId × Nat}
    (hok : fs.walk true links place ns = .ok r) : fs'.walk true links place ns = .ok r := by
  have hdescend {links : Nat} {place : NodeId} {ns : List String}
      (hok : fs.walk true links place ns = .ok r) :
      fs'.descend true place ns = fs.descend true place ns := by
    refine h.descend fun cause hfailed => ?_
    rw [walk_of_failed hfailed] at hok
    cases hok
  induction links generalizing place ns with
  | zero =>
    rw [FileSystem.walk, hdescend hok]
    rw [FileSystem.walk] at hok
    cases hd : fs.descend true place ns <;> simp_all
  | succ links ih =>
    rw [FileSystem.walk, hdescend hok, h.own]
    rw [FileSystem.walk] at hok
    cases hd : fs.descend true place ns with
    | reached id => simpa only [hd] using hok
    | failed cause => simp [hd] at hok
    | link within target rest =>
      simp only [hd] at hok ⊢
      exact ih hok
    | descriptor number rest =>
      simp only [hd] at hok ⊢
      cases hown : fs.own.lookup number with
      | none => simp [hown] at hok
      | some id =>
        simp only [hown] at hok ⊢
        exact ih hok

end Extends

/-- A regular file stays one when it gets other contents. -/
theorem extends_set {fs : FileSystem} {id : NodeId} {data : ByteArray} {mode : Nat}
    (h : fs.node? id = some (.regular data mode)) (data' : ByteArray) (mode' : Nat) :
    Extends fs (fs.set id (.regular data' mode')) := by
  have hnode (id' : NodeId) : (fs.set id (.regular data' mode')).node? id' =
      if id' = id then some (.regular data' mode') else fs.node? id' := by
    split
    · next heq => rw [heq, node?_set_regular h]
    · next hne => exact node?_set_of_ne fs hne _
  refine ⟨own_set _ _ _, fun {place name id'} hentry => ?_, fun id' => ?_⟩
  · have hne : place ≠ id := by
      rintro rfl
      simp [FileSystem.entry, h] at hentry
    simpa only [FileSystem.entry, hnode, if_neg hne] using hentry
  · by_cases heq : id' = id
    · simp [signpost?, hnode, heq, h]
    · simp [signpost?, hnode, heq]

/-! ### Making a file -/

section

variable {fs : FileSystem} {dir : NodeId} {name : String} {node : Node}

/-- What a site says about the directory. -/
theorem site_vacant {dir' : NodeId} {name' : String} (h : fs.site dir name = .ok (.vacant dir' name')) :
    dir' = dir ∧ name' = name ∧ fs.entry dir name = .error .noEntry ∧
      ∃ parent entries alive mode, fs.node? dir = some (.directory parent entries alive mode) := by
  unfold site at h
  split at h
  · cases h
  · next hentry =>
    split at h
    · next parent entries mode hnode =>
      split at h
      · obtain ⟨rfl, rfl⟩ : dir = dir' ∧ name = name' := by simpa using h
        exact ⟨rfl, rfl, hentry, parent, entries, true, mode, hnode⟩
      · cases h
    · cases h
  · cases h

section

variable {parent : NodeId} {entries : List (String × NodeId)} {alive : Bool} {mode : Nat}

theorem entry_of_directory (hdir : fs.node? dir = some (.directory parent entries alive mode)) :
    fs.entry dir name =
      if name = "" then .ok dir
      else if mode &&& Node.searchBit = 0 then .error .accessDenied
      else if name = "." then .ok dir
      else if name = ".." then .ok parent
      else if name.utf8ByteSize > maxName && Text.rawLength name > maxName then .error .nameTooLong
      else (entries.lookup name).elim (.error .noEntry) .ok := by
  have hsearch : (! (Node.directory parent entries alive mode).permits Node.searchBit) = true ↔
      mode &&& Node.searchBit = 0 :=
    (Bool.not_eq_true' _).to_iff.trans (decide_eq_false_iff_not.trans not_not)
  simp only [entry, hdir, hsearch]
  cases entries.lookup name <;> rfl

theorem extends_add (hdir : fs.node? dir = some (.directory parent entries alive mode)) (name : String)
    (hplain : (∀ target, node ≠ .link target) ∧ ∀ number, node ≠ .descriptor number) :
    Extends fs (fs.add dir name node) := by
  have hnode := node?_add hdir name node
  refine ⟨own_add _ _ _ _, fun {place name' id} hentry => ?_, fun id => ?_⟩
  · by_cases heq : place = dir
    · subst heq
      have hplace := hnode place
      rw [if_pos rfl] at hplace
      rw [entry_of_directory hdir] at hentry
      rw [entry_of_directory hplace]
      -- Only the last test looks at the entries, and what is found first stays first.
      split_ifs at hentry ⊢
      all_goals try exact hentry
      cases hlookup : entries.lookup name' with
      | none => simp [hlookup] at hentry
      | some id' => simpa [List.lookup_append, hlookup] using hentry
    · by_cases hnew : place = .entry fs.nodes.size
      · simp [entry, hnew, node?_size] at hentry
      · simpa only [entry, hnode, if_neg heq, if_neg hnew] using hentry
  · by_cases heq : id = dir
    · simp [signpost?, hnode, heq, hdir]
    · by_cases hnew : id = .entry fs.nodes.size
      · simp [signpost?, hnode, hnew, node?_size]
        split <;> simp_all
      · simp [signpost?, hnode, heq, hnew]

/-- The new entry is found in its directory. -/
theorem entry_add (hdir : fs.node? dir = some (.directory parent entries alive mode))
    (h : fs.entry dir name = .error .noEntry) (node : Node) :
    (fs.add dir name node).entry dir name = .ok (.entry fs.nodes.size) := by
  have hnode := node?_add hdir name node dir
  rw [if_pos rfl] at hnode
  rw [entry_of_directory hdir] at h
  rw [entry_of_directory hnode]
  split_ifs at h ⊢
  all_goals try cases h
  cases hlookup : entries.lookup name with
  | none => simp [List.lookup_append, hlookup]
  | some id' => simp [hlookup] at h

end

end

/-! ### The place of a site -/

/-- What stands at a site, in a file system in which something does. -/
def Site.LeadsTo (fs : FileSystem) (id : NodeId) : Site → Prop
  | .taken id' => id = id'
  | .vacant dir name => fs.entry dir name = .ok id ∧ fs.signpost? id = none

section

variable {fs fs' : FileSystem} {links left : Nat} {place dir id : NodeId} {path name : String}

theorem site_taken (h : fs.site dir name = .ok (.taken id)) : fs.entry dir name = .ok id := by
  unfold site at h
  split at h
  · next hentry => rw [hentry, Site.taken.inj (Except.ok.inj h)]
  · split at h
    · split at h <;> cases h
    · cases h
  · cases h

/-- A walk along a path goes on in the directory in which the last name is looked up. -/
theorem walk_names (hext : Extends fs fs') (hlast : fs.lastName links place path = .ok (dir, some name, left))
    (hslash : ¬ Path.endsWithSlash path = true) :
    fs'.walk true links (start place path) (Path.names path) = fs'.walk true left dir [name] := by
  obtain ⟨ns, hparts, hwalk⟩ := walk_of_lastName hlast
  have hnames : Path.names path = ns ++ [name] := by
    rw [Path.names, hparts]
    simp [hslash]
  rw [hnames, walk_append, hext.walk hwalk]
  rfl

theorem walk_nil (fs : FileSystem) (links : Nat) (place : NodeId) :
    fs.walk true links place [] = .ok (place, links) := by
  rw [walk, descend]

theorem walk_name (hentry : fs.entry dir name = .ok id) (hsign : fs.signpost? id = none) :
    fs.walk true left dir [name] = .ok (id, left) := by
  rw [walk, descend_cons, hentry]
  simp only [hsign, descend]

theorem walk_name_link {target : String} (hentry : fs.entry dir name = .ok id)
    (hsign : fs.signpost? id = some (.inl target)) :
    fs.walk true (left + 1) dir [name] = fs.walk true left (start dir target) (Path.names target) := by
  rw [walk, descend_cons, hentry]
  simp only [hsign, List.append_nil]

theorem walk_name_descriptor {number : Nat} {id' : NodeId} (hentry : fs.entry dir name = .ok id)
    (hsign : fs.signpost? id = some (.inr number)) (hown : fs.own.lookup number = some id') :
    fs.walk true (left + 1) dir [name] = .ok (id', left) := by
  rw [walk, descend_cons, hentry]
  simp only [hsign, hown, walk_nil]

/-- The path for which a site was found leads to what stands there. -/
theorem walk_of_locate (hext : Extends fs fs') {bound : Nat} {site : Site}
    (h : fs.locate bound links place path = .ok site) (hsite : site.LeadsTo fs' id) :
    ∃ left, fs'.walk true links (start place path) (Path.names path) = .ok (id, left) := by
  fun_induction locate fs bound links place path with
  | case1 | case2 | case3 | case4 | case5 | case6 | case9 => cases h
  | case7 links place path dir name hslash id' htaken target left bound hnode hlast ih =>
    obtain ⟨left', hleft⟩ := ih h
    refine ⟨left', ?_⟩
    rw [walk_names hext hlast hslash, walk_name_link (hext.entry (site_taken htaken)), hleft]
    rw [hext.signpost, signpost?, hnode]
  | case8 bound links place path dir name left hlast hslash id' htaken number hnode id'' hown hleft =>
    obtain rfl : .taken id'' = site := Except.ok.inj h
    obtain ⟨left, rfl⟩ := Nat.exists_eq_succ_of_ne_zero hleft
    refine ⟨left, ?_⟩
    rw [walk_names hext hlast hslash, hsite]
    exact walk_name_descriptor (hext.entry (site_taken htaken)) (by rw [hext.signpost, signpost?, hnode])
      (by rw [hext.own, hown])
  | case10 bound links place path dir name left hlast hslash id' htaken hdescriptor hlinks _ hbound hlink =>
    obtain rfl : .taken id' = site := Except.ok.inj h
    refine ⟨left, ?_⟩
    rw [walk_names hext hlast hslash, hsite]
    refine walk_name (hext.entry (site_taken htaken)) ?_
    rw [hext.signpost, signpost?]
    split
    · next target hnode =>
      obtain ⟨left, rfl⟩ := Nat.exists_eq_succ_of_ne_zero (hlinks target hnode)
      obtain ⟨bound, rfl⟩ := Nat.exists_eq_succ_of_ne_zero (hbound target hnode)
      exact (hlink target left bound hnode rfl rfl).elim
    · next number hnode => exact absurd hnode (hdescriptor number)
    · rfl
  | case11 bound links place path dir name left hlast hslash hfree =>
    cases site with
    | taken id' => exact absurd h (hfree id')
    | vacant dir' name' =>
      obtain ⟨rfl, rfl, -⟩ := site_vacant h
      exact ⟨left, by rw [walk_names hext hlast hslash, walk_name hsite.1 hsite.2]⟩

/-- A vacant site is one in a directory that has no such name. -/
theorem locate_vacant {bound : Nat} {dir' : NodeId} {name' : String}
    (h : fs.locate bound links place path = .ok (.vacant dir' name')) :
    fs.entry dir' name' = .error .noEntry ∧
      ∃ parent entries alive mode, fs.node? dir' = some (.directory parent entries alive mode) := by
  fun_induction locate fs bound links place path with
  | case7 links place path dir name hslash id' htaken target left bound hnode hlast ih => exact ih h
  | case11 =>
    obtain ⟨rfl, rfl, hentry, hdir⟩ := site_vacant h
    exact ⟨hentry, hdir⟩
  | _ => cases h

end

/-! ### Opening and writing -/

section

variable {fs fs' fs'' : FileSystem} {cwd : NodeId} {path : String} {handle : Handle}

theorem find_of_walk {id : NodeId} {left : Nat} (hfault : pathFault path = none)
    (h : fs.walk true maxLinks (start cwd path) (Path.names path) = .ok (id, left)) :
    fs.find cwd path = .ok id := by
  simp only [find, hfault, h, Except.map]

/-- How a file is opened to be written anew: it is made, or it was there, and then it is emptied if it is
regular. -/
theorem openFile_cases (hopen : fs.openFile cwd path false = .ok (handle, fs')) :
    pathFault path = none ∧ handle.append = false ∧ handle.offset = 0 ∧
      ((∃ dir name, fs.locate maxLinks maxLinks cwd path = .ok (.vacant dir name) ∧
          handle.node = .entry fs.nodes.size ∧ fs' = fs.add dir name (.regular .empty newMode)) ∨
        fs.locate maxLinks maxLinks cwd path = .ok (.taken handle.node) ∧
          ((∃ data mode, fs.node? handle.node = some (.regular data mode) ∧
              fs' = fs.set handle.node (.regular .empty mode)) ∨
            fs' = fs ∧ ∀ data mode, fs.node? handle.node ≠ some (.regular data mode))) := by
  simp only [openFile, openWith, siteFor, Access.output, if_true] at hopen
  cases hfault : pathFault path with
  | some cause => simp [hfault] at hopen
  | none =>
    cases hsite : fs.locate maxLinks maxLinks cwd path with
    | error cause => simp [hfault, hsite, bind, Except.bind] at hopen
    | ok site =>
      simp only [hfault, hsite, bind, Except.bind] at hopen
      cases site with
      | vacant dir name =>
        cases hopen
        exact ⟨rfl, rfl, rfl, .inl ⟨dir, name, rfl, rfl, rfl⟩⟩
      | taken id =>
        simp only [Bool.false_eq_true, if_false] at hopen
        split at hopen
        · cases hopen
        split at hopen
        · next data mode hold _ =>
          cases hopen
          have hregular : fs.node? id = some (.regular data mode) := by
            cases hid : fs.node? id <;> simp [hid] at hold
            rw [hold]
          exact ⟨rfl, rfl, rfl, .inr ⟨rfl, .inl ⟨data, mode, hregular, rfl⟩⟩⟩
        · next hother =>
          cases hopen
          exact ⟨rfl, rfl, rfl, .inr ⟨rfl, .inr ⟨rfl, fun data mode hnode =>
            hother data mode (congrArg (·.getD (.device .null)) hnode) rfl⟩⟩⟩

/-- The place of a file that was opened to be written anew is the one to which its path leads, also after
the file was written. What is opened so is empty if it is a regular file. -/
theorem find_of_openFile (hopen : fs.openFile cwd path false = .ok (handle, fs'))
    {data : ByteArray} {mode : Nat} (hnode : fs'.node? handle.node = some (.regular data mode))
    (hext : Extends fs' fs'') :
    fs''.find cwd path = .ok handle.node ∧ data = .empty ∧ handle.append = false ∧ handle.offset = 0 := by
  obtain ⟨hfault, happend, hoffset, hcases⟩ := openFile_cases hopen
  obtain ⟨dir, name, hsite, hnew, rfl⟩ | ⟨hsite, ⟨data', mode', hregular, rfl⟩ | ⟨rfl, hother⟩⟩ := hcases
  · rw [hnew] at hnode ⊢
    obtain ⟨hfree, parent, entries, alive, mode', hdir⟩ := locate_vacant hsite
    have hadded := entry_add hdir hfree (.regular .empty newMode)
    have hmade : Extends fs (fs.add dir name (.regular .empty newMode)) := extends_add hdir name ⟨nofun, nofun⟩
    obtain ⟨left, hwalk⟩ := walk_of_locate (hmade.trans hext) hsite
      ⟨hext.entry hadded, (hext.signpost _).trans (signpost?_of_regular hnode)⟩
    refine ⟨find_of_walk hfault hwalk, ?_, happend, hoffset⟩
    have hne : NodeId.entry fs.nodes.size ≠ dir := by
      rintro rfl
      simp [node?_size] at hdir
    simp [node?_add hdir, hne] at hnode
    exact hnode.1.symm
  · obtain ⟨left, hwalk⟩ := walk_of_locate ((extends_set hregular .empty mode').trans hext) hsite rfl
    refine ⟨find_of_walk hfault hwalk, ?_, happend, hoffset⟩
    rw [node?_set_regular hregular] at hnode
    exact (Node.regular.inj (Option.some.inj hnode)).1.symm
  · exact absurd hnode (hother data mode)

/-- Whatever comes of opening a file to write it anew, names that led somewhere lead there. -/
theorem extends_openFile (hopen : fs.openFile cwd path false = .ok (handle, fs')) : Extends fs fs' := by
  obtain ⟨-, -, -, hcases⟩ := openFile_cases hopen
  obtain ⟨dir, name, hsite, -, rfl⟩ | ⟨-, ⟨data, mode, hregular, rfl⟩ | ⟨rfl, -⟩⟩ := hcases
  · obtain ⟨-, parent, entries, alive, mode, hdir⟩ := locate_vacant hsite
    exact extends_add hdir name ⟨nofun, nofun⟩
  · exact extends_set hregular .empty mode
  · exact .refl fs'

/-- A regular file that was opened to be written anew and then written holds just what was written. -/
theorem read_of_write (hopen : fs.openFile cwd path false = .ok (handle, fs'))
    {data : ByteArray} {mode : Nat} (hnode : fs'.node? handle.node = some (.regular data mode)) (bs : Bytes) :
    ∃ handle' fs'', fs'.write handle bs = .ok (handle', fs'') ∧
      fs''.stat cwd path = .ok (.regular bs.toByteArray mode) := by
  obtain ⟨hfind, rfl, happend, hoffset⟩ := find_of_openFile hopen hnode (Extends.refl fs')
  by_cases hbs : bs = []
  · refine ⟨handle, fs', by simp [write, hbs], ?_⟩
    simp [stat, hfind, hnode, hbs, bind, Except.bind, pure, Except.pure]
  · have hdata : overwrite .empty 0 bs = bs.toByteArray := by
      simp [overwrite]
    refine ⟨{ handle with offset := 0 + bs.length }, fs'.set handle.node (.regular bs.toByteArray mode), ?_, ?_⟩
    · simp [write, hbs, hnode, happend, hoffset, hdata]
    · have hfind' := (find_of_openFile hopen hnode (extends_set hnode bs.toByteArray mode)).1
      simp [stat, hfind', node?_set_regular hnode, bind, Except.bind, pure, Except.pure]

end

end LineShell.FileSystem
