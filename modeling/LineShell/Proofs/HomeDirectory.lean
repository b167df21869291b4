import LineShell.Proofs.Bearings
import LineShell.Proofs.SoundFiles

/-!
# The tilde of a home directory

A target of `cd` that starts with a tilde and a slash goes on from the home directory. It goes where the target goes in
which the home directory is spelled out, unless what follows the slash starts with a slash again: then the home directory
is left out (`cd_tilde`).

## The model

Where `cd` goes, and whether it succeeds, is told by `enter?`, which is a function of the path that the target stands
for. Paths that differ in the number of slashes between two names have the same names, so they lead to the same place, as
long as neither is too long.
-/

namespace LineShell

namespace FileSystem

variable {fs : FileSystem} {cwd : NodeId} {path path' : String}

/-- The directory to which a path leads, if it can be the working directory. -/
def enter? (fs : FileSystem) (cwd : NodeId) (path : String) : Option NodeId :=
  if fs.isDirectory cwd path then
    match fs.canonical cwd path with
    | .ok (dir, _) => if (fs.admits dir).isOk then some dir else none
    | .error _ => none
  else none

/-- Of a path from the root no more matters than the place to which it leads. -/
theorem enter?_congr (h : Path.isAbsolute path = true) (h' : Path.isAbsolute path' = true)
    (hfind : fs.find cwd path' = fs.find cwd path) : fs.enter? cwd path' = fs.enter? cwd path := by
  simp only [enter?, isDirectory, stat, canonical, h, h', hfind]

theorem enter?_of_fault {cause : Cause} (h : pathFault path = some cause) : fs.enter? cwd path = none := by
  have hdir : fs.isDirectory cwd path = false := by
    simp [isDirectory, stat, find, h, bind, Except.bind]
  simp [enter?, hdir]

/-- One slash more between two names makes no difference, unless the path gets too long by it. -/
theorem find_double_slash (fs : FileSystem) (cwd : NodeId) {base : String} (hbase : Path.endsWithSlash base = true)
    (rest : String) (hroom : pathFault (base ++ "/" ++ rest) ≠ some .nameTooLong) :
    fs.find cwd (base ++ "/" ++ rest) = fs.find cwd (base ++ rest) := by
  have hne : base ≠ "" := by
    rintro rfl
    exact absurd hbase (by decide)
  have hstart : start cwd (base ++ "/" ++ rest) = start cwd (base ++ rest) := by
    rw [start, start, String.append_assoc, Path.isAbsolute_append _ hne, Path.isAbsolute_append _ hne]
  have hfault : pathFault (base ++ "/" ++ rest) = pathFault (base ++ rest) := by
    have hsame : Path.hasNul (base ++ "/" ++ rest) = Path.hasNul (base ++ rest) := by simp [Path.hasNul]
    by_cases hnul : Path.hasNul (base ++ rest) = true
    · rw [pathFault, pathFault, hsame, if_pos hnul, if_pos hnul]
    · have hnone : pathFault (base ++ "/" ++ rest) = none := by
        rw [pathFault, hsame, if_neg hnul, if_neg (by simp [hne])] at hroom ⊢
        split_ifs at hroom ⊢
        · exact absurd rfl hroom
        · rfl
      rw [hnone, pathFault_of_longer base "/" rest hnone (by simp [hne])]
  rw [find, find, hfault, hstart, Path.names_double_slash hbase]

end FileSystem

namespace Builtin

variable {context : Context} {world : World} {target home : String}

/-! ### Targets -/

/-- A target that starts with a tilde or a slash is the only argument that `cd` reads. -/
theorem read_cdGrammar {c : Char} {cs : List Char} (htarget : target.toList = c :: cs) (hc : c ≠ '-' ∧ c ≠ 'h') :
    cdGrammar.read [target] = .ok { operands := [target] } := by
  have hhelp : Grammar.asksHelp target = false := by
    have hlong : target ≠ "--help" := by
      rintro rfl
      exact hc.1 (List.cons.inj htarget).1.symm
    have hshort : target ≠ "help" := by
      rintro rfl
      exact hc.2 (List.cons.inj htarget).1.symm
    simp [Grammar.asksHelp, hlong, hshort]
  have hends : target ≠ "--" := by
    rintro rfl
    exact hc.1 (List.cons.inj htarget).1.symm
  have hoption : Grammar.isOption target = false := by
    simp [Grammar.isOption, htarget, hc.1]
  rw [Grammar.read, Grammar.readFrom]
  · simp [hhelp, hends, hoption, Grammar.addOperand, cdGrammar, Grammar.readFrom]
  · rfl

theorem expandHome_tilde (home rest : String) : expandHome (some home) ("~/" ++ rest) = .ok (Path.join home rest) := by
  simp [expandHome]

theorem expandHome_of_isAbsolute (home : Option String) (h : Path.isAbsolute target = true) :
    expandHome home target = .ok target := by
  obtain ⟨cs, htarget⟩ : ∃ cs, target.toList = '/' :: cs := List.head?_eq_some_iff.1 (beq_iff_eq.1 h)
  simp [expandHome, htarget]

/-- The directory for a target is the one to which the path leads that the target stands for. -/
theorem toOption_directoryFor {path : String} (h : expandHome world.home target = .ok path) :
    (directoryFor world target).toOption = world.files.enter? world.cwd path := by
  simp only [directoryFor, h, FileSystem.enter?]
  cases world.files.isDirectory world.cwd path with
  | false => rfl
  | true =>
    cases world.files.canonical world.cwd path with
    | error cause => rfl
    | ok r =>
      obtain ⟨dir, found⟩ := r
      cases hadmits : world.files.admits dir <;> simp [hadmits, Except.toOption, Except.isOk, Except.toBool]

/-- What a command does whose arguments are right. -/
theorem ofGrammar_of_read {grammar : Grammar} {work : Arguments → Context → Work} {args : List String} {a : Arguments}
    (h : grammar.read args = .ok a) (context : Context) (world : World) :
    ofGrammar grammar work args context world =
      match (work a context).run world with
      | (.ok status, after) => (.returned status, after)
      | (.error failure, after) => (.returned Status.failure,
        (World.say context.streams.stderr s!"{grammar.command}: {failure.message}\n"
          (World.note .debug .builtin s!"{grammar.command} failed: {failure.report}" after).2).2) := by
  simp only [ofGrammar, h]
  rw [Run.bind_apply]
  cases (work a context).run world with
  | mk result after => cases result <;> rfl

/-- `cd` succeeds if there is a directory for its target, and then it goes there. -/
theorem cd_of_directoryFor (hread : cdGrammar.read [target] = .ok { operands := [target] }) (context : Context)
    (world : World) :
    ((cd [target] context world).1 = .returned 0 ↔ (directoryFor world target).toOption.isSome = true) ∧
      (cd [target] context world).2.cwd = (directoryFor world target).toOption.getD world.cwd := by
  rw [cd, ofGrammar_of_read hread]
  simp only [Run.run_get_bind, List.headD_cons]
  cases directoryFor world target with
  | ok dir => exact ⟨⟨fun _ => rfl, fun _ => rfl⟩, rfl⟩
  | error failure =>
    refine ⟨⟨fun h => ?_, fun h => ?_⟩, ?_⟩
    · have hstatus : Conclusion.returned Status.failure = .returned 0 := h
      exact absurd hstatus (by decide)
    · cases h
    · exact congrArg Bearings.cwd ((World.say_keeps _ _ _).trans (World.note_keeps _ _ _ world))

/-- What `cd` does with a target is decided by the path that the target stands for. -/
theorem cd_of_enter {path : String} {c : Char} {cs : List Char} (htarget : target.toList = c :: cs)
    (hc : c ≠ '-' ∧ c ≠ 'h') (hpath : expandHome world.home target = .ok path) (context : Context) :
    ((cd [target] context world).1 = .returned 0 ↔ (world.files.enter? world.cwd path).isSome = true) ∧
      (cd [target] context world).2.cwd = (world.files.enter? world.cwd path).getD world.cwd := by
  rw [← toOption_directoryFor hpath]
  exact cd_of_directoryFor (read_cdGrammar htarget hc) context world

theorem cd_of_isAbsolute (h : Path.isAbsolute target = true) (context : Context) (world : World) :
    ((cd [target] context world).1 = .returned 0 ↔ (world.files.enter? world.cwd target).isSome = true) ∧
      (cd [target] context world).2.cwd = (world.files.enter? world.cwd target).getD world.cwd := by
  obtain ⟨cs, htarget⟩ : ∃ cs, target.toList = '/' :: cs := List.head?_eq_some_iff.1 (beq_iff_eq.1 h)
  exact cd_of_enter htarget (by decide) (expandHome_of_isAbsolute _ h) context

/-- **The tilde stands for the home directory.** Let the home directory be given by a path from the root. With a tilde
and a slash before it, a target that does not start with a slash itself leads where it leads with the home directory
spelled out: the one succeeds if the other does, and both end in the same directory. If the home directory ends with a
slash, that one is longer by a slash, and fails where this makes it too long. After a tilde and two slashes the home
directory is left out: the target leads where it leads alone. -/
theorem cd_tilde (context : Context) (world : World) {home : String} (hhome : world.home = some home)
    (habsolute : Path.isAbsolute home = true) (rest : String) :
    let tilde := cd ["~/" ++ rest] context world
    let spelled := cd [home ++ "/" ++ rest] context world
    let alone := cd [rest] context world
    (Path.isAbsolute rest = false →
      (Path.endsWithSlash home = true → FileSystem.pathFault (home ++ "/" ++ rest) ≠ some .nameTooLong) →
      (tilde.1 = .returned 0 ↔ spelled.1 = .returned 0) ∧ tilde.2.cwd = spelled.2.cwd) ∧
    (FileSystem.pathFault (home ++ "/" ++ rest) = some .nameTooLong → spelled.1 ≠ .returned 0) ∧
    (Path.isAbsolute rest = true →
      (tilde.1 = .returned 0 ↔ alone.1 = .returned 0) ∧ tilde.2.cwd = alone.2.cwd) := by
  intro tilde spelled alone
  have hne : home ≠ "" := by
    rintro rfl
    exact absurd habsolute (by decide)
  have hspelled : Path.isAbsolute (home ++ "/" ++ rest) = true := by
    rw [String.append_assoc, Path.isAbsolute_append _ hne, habsolute]
  have hexpand : expandHome world.home ("~/" ++ rest) = .ok (Path.join home rest) := hhome ▸ expandHome_tilde home rest
  have hchars : ("~/" ++ rest).toList = '~' :: '/' :: rest.toList := by simp
  obtain ⟨htilde, htilde_cwd⟩ := cd_of_enter hchars (by decide) hexpand context
  obtain ⟨hplain, hplain_cwd⟩ := cd_of_isAbsolute hspelled context world
  refine ⟨fun hrest hroom => ?_, fun hlong hsuccess => ?_, fun hrest => ?_⟩
  · have henter : world.files.enter? world.cwd (Path.join home rest) =
        world.files.enter? world.cwd (home ++ "/" ++ rest) := by
      by_cases hends : Path.endsWithSlash home = true
      · have hjoin : Path.join home rest = home ++ rest := by simp [Path.join, hrest, hends]
        have habs : Path.isAbsolute (home ++ rest) = true := by rw [Path.isAbsolute_append _ hne, habsolute]
        rw [hjoin, FileSystem.enter?_congr hspelled habs
          (FileSystem.find_double_slash world.files world.cwd hends rest (hroom hends)).symm]
      · have hjoin : Path.join home rest = home ++ "/" ++ rest := by simp [Path.join, hrest, hends, hne]
        rw [hjoin]
    rw [henter] at htilde htilde_cwd
    exact ⟨htilde.trans hplain.symm, htilde_cwd.trans hplain_cwd.symm⟩
  · have hsome := hplain.1 hsuccess
    rw [FileSystem.enter?_of_fault hlong] at hsome
    cases hsome
  · have hjoin : Path.join home rest = rest := by simp [Path.join, hrest]
    rw [hjoin] at htilde htilde_cwd
    obtain ⟨halone, halone_cwd⟩ := cd_of_isAbsolute hrest context world
    exact ⟨htilde.trans halone.symm, htilde_cwd.trans halone_cwd.symm⟩

/-- A home directory with a directory in it, and memory for what is written. -/
def homeWorld : World :=
  { World.withFiles {} { nodes := #[.directory (.entry 0) [("home", .entry 1)] true 0o755,
      .directory (.entry 0) [("sub", .entry 2)] true 0o755, .directory (.entry 1) [] true 0o755] } with
    environment := [("HOME", "/home/")], sinks := #[.memory [] none] }

/-- The streams of that world. -/
def homeContext : Context := { streams := { stdin := 0, stdout := 0, stderr := 0 } }

/-- A target with doubled slashes, dots and a slash at its end. -/
theorem cd_tilde_dotted :
    homeWorld.home = some "/home/" ∧ Path.isAbsolute "/home/" = true ∧ Path.isAbsolute ".//sub/../sub/" = false ∧
      (cd ["~/.//sub/../sub/"] homeContext homeWorld).1 = .returned 0 ∧
      (cd ["/home//.//sub/../sub/"] homeContext homeWorld).1 = .returned 0 ∧
      (cd ["~/.//sub/../sub/"] homeContext homeWorld).2.cwd =
        (cd ["/home//.//sub/../sub/"] homeContext homeWorld).2.cwd := by
  have hhome : homeWorld.home = some "/home/" := by decide
  have hsame := (cd_tilde homeContext homeWorld hhome (by decide) ".//sub/../sub/").1 (by decide) fun _ => by decide
  have hsuccess : (cd ["/home//.//sub/../sub/"] homeContext homeWorld).1 = .returned 0 := by decide +kernel
  exact ⟨hhome, by decide, by decide, hsame.1.2 hsuccess, hsuccess, hsame.2⟩

/-- After a tilde and two slashes the home directory is left out, so the directory in it is not found. -/
theorem cd_tilde_slashes :
    homeWorld.home = some "/home/" ∧
      (cd ["/home///sub"] homeContext homeWorld).1 = .returned 0 ∧
      (cd ["~//sub"] homeContext homeWorld).1 = .returned Status.failure := by
  decide +kernel

end Builtin

end LineShell
