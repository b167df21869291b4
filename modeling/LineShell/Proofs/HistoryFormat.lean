import LineShell.Proofs.HistoryFile
import LineShell.Proofs.Stages

/-!
# What a history file can hold

Entries that are saved and loaded again come back just if each of them is keepable: it is not blank, holds no line
feed, and does not end with a carriage return. And whatever text a file holds, loading adds those of its lines that
are not blank, and tells how many there are.

## The model

The reader of `Text.lines` goes through a text character by character. `Text.lineTexts` is the same from the outside:
the pieces between the line feeds, each but the last one without a carriage return at its end. They differ by an
empty piece after the last line feed, which is blank (`filter_linesFrom`). Where the
pieces of written entries are cut is known (`lines_render_map`), so what is read of them is each entry without its
carriage return, and blank ones are left out: nothing makes up for an entry that was cut, shortened or left out.
-/

namespace LineShell

namespace Text

/-- Characters without a carriage return at their end. -/
def withoutReturn (cs : List Char) : List Char := if cs.getLast? = some '\r' then cs.dropLast else cs

/-- The texts between the line feeds. Each line feed takes one carriage return before it away. -/
def lineTexts (cs : List Char) : List (List Char) :=
  let texts := pieces (· == '\n') cs
  texts.dropLast.map withoutReturn ++ texts.getLast?.toList

/-- The lines of a text that are not blank. -/
def nonBlankLines (text : String) : List String :=
  ((lineTexts text.toList).map String.ofList).filter (! isBlankText ·)

/-! ### Lines as pieces -/

theorem withoutReturn_eq_self_iff {cs : List Char} : withoutReturn cs = cs ↔ cs.getLast? ≠ some '\r' := by
  unfold withoutReturn
  split
  · next hlast =>
    refine iff_of_false (fun h => ?_) (not_not.2 hlast)
    have hlength := congrArg List.length h
    rw [List.length_dropLast] at hlength
    obtain rfl : cs = [] := List.length_eq_zero_iff.1 (by omega)
    cases hlast
  · next hlast => exact iff_of_true rfl hlast

theorem reverse_dropReturn_reverse (cs : List Char) : (dropReturn cs.reverse).reverse = withoutReturn cs := by
  rcases List.eq_nil_or_concat cs with rfl | ⟨as, c, rfl⟩
  · rfl
  · rw [List.concat_eq_append, List.reverse_append, List.reverse_singleton, List.singleton_append]
    by_cases hc : c = '\r'
    · simp [hc, dropReturn, withoutReturn]
    · have hkept : dropReturn (c :: as.reverse) = c :: as.reverse := by
        unfold dropReturn
        split
        · next h => exact absurd (List.cons.inj h).1 hc
        · rfl
      simp [hkept, withoutReturn, hc]

theorem linesFrom_append {cs : List Char} (h : '\n' ∉ cs) (line rest : List Char) :
    linesFrom line (cs ++ '\n' :: rest) = (dropReturn (cs.reverse ++ line)).reverse :: linesFrom [] rest := by
  induction cs generalizing line with
  | nil => simp [linesFrom]
  | cons c cs ih =>
    obtain ⟨hc, hcs⟩ := not_or.1 (mt List.mem_cons.2 h)
    rw [List.cons_append, linesFrom, if_neg (Ne.symm hc), ih hcs, List.reverse_cons, List.append_assoc]
    rfl

theorem linesFrom_of_not_mem {cs : List Char} (h : '\n' ∉ cs) (line : List Char) :
    linesFrom line cs = linesFrom (cs.reverse ++ line) [] := by
  induction cs generalizing line with
  | nil => rfl
  | cons c cs ih =>
    obtain ⟨hc, hcs⟩ := not_or.1 (mt List.mem_cons.2 h)
    have hnext : linesFrom line (c :: cs) = linesFrom (c :: line) cs := by rw [linesFrom, if_neg (Ne.symm hc)]
    rw [hnext, ih hcs, List.reverse_cons, List.append_assoc]
    rfl

theorem lineTexts_of_not_mem {cs : List Char} (h : '\n' ∉ cs) : lineTexts cs = [cs] := by
  have hpieces : pieces (· == '\n') cs = [cs] :=
    pieces_of_all_false fun c hc => beq_eq_false_iff_ne.2 fun heq => h (heq ▸ hc)
  simp [lineTexts, hpieces]

theorem lineTexts_append {cs : List Char} (h : '\n' ∉ cs) (rest : List Char) :
    lineTexts (cs ++ '\n' :: rest) = withoutReturn cs :: lineTexts rest := by
  have hpieces : pieces (· == '\n') cs = [cs] :=
    pieces_of_all_false fun c hc => beq_eq_false_iff_ne.2 fun heq => h (heq ▸ hc)
  obtain ⟨text, texts, hrest⟩ := List.exists_cons_of_ne_nil (pieces_ne_nil (· == '\n') rest)
  simp [lineTexts, pieces_append_cons, hpieces, hrest]

/-- Induction along the line feeds of a text. -/
theorem lines_induction {P : List Char → Prop} (last : ∀ cs, '\n' ∉ cs → P cs)
    (more : ∀ cs rest, '\n' ∉ cs → P rest → P (cs ++ '\n' :: rest)) (cs : List Char) : P cs := by
  by_cases h : '\n' ∈ cs
  · obtain ⟨as, bs, hcs, has⟩ := List.eq_append_cons_of_mem h
    rw [hcs]
    exact more as bs has (lines_induction last more bs)
  · exact last cs h
termination_by cs.length
decreasing_by
  rw [hcs, List.length_append, List.length_cons]
  omega

/-- The lines that are read are the texts between the line feeds, up to empty ones. -/
theorem filter_linesFrom {p : List Char → Bool} (hp : p [] = false) (cs : List Char) :
    (linesFrom [] cs).filter p = (lineTexts cs).filter p := by
  induction cs using lines_induction with
  | last cs h =>
    rw [linesFrom_of_not_mem h, lineTexts_of_not_mem h, List.append_nil]
    by_cases hcs : cs = []
    · simp [hcs, linesFrom, hp]
    · rw [linesFrom, List.reverse_reverse]
      exact mt List.reverse_eq_nil_iff.1 hcs
  | more cs rest h ih =>
    rw [linesFrom_append h, lineTexts_append h, List.append_nil, reverse_dropReturn_reverse, List.filter_cons,
      List.filter_cons, ih]

/-- No line feed is left in a line. -/
theorem not_mem_of_mem_lineTexts {cs line : List Char} (h : line ∈ lineTexts cs) : '\n' ∉ line := by
  induction cs using lines_induction with
  | last cs hcs =>
    rw [lineTexts_of_not_mem hcs, List.mem_singleton] at h
    rwa [h]
  | more cs rest hcs ih =>
    rw [lineTexts_append hcs, List.mem_cons] at h
    rcases h with rfl | h
    · unfold withoutReturn
      split
      · exact fun hmem => hcs (List.dropLast_subset _ hmem)
      · exact hcs
    · exact ih h

end Text

namespace History

/-- An entry that a file can hold. -/
structure IsKeepable (e : String) : Prop where
  /-- It would be left out. -/
  notBlank : Text.isBlankText e = false
  /-- It would be cut in two. -/
  unbroken : '\n' ∉ e.toList
  /-- It would lose its end. -/
  noReturn : e.toList.getLast? ≠ some '\r'

/-! ### What is read -/

/-- What is read of a text are its lines, without the blank ones. -/
theorem parse_eq_nonBlankLines (text : String) : parse text = Text.nonBlankLines text := by
  simp only [parse, Text.nonBlankLines, Text.lines, List.filter_map]
  rw [Text.filter_linesFrom]
  rfl

theorem mem_nonBlankLines {text e : String} (h : e ∈ Text.nonBlankLines text) :
    Text.isBlankText e = false ∧ '\n' ∉ e.toList := by
  obtain ⟨hmem, hblank⟩ := List.mem_filter.1 h
  obtain ⟨line, hline, rfl⟩ := List.mem_map.1 hmem
  refine ⟨by simpa using hblank, ?_⟩
  rw [String.toList_ofList]
  exact Text.not_mem_of_mem_lineTexts hline

theorem toList_render_cons (e : String) (entries : List String) :
    (render (e :: entries)).toList = e.toList ++ '\n' :: (render entries).toList := by
  simp [render]

/-- Entries of one line each are read as they are, but without carriage returns at their ends. -/
theorem lines_render_map {entries : List String} (h : ∀ e ∈ entries, '\n' ∉ e.toList) :
    Text.lines (render entries) = entries.map fun e => String.ofList (Text.withoutReturn e.toList) := by
  induction entries with
  | nil => rfl
  | cons e entries ih =>
    obtain ⟨he, hentries⟩ := List.forall_mem_cons.1 h
    rw [Text.lines, toList_render_cons, Text.linesFrom_append he, List.append_nil, Text.reverse_dropReturn_reverse,
      List.map_cons, List.map_cons]
    exact congrArg _ (ih hentries)

/-- What is written for entries is read as these entries just if each of them is keepable. -/
theorem parse_render_eq_iff {entries : List String} :
    parse (render entries) = entries ↔ ∀ e ∈ entries, IsKeepable e := by
  have hreturn {e : String} : String.ofList (Text.withoutReturn e.toList) = e ↔ e.toList.getLast? ≠ some '\r' := by
    rw [← Text.withoutReturn_eq_self_iff, ← String.toList_inj, String.toList_ofList]
  constructor
  · intro h
    have hmem : ∀ e ∈ entries, Text.isBlankText e = false ∧ '\n' ∉ e.toList := by
      intro e he
      rw [← h, parse_eq_nonBlankLines] at he
      exact mem_nonBlankLines he
    have hlines := lines_render_map fun e he => (hmem e he).2
    rw [parse, hlines] at h
    -- As many lines are left as there were, so none was left out.
    have hfull : (entries.map fun e => String.ofList (Text.withoutReturn e.toList)).filter (! Text.isBlankText ·) =
        entries.map fun e => String.ofList (Text.withoutReturn e.toList) := by
      refine List.filter_eq_self.2 (List.length_filter_eq_length_iff.1 ?_)
      rw [h, List.length_map]
    rw [hfull] at h
    intro e he
    refine ⟨(hmem e he).1, (hmem e he).2, hreturn.1 ?_⟩
    exact List.map_inj_left.1 (h.trans (List.map_id' entries).symm) e he
  · intro h
    have hsame : (entries.map fun e => String.ofList (Text.withoutReturn e.toList)) = entries :=
      (List.map_congr_left fun e he => hreturn.2 (h e he).noReturn).trans (List.map_id' entries)
    rw [parse, lines_render_map fun e he => (h e he).unbroken, hsame, List.filter_eq_self]
    intro e he
    simp [(h e he).notBlank]

theorem IsKeepable.of_isUnbroken {e : String} (hunbroken : Text.IsUnbroken e) (hblank : Text.isBlankText e = false) :
    IsKeepable e where
  notBlank := hblank
  unbroken hc := (hunbroken _ hc).2 rfl
  noReturn hlast := (hunbroken _ (List.mem_of_getLast? hlast)).1 rfl

/-- What is written for entries without line ends is read as these entries. -/
theorem parse_render {entries : List String} (hunbroken : ∀ e ∈ entries, Text.IsUnbroken e)
    (hblank : ∀ e ∈ entries, Text.isBlankText e = false) : parse (render entries) = entries :=
  parse_render_eq_iff.2 fun e he => .of_isUnbroken (hunbroken e he) (hblank e he)

/-! ### Files -/

section

variable {fs : FileSystem} {cwd : NodeId} {path : String}

/-- Loading adds the lines of a file's text that are not blank, and tells how many there are. -/
theorem load_of_read {bs : Bytes} {text : String} (hread : fs.read cwd path = .ok bs)
    (htext : Text.decode? bs = some text) (history : History) :
    history.load fs cwd path =
      .ok ({ history with entries := history.entries ++ Text.nonBlankLines text },
        (Text.nonBlankLines text).length) := by
  rw [← parse_eq_nonBlankLines]
  simp only [load, hread, htext, bind, Except.bind, pure, Except.pure]

/-- What an empty history has after it has loaded a file that was saved. -/
theorem load_save_of_canKeep (h : canKeep fs cwd path = true) (history : History) :
    ∃ fs', history.save fs cwd path = (.ok (), fs') ∧
      ({} : History).load fs' cwd path =
        .ok ({ entries := parse (render history.entries) }, (parse (render history.entries)).length) := by
  obtain ⟨fs', mode, hsave, hreads, hstat⟩ := save_of_canKeep h history
  exact ⟨fs', hsave, load_of_stat hreads hstat {}⟩

/-- **What a history file can hold.** Wherever a file can be kept, entries that are saved are loaded again just if
none of them is blank, holds a line feed or ends with a carriage return. And from any file with a text in it, loading
adds the lines that are not blank, in their order, and tells how many there are. -/
theorem holds_keepable :
    (∀ (fs : FileSystem) (cwd : NodeId) (path : String), canKeep fs cwd path = true → ∀ history : History,
      ∃ fs' loaded, history.save fs cwd path = (.ok (), fs') ∧
        ({} : History).load fs' cwd path = .ok (loaded, loaded.entries.length) ∧
        (loaded.entries = history.entries ↔ ∀ e ∈ history.entries, IsKeepable e)) ∧
    ∀ (fs : FileSystem) (cwd : NodeId) (path : String) (bs : Bytes) (text : String),
      fs.read cwd path = .ok bs → Text.decode? bs = some text → ∀ history : History,
        history.load fs cwd path =
          .ok ({ history with entries := history.entries ++ Text.nonBlankLines text },
            (Text.nonBlankLines text).length) := by
  constructor
  · intro fs cwd path hkeep history
    obtain ⟨fs', hsave, hload⟩ := load_save_of_canKeep hkeep history
    exact ⟨fs', _, hsave, hload, parse_render_eq_iff⟩
  · intro fs cwd path bs text hread htext history
    exact load_of_read hread htext history

/-- A file whose lines end in both ways, and what becomes of a history that is kept there: an entry loses its end. -/
theorem holds_keepable_mixed :
    let text := "ls\r\n\u00a0\n\r\n\npwd\r"
    let fs := FileSystem.install {} FileSystem.root "/h" (.regular (Text.encode text))
    ({ entries := ["cd"] } : History).load fs FileSystem.root "/h" = .ok ({ entries := ["cd", "ls", "pwd\r"] }, 2) ∧
      ∃ fs' loaded, ({ entries := ["ls", "pwd\r"] } : History).save fs FileSystem.root "/h" = (.ok (), fs') ∧
        ({} : History).load fs' FileSystem.root "/h" = .ok (loaded, loaded.entries.length) ∧
        loaded.entries ≠ ["ls", "pwd\r"] := by
  intro text fs
  obtain ⟨hkept, hread⟩ := holds_keepable
  have hlines : Text.nonBlankLines text = ["ls", "pwd\r"] := by decide +kernel
  have hload := hread fs FileSystem.root "/h" (Text.encode text) text (by decide +kernel) (Text.decode?_encode text)
    { entries := ["cd"] }
  obtain ⟨fs', loaded, hsave, hloaded, hiff⟩ := hkept fs FileSystem.root "/h" (by decide +kernel)
    { entries := ["ls", "pwd\r"] }
  refine ⟨by rw [hload, hlines]; rfl, fs', loaded, hsave, hloaded, fun heq => ?_⟩
  exact (hiff.1 heq "pwd\r" (by simp)).noReturn (by decide)

end

end History

end LineShell
