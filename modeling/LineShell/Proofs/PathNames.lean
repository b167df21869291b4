import LineShell.Files.Basic
import LineShell.Proofs.Stages

/-!
# Names along paths

How the names along a path come from the texts that it was put together from. A slash cuts a path in two, each with
its own parts, so a path that goes on from another one has the names of both. The components of a path are its names
without the dots, and this decides which paths count as a single name: `Padded name path` says that nothing follows the
name but slashes and dots (`components_eq_singleton_iff`).

## The model

`IsName` says which texts can stand for an entry of a directory. Of the other texts without a slash, the empty one and
the dot mean the directory itself and two dots the one above it.
-/

namespace LineShell

/-- What is no separator is in a piece. -/
theorem exists_mem_pieces {α : Type*} {p : α → Bool} {xs : List α} {x : α} (hx : x ∈ xs) (h : p x = false) :
    ∃ piece ∈ pieces p xs, x ∈ piece := by
  induction xs with
  | nil => cases hx
  | cons y ys ih =>
    obtain ⟨q, qs, hq⟩ := List.exists_cons_of_ne_nil (pieces_ne_nil p ys)
    rw [hq] at ih
    by_cases hy : p y = true
    · have hmem : x ∈ ys := (List.mem_cons.1 hx).resolve_left fun heq => by simp [← heq, h] at hy
      obtain ⟨piece, hpiece, hxp⟩ := ih hmem
      exact ⟨piece, by simp [pieces, hy, hq, List.mem_cons.1 hpiece], hxp⟩
    · rw [pieces, if_neg hy, hq]
      obtain rfl | hmem := List.mem_cons.1 hx
      · exact ⟨x :: q, List.mem_cons_self, List.mem_cons_self⟩
      · obtain ⟨piece, hpiece, hxp⟩ := ih hmem
        obtain rfl | hpiece := List.mem_cons.1 hpiece
        · exact ⟨y :: piece, List.mem_cons_self, List.mem_cons_of_mem _ hxp⟩
        · exact ⟨piece, List.mem_cons_of_mem _ hpiece, hxp⟩

namespace Path

/-- The text can be the name of an entry of a directory. -/
def IsName (name : String) : Prop := name ≠ "" ∧ name ≠ "." ∧ name ≠ ".." ∧ '/' ∉ name.toList

instance : DecidablePred IsName := fun name =>
  inferInstanceAs (Decidable (name ≠ "" ∧ name ≠ "." ∧ name ≠ ".." ∧ '/' ∉ name.toList))

/-- The path is a name and after it a slash, and then nothing but slashes and single dots: `sh/`, `sh//.`. -/
structure Padded (name path : String) : Prop where
  /-- There is a name. -/
  ne_empty : name ≠ ""
  /-- It is a single one. -/
  no_slash : '/' ∉ name.toList
  /-- Nothing that counts follows it. -/
  padding : ∃ rest, path = name ++ "/" ++ rest ∧ ∀ part ∈ parts rest, part = "" ∨ part = "."

/-- The name of the file at the end of a path, if the path ends with a name. -/
def fileName? (path : String) : Option String := (components path).getLast?.filter fun name => IsName name

/-! ### Parts -/

theorem parts_append_slash (s t : String) : parts (s ++ "/" ++ t) = parts s ++ parts t := by
  have hchars : (s ++ "/" ++ t).toList = s.toList ++ '/' :: t.toList := by simp
  rw [parts, textPieces, hchars, pieces_append_cons (by simp), List.map_append]
  rfl

theorem parts_of_no_slash {name : String} (h : '/' ∉ name.toList) : parts name = [name] := by
  have hpieces : pieces (· == '/') name.toList = [name.toList] :=
    pieces_of_all_false fun c hc => beq_eq_false_iff_ne.2 fun heq => h (heq ▸ hc)
  rw [parts, textPieces, hpieces, List.map_singleton, String.ofList_toList]

theorem no_slash_of_mem_parts {path part : String} (h : part ∈ parts path) : '/' ∉ part.toList := by
  obtain ⟨cs, hcs, rfl⟩ := List.mem_map.1 h
  intro hslash
  rw [String.toList_ofList] at hslash
  exact absurd (eq_false_of_mem_pieces hcs _ hslash) (by simp)

/-- Every character of a path but the slashes is in a part. -/
theorem exists_mem_parts {path : String} {c : Char} (hc : c ∈ path.toList) (hslash : c ≠ '/') :
    ∃ part ∈ parts path, c ∈ part.toList := by
  obtain ⟨piece, hpiece, hmem⟩ := exists_mem_pieces hc (p := (· == '/')) (beq_eq_false_iff_ne.2 hslash)
  exact ⟨String.ofList piece, List.mem_map_of_mem hpiece, by rwa [String.toList_ofList]⟩

/-- A path with a slash is cut at the first one. -/
theorem exists_eq_append_slash {path : String} (h : '/' ∈ path.toList) :
    ∃ name rest, path = name ++ "/" ++ rest ∧ '/' ∉ name.toList := by
  obtain ⟨as, bs, hpath, has⟩ := List.eq_append_cons_of_mem h
  refine ⟨String.ofList as, String.ofList bs, String.toList_inj.1 ?_, by simpa using has⟩
  simpa using hpath

theorem exists_of_endsWithSlash {path : String} (h : endsWithSlash path = true) : ∃ s, path = s ++ "/" := by
  obtain ⟨cs, hpath⟩ := List.getLast?_eq_some_iff.1 (beq_iff_eq.1 h)
  exact ⟨String.ofList cs, String.toList_inj.1 (by simpa using hpath)⟩

theorem endsWithSlash_append (s : String) {t : String} (ht : t ≠ "") : endsWithSlash (s ++ t) = endsWithSlash t := by
  have hne : t.toList ≠ [] := by simpa using ht
  rw [endsWithSlash, endsWithSlash, String.toList_append, List.getLast?_append_of_ne_nil _ hne]

theorem endsWithSlash_of_no_slash {name : String} (h : '/' ∉ name.toList) : endsWithSlash name = false :=
  beq_eq_false_iff_ne.2 fun hlast => h (List.mem_of_getLast? hlast)

theorem isAbsolute_append (t : String) {s : String} (hs : s ≠ "") : isAbsolute (s ++ t) = isAbsolute s := by
  have hne : s.toList ≠ [] := by simpa using hs
  rw [isAbsolute, isAbsolute, String.toList_append, List.head?_append_of_ne_nil _ hne]

theorem isAbsolute_of_no_slash {name : String} (h : '/' ∉ name.toList) : isAbsolute name = false :=
  beq_eq_false_iff_ne.2 fun hhead => h (List.mem_of_head? hhead)

/-! ### Names -/

/-- The texts between the slashes of a path that are not empty. -/
abbrev fullParts (path : String) : List String := (parts path).filter (· ≠ "")

theorem fullParts_append_slash (s t : String) : fullParts (s ++ "/" ++ t) = fullParts s ++ fullParts t := by
  rw [fullParts, parts_append_slash, List.filter_append]

theorem fullParts_of_no_slash {name : String} (h : '/' ∉ name.toList) (hne : name ≠ "") : fullParts name = [name] := by
  simp [fullParts, parts_of_no_slash h, hne]

theorem fullParts_slash (s : String) : fullParts (s ++ "/") = fullParts s := by
  have hempty : fullParts "" = [] := by decide
  simpa [hempty] using fullParts_append_slash s ""

/-- A path that goes on from another one has the parts of both. -/
theorem fullParts_join (base : String) {path : String} (h : isAbsolute path = false) :
    fullParts (join base path) = fullParts base ++ fullParts path := by
  rw [join, h]
  by_cases hslash : endsWithSlash base = true
  · obtain ⟨s, rfl⟩ := exists_of_endsWithSlash hslash
    simp [hslash, fullParts_slash, fullParts_append_slash]
  · by_cases hbase : base = ""
    · have hempty : fullParts "" = [] := by decide
      simp [hbase, hempty]
    · simp [hslash, hbase, fullParts_append_slash]

/-- The names along a path are its parts, and perhaps an empty one. -/
theorem names_cases (path : String) :
    names path = fullParts path ∨ endsWithSlash path = true ∧ names path = fullParts path ++ [""] := by
  unfold names
  by_cases h : (endsWithSlash path && ! ((parts path).filter (· ≠ "")).isEmpty) = true
  · exact .inr ⟨(Bool.and_eq_true_iff.1 h).1, if_pos h⟩
  · exact .inl (if_neg h)

theorem names_congr {path path' : String} (hparts : fullParts path' = fullParts path)
    (hends : endsWithSlash path' = endsWithSlash path) : names path' = names path := by
  rw [fullParts, fullParts] at hparts
  rw [names, names, hparts, hends]

/-- It does not matter how many slashes stand between names. -/
theorem names_double_slash {base : String} (h : endsWithSlash base = true) (path : String) :
    names (base ++ "/" ++ path) = names (base ++ path) := by
  obtain ⟨s, rfl⟩ := exists_of_endsWithSlash h
  refine names_congr (by simp only [fullParts_append_slash, fullParts_slash]) ?_
  by_cases hpath : path = ""
  · rw [hpath, String.append_empty, String.append_empty, h, endsWithSlash_append _ (by decide)]
    decide
  · rw [endsWithSlash_append _ hpath, endsWithSlash_append _ hpath]

theorem names_of_not_endsWithSlash {path : String} (h : endsWithSlash path = false) : names path = fullParts path := by
  rw [names, h, Bool.false_and, if_neg Bool.false_ne_true]

theorem names_of_endsWithSlash {path : String} (h : endsWithSlash path = true) (hne : fullParts path ≠ []) :
    names path = fullParts path ++ [""] := by
  have hfull : (fullParts path).isEmpty = false := by simpa using hne
  rw [names, h, Bool.true_and, if_pos (by rw [hfull, Bool.not_false])]

/-- A path without parts is empty or ends with a slash. -/
theorem fullParts_ne_nil {path : String} (hne : path ≠ "") (h : endsWithSlash path = false) : fullParts path ≠ [] := by
  have hchars : path.toList ≠ [] := by simpa using hne
  have hlast : path.toList.getLast hchars ≠ '/' := by
    rintro heq
    rw [endsWithSlash, List.getLast?_eq_some_getLast hchars, heq] at h
    exact absurd h (by decide)
  obtain ⟨part, hpart, hmem⟩ := exists_mem_parts (List.getLast_mem hchars) hlast
  have hpart_ne : part ≠ "" := by
    rintro rfl
    simp at hmem
  exact List.ne_nil_of_mem (List.mem_filter.2 ⟨hpart, by simpa using hpart_ne⟩)

theorem join_append (base : String) {name : String} (h : isAbsolute name = false) :
    ∃ gap, join base name = base ++ gap ++ name := by
  by_cases hjoin : base = "" ∨ endsWithSlash base = true
  · exact ⟨"", by simp [join, h, hjoin]⟩
  · exact ⟨"/", by simp [join, h, hjoin]⟩

/-- The names along a path that goes on with one more name. -/
theorem names_join (base : String) {name : String} (hslash : '/' ∉ name.toList) (hne : name ≠ "") :
    names (join base name) = fullParts base ++ [name] := by
  have habsolute := isAbsolute_of_no_slash hslash
  obtain ⟨gap, hjoin⟩ := join_append base habsolute
  have hends : endsWithSlash (join base name) = false := by
    rw [hjoin, endsWithSlash_append _ hne, endsWithSlash_of_no_slash hslash]
  rw [names_of_not_endsWithSlash hends, fullParts_join base habsolute, fullParts_of_no_slash hslash hne]

theorem isAbsolute_join {base name : String} (hbase : base ≠ "") (h : isAbsolute name = false) :
    isAbsolute (join base name) = isAbsolute base := by
  obtain ⟨gap, hjoin⟩ := join_append base h
  rw [hjoin, String.append_assoc, isAbsolute_append _ hbase]

/-! ### Components -/

/-- After the start of a path, dots and empty parts do not count. -/
theorem components_tail (parts : List String) (place : Nat) :
    ((parts.zipIdx (place + 1)).filter fun (part, place) => counts part place).map (·.1) =
      parts.filter fun part => part ≠ "" && part ≠ "." := by
  induction parts generalizing place with
  | nil => rfl
  | cons part parts ih =>
    have hcounts : counts part (place + 1) = (part ≠ "" && part ≠ ".") := by simp [counts]
    rw [List.zipIdx_cons, List.filter_cons, List.filter_cons]
    simp only [hcounts]
    split
    · rw [List.map_cons, ih]
    · exact ih (place + 1)

theorem components_of_parts {path part : String} {rest : List String} (h : parts path = part :: rest)
    (hne : part ≠ "") : components path = part :: rest.filter fun part => part ≠ "" && part ≠ "." := by
  have hcounts : counts part 0 = true := by simp [counts, hne]
  rw [components, h, List.zipIdx_cons, List.filter_cons_of_pos (by exact hcounts), List.map_cons, components_tail]

/-- A name without a slash is its only component. -/
theorem components_of_no_slash {name : String} (hne : name ≠ "") (h : '/' ∉ name.toList) : components name = [name] :=
  components_of_parts (parts_of_no_slash h) hne

/-- A path with a slash starts with a name, or at the root. -/
theorem exists_parts_cons {path : String} (hslash : '/' ∈ path.toList) (habsolute : isAbsolute path = false) :
    ∃ first rest, path = first ++ "/" ++ rest ∧ first ≠ "" ∧ '/' ∉ first.toList ∧
      parts path = first :: parts rest := by
  obtain ⟨first, rest, rfl, hfirst⟩ := exists_eq_append_slash hslash
  refine ⟨first, rest, rfl, ?_, hfirst, ?_⟩
  · rintro rfl
    simp [isAbsolute] at habsolute
  · rw [parts_append_slash, parts_of_no_slash hfirst, List.singleton_append]

theorem Padded.isAbsolute {name path : String} (h : Padded name path) : isAbsolute path = false := by
  obtain ⟨rest, rfl, -⟩ := h.padding
  rw [String.append_assoc, isAbsolute_append _ h.ne_empty, isAbsolute_of_no_slash h.no_slash]

/-- Of the paths with a slash that do not start at the root, those with a single component are padded names. -/
theorem components_eq_singleton_iff {name path : String} (hslash : '/' ∈ path.toList)
    (habsolute : isAbsolute path = false) : components path = [name] ↔ Padded name path := by
  obtain ⟨first, rest, rfl, hne, hfirst, hparts⟩ := exists_parts_cons hslash habsolute
  rw [components_of_parts hparts hne, List.cons.injEq, List.filter_eq_nil_iff]
  constructor
  · rintro ⟨rfl, hrest⟩
    refine ⟨hne, hfirst, rest, rfl, fun part hpart => ?_⟩
    have := hrest part hpart
    grind
  · rintro ⟨hname, hno, rest', hpath, hrest⟩
    have hparts' : parts (first ++ "/" ++ rest) = name :: parts rest' := by
      rw [hpath, parts_append_slash, parts_of_no_slash hno, List.singleton_append]
    rw [hparts] at hparts'
    obtain ⟨rfl, hsame⟩ := List.cons.inj hparts'
    refine ⟨rfl, fun part hpart => ?_⟩
    rw [hsame] at hpart
    obtain rfl | rfl := hrest part hpart <;> decide

/-- The last name along a padded path is a dot, or the empty one. -/
theorem Padded.names {name path : String} (h : Padded name path) :
    ∃ ns last, names path = ns ++ [last] ∧ (last = "" ∨ last = ".") := by
  obtain ⟨rest, rfl, hrest⟩ := h.padding
  have hparts : fullParts (name ++ "/" ++ rest) = name :: fullParts rest := by
    rw [fullParts_append_slash, fullParts_of_no_slash h.no_slash h.ne_empty, List.singleton_append]
  by_cases hends : endsWithSlash (name ++ "/" ++ rest) = true
  · exact ⟨_, "", names_of_endsWithSlash hends (by rw [hparts]; exact List.cons_ne_nil _ _), .inl rfl⟩
  · rw [Bool.not_eq_true] at hends
    have hne : rest ≠ "" := by
      rintro rfl
      rw [String.append_empty, endsWithSlash_append name (by decide)] at hends
      exact absurd hends (by decide)
    rw [endsWithSlash_append _ hne] at hends
    have hfull := fullParts_ne_nil hne hends
    have hmem := List.mem_filter.1 (List.getLast_mem hfull)
    refine ⟨name :: (fullParts rest).dropLast, (fullParts rest).getLast hfull, ?_, .inr ?_⟩
    · rw [names_of_not_endsWithSlash (by rwa [endsWithSlash_append _ hne]), hparts, List.cons_append,
        List.dropLast_append_getLast hfull]
    · exact (hrest _ hmem.1).resolve_left (by simpa using hmem.2)

/-- A path with a slash has components, unless it starts at the root. -/
theorem components_ne_nil {path : String} (hslash : '/' ∈ path.toList) (habsolute : isAbsolute path = false) :
    components path ≠ [] := by
  obtain ⟨first, rest, -, hne, -, hparts⟩ := exists_parts_cons hslash habsolute
  rw [components_of_parts hparts hne]
  exact List.cons_ne_nil _ _

/-- The file at the end of a path that goes on with a name has that name. -/
theorem fileName?_join (base : String) {name : String} (h : IsName name) : fileName? (join base name) = some name := by
  have hne : name ≠ "" := h.1
  have hdot : name ≠ "." := h.2.1
  have hslash : '/' ∉ name.toList := h.2.2.2
  have hlast : ∃ before, parts (join base name) = before ++ [name] := by
    rw [join, isAbsolute_of_no_slash hslash]
    by_cases hends : endsWithSlash base = true
    · obtain ⟨s, rfl⟩ := exists_of_endsWithSlash hends
      exact ⟨parts s, by simp [hends, parts_append_slash, parts_of_no_slash hslash]⟩
    · by_cases hbase : base = ""
      · exact ⟨[], by simp [hbase, parts_of_no_slash hslash]⟩
      · exact ⟨parts base, by simp [hends, hbase, parts_append_slash, parts_of_no_slash hslash]⟩
  obtain ⟨before, hparts⟩ := hlast
  have hcounts : counts name before.length = true := by simp [counts, hne, hdot]
  simp [fileName?, components, hparts, List.zipIdx_append, hcounts, h]

end Path

/-! ### Faults -/

theorem Text.rawLength_append (s t : String) : rawLength (s ++ t) = rawLength s + rawLength t := by
  simp only [rawLength, String.toList_append]
  induction s.toList with
  | nil => simp
  | cons c cs ih => rw [List.cons_append, List.foldr_cons, List.foldr_cons, ih, Nat.add_assoc]

/-- A path of which nothing is wrong can be shortened, unless nothing remains. -/
theorem FileSystem.pathFault_of_longer (before middle after : String)
    (h : pathFault (before ++ middle ++ after) = none) (hne : before ++ after ≠ "") :
    pathFault (before ++ after) = none := by
  unfold pathFault at h ⊢
  split_ifs at h with hnul hempty hlong
  have hnul' : ¬ Path.hasNul (before ++ after) = true := by
    simp [Path.hasNul] at hnul ⊢
    tauto
  have hlong' : ¬ (maxPath ≤ (before ++ after).utf8ByteSize && maxPath ≤ Text.rawLength (before ++ after)) = true := by
    simp [Text.rawLength_append] at hlong ⊢
    omega
  rw [if_neg hnul', if_neg hne, if_neg hlong']

end LineShell
