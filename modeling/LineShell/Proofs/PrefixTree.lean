import LineShell.Completion
import LineShell.Proofs.Encoding
import Mathlib.Data.Char
import Mathlib.Data.List.Dedup
import Mathlib.Data.List.Infix

/-!
# Prefix trees as sets of words

A prefix tree is the set of the words that were put into it: whatever was inserted and in whatever
order, the tree knows the words that are not empty, each once, counts them, and lists those with a given
beginning in the order of their bytes.

## The model

`Node.wordAt` is the view of a tree that everything else is said about: the word that ends where a walk
leads to. In a tree that `Holds` some words, the word at a node spells the walk to it, and no node leads on
by one character in two ways. So the nodes that a visit comes to are those that a walk leads to, and what
is found from a node on are the words that begin with the walk to it. A `Change` is what may happen to a
tree from outside; what is to be expected of it is said by a list of words that knows nothing of trees
(`Change.kept`).
-/

namespace LineShell.Trie

namespace Node

variable {node other : Node} {word : String} {path path' : List Char}

/-! ### One step -/

theorem lookup_cons_eq (c d : Char) (node : Node) (children : List (Char × Node)) :
    ((c, node) :: children).lookup d = if d = c then some node else children.lookup d := by
  rw [List.lookup_cons]
  by_cases hd : d = c
  · rw [if_pos hd, beq_iff_eq.2 hd]
  · rw [if_neg hd, beq_false_of_ne hd]

theorem lookup_replace (c : Char) (node : Node) (children : List (Char × Node)) (d : Char) :
    (replace c node children).lookup d = if d = c then some node else children.lookup d := by
  induction children with
  | nil => exact lookup_cons_eq c d node []
  | cons child children ih =>
    obtain ⟨e, other⟩ := child
    rw [replace]
    by_cases he : e = c
    · subst he
      rw [if_pos rfl, lookup_cons_eq, lookup_cons_eq]
      by_cases hd : d = e <;> simp [hd]
    · rw [if_neg he, lookup_cons_eq, lookup_cons_eq, ih]
      by_cases hd : d = e
      · subst hd
        rw [if_pos rfl, if_neg he, if_pos rfl]
      · rw [if_neg hd, if_neg hd]

theorem mem_map_fst_replace {c d : Char} {children : List (Char × Node)} :
    d ∈ (replace c node children).map (·.1) ↔ d = c ∨ d ∈ children.map (·.1) := by
  induction children with
  | nil => simp [replace]
  | cons child children ih =>
    obtain ⟨e, other⟩ := child
    rw [replace]
    split_ifs with he
    · subst he
      simp
    · rw [List.map_cons, List.mem_cons, ih, List.map_cons, List.mem_cons, or_left_comm]

theorem nodup_replace {c : Char} {children : List (Char × Node)} (h : (children.map (·.1)).Nodup) :
    ((replace c node children).map (·.1)).Nodup := by
  induction children with
  | nil => simp [replace]
  | cons child children ih =>
    obtain ⟨e, other⟩ := child
    rw [List.map_cons, List.nodup_cons] at h
    rw [replace]
    split_ifs with he
    · subst he
      simpa using h
    · rw [List.map_cons, List.nodup_cons, mem_map_fst_replace]
      exact ⟨fun hmem => hmem.elim he h.1, ih h.2⟩

/-- Where characters do not repeat, what is there for one is what is found for it. -/
theorem lookup_eq_some_iff {c : Char} {children : List (Char × Node)} (h : (children.map (·.1)).Nodup) :
    children.lookup c = some node ↔ (c, node) ∈ children := by
  induction children with
  | nil => simp
  | cons child children ih =>
    obtain ⟨e, other⟩ := child
    rw [List.map_cons, List.nodup_cons] at h
    rw [lookup_cons_eq, List.mem_cons, Prod.mk.injEq, ← ih h.2]
    by_cases hc : c = e
    · subst hc
      have hno : children.lookup c ≠ some node := fun hyes => h.1 (List.mem_map.2 ⟨_, (ih h.2).1 hyes, rfl⟩)
      simp [hno, eq_comm]
    · simp [hc]

/-! ### Walks -/

/-- The word that ends where a walk leads to. -/
def wordAt (node : Node) (path : List Char) : Option String := (node.at? path).bind Node.word

theorem at?_append (path path' : List Char) (node : Node) :
    node.at? (path ++ path') = (node.at? path).bind (·.at? path') := by
  induction path generalizing node with
  | nil => rfl
  | cons c cs ih =>
    rw [List.cons_append, at?, at?, Option.bind_assoc]
    exact Option.bind_congr fun child _ => ih child

theorem wordAt_nil (node : Node) : node.wordAt [] = node.word := rfl

theorem wordAt_cons (node : Node) (c : Char) (cs : List Char) :
    node.wordAt (c :: cs) = (node.children.lookup c).bind (·.wordAt cs) := by
  rw [wordAt, at?, Option.bind_assoc]
  rfl

theorem wordAt_empty (path : List Char) : empty.wordAt path = none := by
  cases path <;> rfl

theorem at?_singleton {c : Char} : node.at? [c] = some other ↔ node.children.lookup c = some other := by
  simp [Node.at?]

theorem wordAt_append (h : node.at? path = some other) (path' : List Char) :
    node.wordAt (path ++ path') = other.wordAt path' := by
  rw [wordAt, at?_append, h, Option.bind_some, wordAt]

/-! ### Storing -/

/-- A word is new if none ends where it is stored. -/
theorem store_snd (word : String) (path : List Char) (node : Node) :
    (node.store word path).2 = (node.wordAt path).isNone := by
  induction path generalizing node with
  | nil =>
    obtain ⟨old, children⟩ := node
    cases old <;> rfl
  | cons c cs ih =>
    rw [wordAt_cons, store]
    cases hc : node.children.lookup c with
    | none => exact (ih empty).trans (by rw [wordAt_empty]; rfl)
    | some child => exact ih child

/-- Only where a word is stored it ends, unless one ended there before. -/
theorem wordAt_store (word : String) (path : List Char) (node : Node) (path' : List Char) :
    (node.store word path).1.wordAt path' =
      if path' = path then some ((node.wordAt path).getD word) else node.wordAt path' := by
  induction path generalizing node path' with
  | nil =>
    obtain ⟨old, children⟩ := node
    cases path' with
    | nil => cases old <;> rfl
    | cons d ds => cases old <;> rfl
  | cons c cs ih =>
    cases path' with
    | nil => rfl
    | cons d ds =>
      have hstore : (node.store word (c :: cs)).1.children =
          replace c (store word cs ((node.children.lookup c).getD empty)).1 node.children := rfl
      rw [wordAt_cons, hstore, lookup_replace, wordAt_cons, wordAt_cons]
      by_cases hd : d = c
      · subst hd
        rw [if_pos rfl, Option.bind_some, ih]
        cases node.children.lookup d with
        | none => simp [wordAt_empty]
        | some child => simp
      · rw [if_neg hd, if_neg fun hboth => hd (List.cons.inj hboth).1]

/-- No node from this one on leads on by one character in two ways. -/
def Distinct (node : Node) : Prop :=
  ∀ path other, node.at? path = some other → (other.children.map (·.1)).Nodup

theorem distinct_empty : empty.Distinct := by
  intro path other h
  cases path with
  | nil =>
    cases h
    exact .nil
  | cons c cs => cases h

theorem Distinct.at? (h : node.Distinct) (hat : node.at? path = some other) : other.Distinct :=
  fun path' other' h' => h (path ++ path') other' (by rw [at?_append, hat]; exact h')

theorem Distinct.store (h : node.Distinct) (word : String) (path : List Char) : (node.store word path).1.Distinct := by
  induction path generalizing node with
  | nil =>
    obtain ⟨old, children⟩ := node
    cases old with
    | some old => exact h
    | none =>
      intro path' other h'
      cases path' with
      | nil =>
        cases h'
        exact h [] (mk none children) rfl
      | cons d ds => exact h (d :: ds) other h'
  | cons c cs ih =>
    have hchild : ((node.children.lookup c).getD empty).Distinct := by
      cases hc : node.children.lookup c with
      | none => exact distinct_empty
      | some child => exact h.at? (at?_singleton.2 hc)
    intro path' other h'
    cases path' with
    | nil =>
      cases h'
      exact nodup_replace (h [] _ rfl)
    | cons d ds =>
      rw [Node.at?] at h'
      simp only [Node.store, children, lookup_replace] at h'
      split_ifs at h' with hd
      · exact ih hchild ds other h'
      · exact h (d :: ds) other h'

/-! ### Visits -/

/-- A word ends from a node on if it ends there or from one of those on that follow. -/
theorem exists_wordAt_iff (h : node.Distinct) :
    (∃ path, node.wordAt path = some word) ↔
      node.word = some word ∨ ∃ next ∈ node.nexts, ∃ path, next.wordAt path = some word := by
  have hlookup (c : Char) (next : Node) : node.children.lookup c = some next ↔ (c, next) ∈ node.children :=
    lookup_eq_some_iff (h [] node rfl)
  constructor
  · rintro ⟨path, hpath⟩
    cases path with
    | nil => exact .inl hpath
    | cons c cs =>
      rw [wordAt_cons] at hpath
      obtain ⟨next, hnext, hword⟩ := Option.bind_eq_some_iff.1 hpath
      refine .inr ⟨next, ?_, cs, hword⟩
      exact List.mem_reverse.2 (List.mem_map.2 ⟨_, (hlookup c next).1 hnext, rfl⟩)
  · rintro (hword | ⟨next, hnext, path, hpath⟩)
    · exact ⟨[], hword⟩
    · obtain ⟨⟨c, _⟩, hmem, rfl⟩ := List.mem_map.1 (List.mem_reverse.1 hnext)
      exact ⟨c :: path, by rw [wordAt_cons, (hlookup c _).2 hmem]; exact hpath⟩

theorem Distinct.nexts (h : node.Distinct) : ∀ next ∈ node.nexts, next.Distinct := by
  intro next hnext
  obtain ⟨⟨c, _⟩, hmem, rfl⟩ := List.mem_map.1 (List.mem_reverse.1 hnext)
  have hlookup := (lookup_eq_some_iff (h [] node rfl)).2 hmem
  exact h.at? (at?_singleton.2 hlookup)

theorem mem_elim_insert {stored : Option String} {found : List String} :
    word ∈ stored.elim found found.insert ↔ word ∈ found ∨ stored = some word := by
  cases stored with
  | none => simp
  | some other => simp [or_comm, eq_comm]

/-- **A visit finds the words that end from the nodes of the stack on**, and no others. -/
theorem mem_visit {stack : List Node} {found : List String} (h : ∀ node ∈ stack, node.Distinct) :
    word ∈ visit stack found ↔ word ∈ found ∨ ∃ node ∈ stack, ∃ path, node.wordAt path = some word := by
  fun_induction visit stack found with
  | case1 found => simp
  | case2 node stack found ih =>
    have hnode := h node (.head _)
    rw [ih fun other hother => (List.mem_append.1 hother).elim (hnode.nexts other) fun hmem => h other (.tail _ hmem),
      mem_elim_insert]
    simp only [List.mem_append, List.mem_cons, or_and_right, exists_or, exists_eq_left, exists_wordAt_iff hnode,
      or_assoc]

theorem nodup_visit {stack : List Node} {found : List String} (h : found.Nodup) : (visit stack found).Nodup := by
  fun_induction visit stack found with
  | case1 found => exact h
  | case2 node stack found ih =>
    refine ih ?_
    cases node.word with
    | none => exact h
    | some word => exact h.insert

end Node

/-! ### A tree of words -/

/-- The tree holds these words and no others, except for the empty one, which no tree holds. -/
structure Holds (t : Trie) (ws : List String) : Prop where
  /-- Every walk leads to one node. -/
  distinct : t.root.Distinct
  /-- The word at a node spells the walk to it. -/
  wordAt : ∀ path w, t.root.wordAt path = some w ↔ w.toList = path ∧ w ∈ ws ∧ w ≠ ""
  /-- Every word is counted once. -/
  size : t.size = (ws.filter (· ≠ "")).dedup.length

theorem holds_empty : Holds {} [] where
  distinct := Node.distinct_empty
  wordAt path w := by
    change Node.empty.wordAt path = some w ↔ _
    simp [Node.wordAt_empty]
  size := rfl

theorem length_dedup_concat {α : Type} [DecidableEq α] (xs : List α) (x : α) :
    (xs ++ [x]).dedup.length = if x ∈ xs then xs.dedup.length else xs.dedup.length + 1 := by
  have hperm : (xs ++ [x]).dedup.Perm (x :: xs).dedup := List.perm_append_comm.dedup
  rw [hperm.length_eq]
  split_ifs with hx
  · rw [List.dedup_cons_of_mem hx]
  · rw [List.dedup_cons_of_notMem hx, List.length_cons]

variable {t : Trie} {ws : List String}

/-- **Insertion puts one word into the tree**, unless the word is empty. -/
theorem Holds.insert (h : t.Holds ws) (v : String) : (t.insert v).Holds (ws ++ [v]) := by
  by_cases hv : v = ""
  · subst hv
    refine ⟨h.distinct, fun path w => ?_, ?_⟩
    · rw [show t.insert "" = t from rfl, h.wordAt, List.mem_append, List.mem_singleton]
      exact and_congr_right fun _ => ⟨fun ⟨hw, hne⟩ => ⟨.inl hw, hne⟩, fun ⟨hw, hne⟩ => ⟨hw.resolve_right hne, hne⟩⟩
    · rw [show t.insert "" = t from rfl, h.size]
      simp [List.filter_append]
  have hinsert : t.insert v = { root := (t.root.store v v.toList).1
                                size := if (t.root.store v v.toList).2 then t.size + 1 else t.size } := by
    rw [Trie.insert, if_neg (by simpa [String.isEmpty_iff] using hv)]
  have hthere : t.root.wordAt v.toList = some v ↔ v ∈ ws := by simp [h.wordAt, hv]
  have hat (w : String) (hw : t.root.wordAt v.toList = some w) : w = v :=
    String.toList_inj.1 ((h.wordAt _ w).1 hw).1
  rw [hinsert]
  refine ⟨h.distinct.store v v.toList, fun path w => ?_, ?_⟩
  · rw [Node.wordAt_store, List.mem_append, List.mem_singleton]
    split_ifs with hpath
    · subst hpath
      have hget : (t.root.wordAt v.toList).getD v = v := by
        cases hword : t.root.wordAt v.toList with
        | none => rfl
        | some w => exact hat w hword
      rw [hget, Option.some.injEq]
      constructor
      · rintro rfl
        exact ⟨rfl, .inr rfl, hv⟩
      · exact fun hw => (String.toList_inj.1 hw.1).symm
    · rw [h.wordAt]
      refine and_congr_right fun hw => ⟨fun ⟨hmem, hne⟩ => ⟨.inl hmem, hne⟩, fun ⟨hmem, hne⟩ => ⟨?_, hne⟩⟩
      refine hmem.resolve_right fun heq => hpath ?_
      rw [← hw, heq]
  · have hfilter : (ws ++ [v]).filter (· ≠ "") = ws.filter (· ≠ "") ++ [v] := by simp [List.filter_append, hv]
    have hmem : v ∈ ws.filter (· ≠ "") ↔ v ∈ ws := by simp [hv]
    rw [Node.store_snd, hfilter, length_dedup_concat, ← h.size]
    by_cases hin : v ∈ ws
    · rw [if_pos (hmem.2 hin), hthere.2 hin]
      rfl
    · have hnone : t.root.wordAt v.toList = none := by
        cases hword : t.root.wordAt v.toList with
        | none => rfl
        | some w => exact absurd (hthere.1 (hat w hword ▸ hword)) hin
      rw [if_neg fun hyes => hin (hmem.1 hyes), hnone]
      rfl

theorem Holds.foldl_insert (h : t.Holds ws) (vs : List String) : (vs.foldl Trie.insert t).Holds (ws ++ vs) := by
  induction vs generalizing t ws with
  | nil => simpa using h
  | cons v vs ih => simpa using ih (h.insert v)

theorem holds_ofList (ws : List String) : (ofList ws).Holds ws := holds_empty.foldl_insert ws

/-- The words that are found for a beginning are those that are held and begin so. -/
theorem Holds.mem_withPrefix (h : t.Holds ws) {start w : String} :
    w ∈ t.withPrefix start ↔ w ∈ ws ∧ w ≠ "" ∧ start.toList <+: w.toList := by
  have hwalk : (∃ path, t.root.wordAt (start.toList ++ path) = some w) ↔
      w ∈ ws ∧ w ≠ "" ∧ start.toList <+: w.toList := by
    simp only [h.wordAt]
    exact ⟨fun ⟨path, hpath, hmem, hne⟩ => ⟨hmem, hne, path, hpath.symm⟩,
      fun ⟨hmem, hne, path, hpath⟩ => ⟨path, hpath.symm, hmem, hne⟩⟩
  rw [← hwalk, withPrefix]
  cases hat : t.root.at? start.toList with
  | none => simp [Node.wordAt, Node.at?_append, hat]
  | some node =>
    have hdistinct : ∀ other ∈ [node], other.Distinct := by
      intro other hother
      exact List.mem_singleton.1 hother ▸ h.distinct.at? hat
    rw [Node.mem_visit hdistinct]
    simp [Node.wordAt_append hat]

theorem nodup_withPrefix (t : Trie) (start : String) : (t.withPrefix start).Nodup := by
  rw [withPrefix]
  split
  · exact .nil
  · exact Node.nodup_visit .nil

/-! ### Candidates -/

theorem place_perm (w : String) (ws : List String) : (place w ws).Perm (w :: ws) := by
  induction ws with
  | nil => exact .refl _
  | cons v vs ih =>
    rw [place]
    split_ifs
    · exact .refl _
    · exact (ih.cons v).trans (.swap ..)

theorem sorted_perm (ws : List String) : (sorted ws).Perm ws := by
  induction ws with
  | nil => exact .refl _
  | cons w ws ih => exact (place_perm w _).trans (ih.cons w)

theorem pairwise_place {ws : List String} (h : ws.Pairwise (· ≤ ·)) (w : String) : (place w ws).Pairwise (· ≤ ·) := by
  induction ws with
  | nil => exact List.pairwise_singleton ..
  | cons v vs ih =>
    rw [List.pairwise_cons] at h
    rw [place]
    split_ifs with hle
    · refine List.pairwise_cons.2 ⟨fun u hu => ?_, List.pairwise_cons.2 h⟩
      obtain rfl | hu := List.mem_cons.1 hu
      · exact hle
      · exact String.le_trans hle (h.1 u hu)
    · refine List.pairwise_cons.2 ⟨fun u hu => ?_, ih h.2⟩
      obtain rfl | hu := List.mem_cons.1 ((place_perm w vs).mem_iff.1 hu)
      · exact (String.le_total v u).resolve_right hle
      · exact h.1 u hu

theorem pairwise_sorted (ws : List String) : (sorted ws).Pairwise (· ≤ ·) := by
  induction ws with
  | nil => exact .nil
  | cons w ws ih => exact pairwise_place ih w

theorem perm_completions (t : Trie) (start : String) : (t.completions start).Perm (t.withPrefix start) :=
  sorted_perm _

theorem nodup_completions (t : Trie) (start : String) : (t.completions start).Nodup :=
  (t.perm_completions start).nodup_iff.2 (t.nodup_withPrefix start)

theorem Holds.mem_completions (h : t.Holds ws) {start w : String} :
    w ∈ t.completions start ↔ w ∈ ws ∧ w ≠ "" ∧ start.toList <+: w.toList := by
  rw [(t.perm_completions start).mem_iff, h.mem_withPrefix]

/-- Candidates come in the order of their bytes. -/
theorem pairwise_completions (t : Trie) (start : String) :
    (t.completions start).Pairwise fun a b => Text.encode a < Text.encode b := by
  have hsorted : (t.completions start).Pairwise (· ≤ ·) := pairwise_sorted _
  refine (hsorted.and (t.nodup_completions start)).imp fun {a b} hab => ?_
  have hlt : a < b := String.not_le.1 fun hba => hab.2 (String.le_antisymm hab.1 hba)
  exact Text.encodeChars_lt (String.lt_iff.1 hlt)

theorem Holds.isEmpty_iff (h : t.Holds ws) : t.isEmpty = true ↔ ∀ w ∈ ws, w = "" := by
  simp [isEmpty, h.size, List.filter_eq_nil_iff]

/-- Trees that hold the same words list the same candidates. -/
theorem Holds.completions_congr {u : Trie} {vs : List String} (h : t.Holds ws) (hu : u.Holds vs)
    (hsame : ∀ w, w ≠ "" → (w ∈ ws ↔ w ∈ vs)) (start : String) : t.completions start = u.completions start := by
  have hperm : (t.completions start).Perm (u.completions start) := by
    refine (List.perm_ext_iff_of_nodup (t.nodup_completions start) (u.nodup_completions start)).2 fun w => ?_
    rw [h.mem_completions, hu.mem_completions]
    exact ⟨fun ⟨hw, hne, hp⟩ => ⟨(hsame w hne).1 hw, hne, hp⟩, fun ⟨hw, hne, hp⟩ => ⟨(hsame w hne).2 hw, hne, hp⟩⟩
  exact hperm.eq_of_pairwise (fun a b _ _ hab hba => absurd hba (List.lt_asymm hab))
    (t.pairwise_completions start) (u.pairwise_completions start)

/-! ### Changes -/

/-- What may happen to a tree. -/
inductive Change where
  /-- A word is put into it. -/
  | insert (word : String)
  /-- All words are taken out. -/
  | clear
  deriving DecidableEq, Repr

/-- The tree after a change. -/
def apply (t : Trie) : Change → Trie
  | .insert word => t.insert word
  | .clear => t.clear

/-- The words that were put in since all were taken out last, where `ws` were there before. -/
def Change.kept (ws : List String) : List Change → List String
  | [] => ws
  | .insert word :: changes => kept (ws ++ [word]) changes
  | .clear :: changes => kept [] changes

theorem Holds.foldl_apply (h : t.Holds ws) (changes : List Change) :
    (changes.foldl apply t).Holds (Change.kept ws changes) := by
  induction changes generalizing t ws with
  | nil => exact h
  | cons change changes ih =>
    cases change with
    | insert word => exact ih (h.insert word)
    | clear => exact ih holds_empty

/-- **A prefix tree is the set of its words.** After any changes to the tree of any words, what is found for a
beginning are the words kept that are not empty and begin so, each once; the counter is the number of different
words; and a completer of the same words, in whatever order and however often they are named, lists what is found in
strictly increasing order of bytes. -/
theorem completions_eq_words_kept (initial : List String) (changes : List Change) :
    let t := changes.foldl apply (ofList initial)
    let ws := Change.kept initial changes
    (∀ start w, w ∈ t.withPrefix start ↔ w ∈ ws ∧ w ≠ "" ∧ start.toList <+: w.toList) ∧
    (∀ start, (t.withPrefix start).Nodup) ∧
    t.size = (ws.filter (· ≠ "")).dedup.length ∧
    (t.isEmpty = true ↔ ∀ w ∈ ws, w = "") ∧
    ∀ vs : List String, (∀ w, w ≠ "" → (w ∈ vs ↔ w ∈ ws)) → ∀ start,
      (Completion.ofWords vs start).Perm (t.withPrefix start) ∧
      Completion.ofWords vs start = t.completions start ∧
      (Completion.ofWords vs start).Pairwise fun a b => Text.encode a < Text.encode b := by
  intro t ws
  have hholds : t.Holds ws := (holds_ofList initial).foldl_apply changes
  refine ⟨fun _ _ => hholds.mem_withPrefix, t.nodup_withPrefix, hholds.size, hholds.isEmpty_iff, ?_⟩
  intro vs hsame start
  have heq : Completion.ofWords vs start = t.completions start := (holds_ofList vs).completions_congr hholds hsame start
  exact ⟨heq ▸ t.perm_completions start, heq, pairwise_completions _ start⟩

/-- A word that was there before a clearing, the empty word, and a word that is put in twice. -/
theorem completions_eq_words_kept_reordered :
    (∀ w, w ≠ "" → (w ∈ ["é", "ex"] ↔
      w ∈ Change.kept ["cd"] [.clear, .insert "ex", .insert "", .insert "é", .insert "ex"])) ∧
    Completion.ofWords ["é", "ex"] "" =
      ([.clear, .insert "ex", .insert "", .insert "é", .insert "ex"].foldl apply
        (ofList ["cd"])).completions "" := by
  have hsame : ∀ w, w ≠ "" → (w ∈ ["é", "ex"] ↔
      w ∈ Change.kept ["cd"] [.clear, .insert "ex", .insert "", .insert "é", .insert "ex"]) := by
    intro w hne
    simp [Change.kept, hne]
    tauto
  exact ⟨hsame, ((completions_eq_words_kept _ _).2.2.2.2 _ hsame "").2.1⟩

end LineShell.Trie
