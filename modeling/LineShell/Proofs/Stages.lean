import LineShell.Invocation
import Mathlib.Data.List.Basic

/-!
# Stages and their words

How words fall into stages, and what the words of one stage mean, word by word: the equations by
which texts that were put together are taken apart again. Cutting words into stages undoes joining stages
with pipe symbols (`stages_iff_joined`), and the words of one stage mean what the only way to read them says
(`ofWords_reads`).

## The model

`Joined` holds of stages and of any words that are these stages with pipe symbols between them, at least one
between two of them and any number more. A `Reading` of words is a row of `Part`s, each a word or an operator
with its target, and perhaps an operator that has no target; what it means is told without the order in which
`ofWords` finds it out.
-/

namespace LineShell

/-! ### Pieces -/

theorem pieces_ne_nil {α : Type*} (p : α → Bool) (xs : List α) : pieces p xs ≠ [] := by
  fun_induction pieces p xs <;> simp_all

/-- A separator cuts a list into two lists, each of which has its own pieces. -/
theorem pieces_append_cons {α : Type*} {p : α → Bool} {x : α} (hx : p x = true) (xs ys : List α) :
    pieces p (xs ++ x :: ys) = pieces p xs ++ pieces p ys := by
  induction xs with
  | nil => simp [pieces, hx]
  | cons y xs ih =>
    rw [List.cons_append, pieces, pieces, ih]
    by_cases hy : p y
    · simp [hy]
    · obtain ⟨q, qs, hq⟩ := List.exists_cons_of_ne_nil (pieces_ne_nil p xs)
      simp [hy, hq]

theorem pieces_of_all_false {α : Type*} {p : α → Bool} {xs : List α} (h : ∀ x ∈ xs, p x = false) :
    pieces p xs = [xs] := by
  induction xs with
  | nil => rfl
  | cons x xs ih =>
    have hx : p x = false := h x (List.mem_cons_self ..)
    rw [pieces, ih fun y hy => h y (List.mem_cons_of_mem _ hy)]
    simp [hx]

/-- There is no separator in a piece. -/
theorem eq_false_of_mem_pieces {α : Type*} {p : α → Bool} {xs piece : List α} (h : piece ∈ pieces p xs) :
    ∀ x ∈ piece, p x = false := by
  induction xs generalizing piece with
  | nil =>
    obtain rfl := List.mem_singleton.1 h
    exact fun x hx => absurd hx List.not_mem_nil
  | cons x xs ih =>
    rw [pieces] at h
    split at h
    · obtain rfl | h := List.mem_cons.1 h
      · exact fun y hy => absurd hy List.not_mem_nil
      · exact ih h
    · next hx =>
      obtain ⟨q, qs, hq⟩ := List.exists_cons_of_ne_nil (pieces_ne_nil p xs)
      rw [hq] at h ih
      obtain rfl | h := List.mem_cons.1 h
      · exact List.forall_mem_cons.2 ⟨Bool.not_eq_true _ ▸ hx, ih List.mem_cons_self⟩
      · exact ih (List.mem_cons_of_mem _ h)

/-- Without the separators the pieces are the list, in order. -/
theorem flatten_pieces {α : Type*} (p : α → Bool) (xs : List α) :
    (pieces p xs).flatten = xs.filter (! p ·) := by
  induction xs with
  | nil => rfl
  | cons x xs ih =>
    rw [pieces]
    by_cases hx : p x
    · simp [hx, ih]
    · obtain ⟨q, qs, hq⟩ := List.exists_cons_of_ne_nil (pieces_ne_nil p xs)
      rw [hq, List.flatten_cons] at ih
      simp [hx, hq, ← ih]

/-! ### Stages -/

namespace Pipeline

/-- `Joined row ws`: the words `ws` are the stages `row` with pipe symbols between them, and perhaps more pipe
symbols before, behind and between them. No stage is empty or holds a pipe symbol. -/
inductive Joined : List (List String) → List String → Prop where
  /-- No stages. -/
  | nil : Joined [] []
  /-- One more pipe symbol in front. -/
  | pipe {row : List (List String)} {ws : List String} : Joined row ws → Joined row (Words.pipe :: ws)
  /-- A single stage. -/
  | last {stage : List String} : stage ≠ [] → Words.pipe ∉ stage → Joined [stage] stage
  /-- A stage, a pipe symbol, and more stages. -/
  | cons {stage : List String} {row : List (List String)} {ws : List String} :
      stage ≠ [] → Words.pipe ∉ stage → Joined row ws → Joined (stage :: row) (stage ++ Words.pipe :: ws)

/-- A pipe symbol cuts words into two rows of words, each of which has its own stages. -/
theorem stages_append_pipe (xs ys : List String) :
    stages (xs ++ Words.pipe :: ys) = stages xs ++ stages ys := by
  rw [stages, pieces_append_cons (by simp), List.filter_append]
  rfl

/-- Words with no pipe symbol among them are one stage, if there are any. -/
theorem stages_of_not_mem {xs : List String} (h : Words.pipe ∉ xs) (hne : xs ≠ []) :
    stages xs = [xs] := by
  have hall : ∀ x ∈ xs, (x == Words.pipe) = false := by
    intro x hx
    rw [beq_eq_false_iff_ne]
    rintro rfl
    exact h hx
  rw [stages, pieces_of_all_false hall]
  simp [hne]

/-- There is no pipe symbol in a stage. -/
theorem pipe_not_mem_of_mem_stages {ws stage : List String} (h : stage ∈ stages ws) : Words.pipe ∉ stage :=
  fun hpipe => by simpa using eq_false_of_mem_pieces (List.mem_filter.1 h).1 _ hpipe

theorem ne_nil_of_mem_stages {ws stage : List String} (h : stage ∈ stages ws) : stage ≠ [] := by
  simpa using (List.mem_filter.1 h).2

/-- No word but the pipe symbols is lost, and none is moved. -/
theorem flatten_stages (ws : List String) : (stages ws).flatten = ws.filter (· ≠ Words.pipe) := by
  rw [stages, List.flatten_filter_not_isEmpty, flatten_pieces]
  exact List.filter_congr fun w _ => by simp [beq_eq_decide]

theorem stages_pipe_cons (ws : List String) : stages (Words.pipe :: ws) = stages ws :=
  stages_append_pipe [] ws

theorem Joined.stages {row : List (List String)} {ws : List String} (h : Joined row ws) : stages ws = row := by
  induction h with
  | nil => rfl
  | pipe _ ih => rw [stages_pipe_cons, ih]
  | last hne hpipe => exact stages_of_not_mem hpipe hne
  | cons hne hpipe _ ih => rw [stages_append_pipe, stages_of_not_mem hpipe hne, ih, List.singleton_append]

/-- Any words are their stages, joined. What stands before the first pipe symbol is a stage, if anything does. -/
theorem joined_stages (ws : List String) : Joined (Pipeline.stages ws) ws := by
  by_cases hpipe : Words.pipe ∈ ws
  · obtain ⟨stage, rest, rfl, hstage⟩ := List.eq_append_cons_of_mem hpipe
    have hrest := joined_stages rest
    by_cases hne : stage = []
    · subst hne
      rw [List.nil_append, stages_pipe_cons]
      exact .pipe hrest
    · rw [stages_append_pipe, stages_of_not_mem hstage hne]
      exact .cons hne hstage hrest
  · by_cases hne : ws = []
    · subst hne
      exact .nil
    · rw [stages_of_not_mem hpipe hne]
      exact .last hne hpipe
termination_by ws.length

/-- **Cutting into stages undoes joining them.** A pipe symbol cuts words into two rows of words, each of which has
its own stages. No stage is empty or holds a pipe symbol, and together they are the words without the pipe symbols,
in order. And the stages of words are a given row exactly if the words are that row joined by pipe symbols, however
many of them there are. -/
theorem stages_iff_joined :
    (∀ xs ys : List String, stages (xs ++ [Words.pipe] ++ ys) = stages xs ++ stages ys) ∧
    (∀ ws : List String, (∀ stage ∈ stages ws, stage ≠ [] ∧ Words.pipe ∉ stage) ∧
      (stages ws).flatten = ws.filter (· ≠ Words.pipe)) ∧
    ∀ (row : List (List String)) (ws : List String), stages ws = row ↔ Joined row ws := by
  refine ⟨fun xs ys => ?_, fun ws => ⟨fun stage hstage => ?_, flatten_stages ws⟩, fun row ws => ?_⟩
  · rw [List.append_assoc, List.singleton_append, stages_append_pipe]
  · exact ⟨ne_nil_of_mem_stages hstage, pipe_not_mem_of_mem_stages hstage⟩
  · refine ⟨?_, Joined.stages⟩
    rintro rfl
    exact joined_stages ws

end Pipeline

/-! ### Operators -/

namespace Operator

/-- The words that spell an operator. -/
def spellings : Operator → List String
  | ⟨.stdout, false⟩ => [">", "1>"]
  | ⟨.stdout, true⟩ => [">>", "1>>"]
  | ⟨.stderr, false⟩ => ["2>"]
  | ⟨.stderr, true⟩ => ["2>>"]

theorem mem_spellings_of_ofWord? {w : String} {op : Operator} (h : ofWord? w = some op) :
    w ∈ op.spellings := by
  unfold ofWord? at h
  split at h <;> simp_all [spellings]
  all_goals subst h; simp

theorem ofWord?_of_mem_spellings {w : String} {op : Operator} (h : w ∈ op.spellings) :
    ofWord? w = some op := by
  obtain ⟨stream, append⟩ := op
  cases stream <;> cases append <;> simp [spellings] at h
  · rcases h with rfl | rfl <;> rfl
  · rcases h with rfl | rfl <;> rfl
  · subst h; rfl
  · subst h; rfl

theorem ofWord?_eq_some_iff {w : String} {op : Operator} :
    ofWord? w = some op ↔ w ∈ op.spellings :=
  ⟨mem_spellings_of_ofWord?, ofWord?_of_mem_spellings⟩

theorem ofWord?_eq_none_iff {w : String} : ofWord? w = none ↔ ∀ op : Operator, w ∉ op.spellings := by
  rw [Option.eq_none_iff_forall_ne_some]
  exact forall_congr' fun op => not_congr ofWord?_eq_some_iff

end Operator

/-! ### Invocations -/

namespace Invocation

/-- A word that is no operator belongs to the command. -/
theorem ofWords_cons_of_eq_none {w : String} (h : Operator.ofWord? w = none) (ws : List String) :
    ofWords (w :: ws) = (ofWords ws).withWord w := by
  cases ws with
  | nil => simp [ofWords, h, withWord]
  | cons target rest => simp [ofWords, h]

/-- An operator takes the word after it, whatever that is. -/
theorem ofWords_cons_of_eq_some {w : String} {op : Operator} (h : Operator.ofWord? w = some op)
    (target : String) (ws : List String) :
    ofWords (w :: target :: ws) = (ofWords ws).withTarget op target := by
  simp [ofWords, h]

theorem words_withTarget (op : Operator) (path : String) (i : Invocation) :
    (i.withTarget op path).words = i.words := by
  unfold withTarget
  split <;> rfl

/-- The words of a command are among the words that were read, and none of them is an operator. -/
theorem mem_words_ofWords {ws : List String} {w : String} (h : w ∈ (ofWords ws).words) :
    w ∈ ws ∧ Operator.ofWord? w = none := by
  fun_induction ofWords ws with
  | case1 => cases h
  | case2 => cases h
  | case3 v hv =>
    obtain rfl := List.mem_singleton.1 h
    exact ⟨h, by simpa using hv⟩
  | case4 v target rest op hop ih =>
    rw [words_withTarget] at h
    exact (ih h).imp_left fun hw => List.mem_cons_of_mem _ (List.mem_cons_of_mem _ hw)
  | case5 v target rest hv ih =>
    obtain rfl | h := List.mem_cons.1 h
    · exact ⟨List.mem_cons_self, hv⟩
    · exact (ih h).imp_left (List.mem_cons_of_mem _)

/-- Words of which none is an operator are a command without redirections. -/
theorem ofWords_of_eq_none {ws : List String} (h : ∀ w ∈ ws, Operator.ofWord? w = none) :
    ofWords ws = { words := ws } := by
  induction ws with
  | nil => rfl
  | cons w ws ih =>
    obtain ⟨hw, hws⟩ := List.forall_mem_cons.1 h
    rw [ofWords_cons_of_eq_none hw, ih hws, withWord]

/-! ### Readings -/

/-- A part of the words of one stage. -/
inductive Part where
  /-- A word that is no operator. -/
  | word (text : String) (not_operator : ∀ op : Operator, text ∉ op.spellings)
  /-- An operator, in one of its spellings, and the word after it, whatever that is. -/
  | redirection (op : Operator) (sign : String) (spells : sign ∈ op.spellings) (target : String)

namespace Part

/-- The words of a part. -/
def words : Part → List String
  | word text _ => [text]
  | redirection _ sign _ target => [sign, target]

/-- The word that a part gives to its command. -/
def argument? : Part → Option String
  | word text _ => some text
  | redirection .. => none

/-- The target that a part gives to a stream. -/
def target? (stream : Stream) : Part → Option Target
  | word .. => none
  | redirection op _ _ path => if op.stream = stream then some ⟨path, op.append⟩ else none

end Part

/-- A way to read the words of one stage from left to right. -/
structure Reading where
  /-- Words and operators with their targets, in order. -/
  parts : List Part
  /-- An operator with nothing after it. -/
  lone : Option { sign : String // ∃ op : Operator, sign ∈ op.spellings } := none

namespace Reading

/-- The words that are read so. -/
def words (r : Reading) : List String := r.parts.flatMap Part.words ++ (r.lone.map (·.val)).toList

/-- What the words mean: those that are no operators and no targets are the command, and the last redirection of each
stream is the one that counts. -/
def meaning (r : Reading) : Invocation where
  words := r.parts.filterMap Part.argument?
  stdout := (r.parts.filterMap (Part.target? .stdout)).getLast?
  stderr := (r.parts.filterMap (Part.target? .stderr)).getLast?

end Reading

/-- Of a target and the later ones the last one counts. -/
theorem getLast?_cons_eq_or (t : Target) (ts : List Target) : (t :: ts).getLast? = ts.getLast?.or (some t) := by
  cases h : ts.getLast? <;> simp [List.getLast?_cons, h]

/-- Words mean what a way to read them says. The induction is on the parts, from the first one on. -/
theorem ofWords_words (r : Reading) : ofWords r.words = r.meaning := by
  obtain ⟨parts, lone⟩ := r
  induction parts with
  | nil =>
    cases lone with
    | none => rfl
    | some sign =>
      obtain ⟨sign, op, hsign⟩ := sign
      simp [Reading.words, Reading.meaning, ofWords, Operator.ofWord?_of_mem_spellings hsign]
  | cons part parts ih =>
    cases part with
    | word text hop =>
      have hwords : Reading.words ⟨.word text hop :: parts, lone⟩ = text :: Reading.words ⟨parts, lone⟩ := rfl
      rw [hwords, ofWords_cons_of_eq_none (Operator.ofWord?_eq_none_iff.2 hop), ih]
      simp [Reading.meaning, Part.argument?, Part.target?, withWord]
    | redirection op sign hsign target =>
      have hwords : Reading.words ⟨.redirection op sign hsign target :: parts, lone⟩ =
          sign :: target :: Reading.words ⟨parts, lone⟩ := rfl
      rw [hwords, ofWords_cons_of_eq_some (Operator.ofWord?_of_mem_spellings hsign), ih]
      obtain ⟨stream, append⟩ := op
      cases stream <;>
        simp [Reading.meaning, List.filterMap_cons, Part.argument?, Part.target?, withTarget, getLast?_cons_eq_or]

/-- Words can be read. -/
theorem exists_reading (ws : List String) : ∃ r : Reading, r.words = ws := by
  fun_induction ofWords ws with
  | case1 => exact ⟨⟨[], none⟩, rfl⟩
  | case2 sign hsign =>
    obtain ⟨op, hop⟩ := Option.isSome_iff_exists.1 hsign
    exact ⟨⟨[], some ⟨sign, op, Operator.mem_spellings_of_ofWord? hop⟩⟩, rfl⟩
  | case3 text htext =>
    have hop := Operator.ofWord?_eq_none_iff.1 (by simpa using htext)
    exact ⟨⟨[.word text hop], none⟩, rfl⟩
  | case4 sign target rest op hop ih =>
    obtain ⟨⟨parts, lone⟩, rfl⟩ := ih
    exact ⟨⟨.redirection op sign (Operator.mem_spellings_of_ofWord? hop) target :: parts, lone⟩, rfl⟩
  | case5 text target rest htext ih =>
    obtain ⟨⟨parts, lone⟩, hwords⟩ := ih
    exact ⟨⟨.word text (Operator.ofWord?_eq_none_iff.1 htext) :: parts, lone⟩, by rw [← hwords]; rfl⟩

/-- Whether a word is an operator tells how far the part goes that begins with it. -/
theorem Part.words_append_inj {part part' : Part} {ws ws' : List String} (h : part.words ++ ws = part'.words ++ ws') :
    part = part' ∧ ws = ws' := by
  cases part with
  | word text hop =>
    cases part' with
    | word text' hop' =>
      obtain ⟨rfl, rfl⟩ : text = text' ∧ ws = ws' := by simpa [words] using h
      exact ⟨rfl, rfl⟩
    | redirection op sign hsign target =>
      obtain ⟨rfl, -⟩ : text = sign ∧ ws = target :: ws' := by simpa [words] using h
      exact absurd hsign (hop op)
  | redirection op sign hsign target =>
    cases part' with
    | word text hop =>
      obtain ⟨rfl, -⟩ : sign = text ∧ target :: ws = ws' := by simpa [words] using h
      exact absurd hsign (hop op)
    | redirection op' sign' hsign' target' =>
      obtain ⟨rfl, rfl, rfl⟩ : sign = sign' ∧ target = target' ∧ ws = ws' := by simpa [words] using h
      obtain rfl : op = op' := by
        simpa [Operator.ofWord?_of_mem_spellings hsign] using Operator.ofWord?_of_mem_spellings hsign'
      exact ⟨rfl, rfl⟩

/-- A lone operator is no part. -/
theorem Reading.words_cons_ne (part : Part) (parts : List Part)
    (lone lone' : Option { sign : String // ∃ op : Operator, sign ∈ op.spellings }) :
    words ⟨part :: parts, lone⟩ ≠ words ⟨[], lone'⟩ := by
  intro h
  cases part with
  | word text hop =>
    cases lone' with
    | none => simp [words, Part.words] at h
    | some sign =>
      obtain ⟨sign, op, hsign⟩ := sign
      obtain ⟨rfl, -⟩ : text = sign ∧ _ := by simpa [words, Part.words] using h
      exact hop op hsign
  | redirection => cases lone' <;> simp [words, Part.words] at h

/-- Words can be read in one way only. -/
theorem words_injective : Function.Injective Reading.words := by
  rintro ⟨parts, lone⟩ ⟨parts', lone'⟩ h
  induction parts generalizing parts' with
  | nil =>
    cases parts' with
    | nil =>
      have hlone : (lone.map (·.val)).toList = (lone'.map (·.val)).toList := h
      have hsign : lone.map (·.val) = lone'.map (·.val) := by simpa using congrArg List.head? hlone
      rw [Option.map_injective Subtype.val_injective hsign]
    | cons part' parts' => exact absurd h.symm (Reading.words_cons_ne part' parts' lone' lone)
  | cons part parts ih =>
    cases parts' with
    | nil => exact absurd h (Reading.words_cons_ne part parts lone lone')
    | cons part' parts' =>
      simp only [Reading.words, List.flatMap_cons, List.append_assoc] at h
      obtain ⟨rfl, hrest⟩ := Part.words_append_inj h
      obtain ⟨rfl, rfl⟩ := Reading.mk.inj (ih parts' hrest)
      rfl

/-- **There is one way to read words, and they mean what it says.** Read from left to right, the words of a stage are
words of the command and operators with their targets, and perhaps an operator at the end that has none. That is the
only way to read them, and each stream goes where its last operator with a target says. So no word of the command is
an operator, and the words of the command are a command without redirections. -/
theorem ofWords_reads (ws : List String) :
    ∃ r : Reading, (∀ r' : Reading, r'.words = ws ↔ r' = r) ∧ ofWords ws = r.meaning ∧
      (∀ w ∈ (ofWords ws).words, ∀ op : Operator, w ∉ op.spellings) ∧
      ofWords (ofWords ws).words = { words := (ofWords ws).words } := by
  obtain ⟨r, rfl⟩ := exists_reading ws
  have hnone : ∀ w ∈ (ofWords r.words).words, Operator.ofWord? w = none := fun w hw => (mem_words_ofWords hw).2
  exact ⟨r, fun r' => words_injective.eq_iff, ofWords_words r,
    fun w hw => Operator.ofWord?_eq_none_iff.1 (hnone w hw), ofWords_of_eq_none hnone⟩

-- An operator is the target of the one before it, and the last one is left without any.
example : ofWords ["a", ">", "2>", "b", "2>>", "c", ">>"] =
    { words := ["a", "b"], stdout := some ⟨"2>", false⟩, stderr := some ⟨"c", true⟩ } := by
  decide

end Invocation

end LineShell
