import LineShell.Proofs.LineGrammar
import LineShell.Proofs.Stages

/-!
# Printing command lines

Commands written out as a line of text, and the theorem that reading the line gives the commands back
(`ofWords_stages_words_of_printed`).

## The model

A command is a row of `Element`s: words, and redirections with their targets. A pipe symbol cannot be
written as a word or a target, since a word does not remember that it was quoted, and for the same
reason an operator cannot be written as a word. A text is written in any of three styles (`Written`),
each time chosen afresh; operators are written bare; there are blanks between elements, as many as one
likes but at least one, and pipe symbols between commands, with blanks around them or without.
-/

namespace LineShell

open Words

/-- A part of a command. -/
inductive Element where
  /-- The name of the command, or an argument. -/
  | word (text : String) (ne_pipe : text ≠ pipe) (not_operator : ∀ op : Operator, text ∉ op.spellings)
  /-- An operator, in one of its spellings, and the file that it sends a stream to. -/
  | redirection (op : Operator) (sign : String) (spells : sign ∈ op.spellings) (target : String)
      (ne_pipe : target ≠ pipe)

namespace Element

/-- The words of an element. -/
def words : Element → List String
  | word text .. => [text]
  | redirection _ sign _ target _ => [sign, target]

/-- The word that an element gives to its command. -/
def argument? : Element → Option String
  | word text .. => some text
  | redirection .. => none

/-- The target that an element gives to a stream. -/
def target? (stream : Stream) : Element → Option Target
  | word .. => none
  | redirection op _ _ path _ => if op.stream = stream then some ⟨path, op.append⟩ else none

/-- What a row of elements means: its words are the command, and the last redirection of each stream
is the one that counts. -/
def meaning (es : List Element) : Invocation where
  words := es.filterMap argument?
  stdout := (es.filterMap (target? .stdout)).getLast?
  stderr := (es.filterMap (target? .stderr)).getLast?

end Element

/-! ### Writing -/

/-- A character between single quotes. The quotes are interrupted for a quote. -/
def singleQuotedChar (c : Char) : List Char :=
  if c = singleQuote then [singleQuote, backslash, singleQuote, singleQuote] else [c]

/-- A character between double quotes. -/
def doubleQuotedChar (c : Char) : List Char := if isSpecial c then [backslash, c] else [c]

/-- `Written text src`: the text is written as `src`. -/
inductive Written : List Char → List Char → Prop where
  /-- Between single quotes. -/
  | single (text : List Char) :
      Written text (singleQuote :: (text.flatMap singleQuotedChar ++ [singleQuote]))
  /-- Between double quotes. -/
  | double (text : List Char) :
      Written text (doubleQuote :: (text.flatMap doubleQuotedChar ++ [doubleQuote]))
  /-- With a backslash before each character, of which there must be some. -/
  | escaped {text : List Char} : text ≠ [] → Written text (text.flatMap fun c => [backslash, c])

/-- A run of blanks, which may be empty. -/
def IsGap (gap : List Char) : Prop := ∀ c ∈ gap, Text.isBlank c = true

/-- `PrintedElement e src`: the element is printed as `src`. -/
inductive PrintedElement : Element → List Char → Prop where
  /-- A word, in any style. -/
  | word {text : String} {h₁ h₂} {src : List Char} :
      Written text.toList src → PrintedElement (.word text h₁ h₂) src
  /-- An operator, and its target in any style. -/
  | redirection {op : Operator} {sign target : String} {h₁ h₂} {gap src : List Char} :
      IsGap gap → gap ≠ [] → Written target.toList src →
        PrintedElement (.redirection op sign h₁ target h₂) (sign.toList ++ (gap ++ src))

/-- `PrintedCommand es src`: the command with elements `es` is printed as `src`. -/
inductive PrintedCommand : List Element → List Char → Prop where
  /-- A single element. -/
  | one {e : Element} {src : List Char} : PrintedElement e src → PrintedCommand [e] src
  /-- An element, blanks, and more elements. -/
  | cons {e : Element} {es : List Element} {src gap rest : List Char} :
      PrintedElement e src → IsGap gap → gap ≠ [] → PrintedCommand es rest →
        PrintedCommand (e :: es) (src ++ (gap ++ rest))

/-- `PrintedLine commands src`: the commands are printed as the line `src`. -/
inductive PrintedLine : List (List Element) → List Char → Prop where
  /-- A single command. -/
  | one {es : List Element} {src : List Char} : PrintedCommand es src → PrintedLine [es] src
  /-- A command, a pipe symbol, and more commands. -/
  | cons {es : List Element} {ess : List (List Element)} {src before after rest : List Char} :
      PrintedCommand es src → IsGap before → IsGap after → PrintedLine ess rest →
        PrintedLine (es :: ess) (src ++ (before ++ '|' :: (after ++ rest)))

/-! ### What is written is a word -/

/-- The text after what has been written between single quotes so far. The induction is on the text;
at a quote the fragment ends, and another begins after the escaped quote. -/
theorem word_singleQuoted {s : List Char} (hs : singleQuote ∉ s) (text : List Char) :
    Word (singleQuote :: (s ++ text.flatMap singleQuotedChar ++ [singleQuote])) (s ++ text) := by
  induction text generalizing s with
  | nil => simpa using (Fragment.single hs).word
  | cons c text ih =>
    by_cases hc : c = singleQuote
    · subst hc
      have h := Word.mk (.single hs) (.cons (.escaped singleQuote) (ih List.not_mem_nil).fragments)
      simpa [singleQuotedChar] using h
    · have hs' : singleQuote ∉ s ++ [c] := by simpa [Ne.symm hc] using hs
      simpa [singleQuotedChar, hc] using ih hs'

theorem inside_doubleQuoted (after : Option Char) (text : List Char) :
    Inside after (text.flatMap doubleQuotedChar) text := by
  induction text with
  | nil => exact .nil
  | cons c text ih =>
    rw [List.flatMap_cons, doubleQuotedChar]
    by_cases hc : isSpecial c
    · rw [if_pos hc]
      exact .escaped hc ih
    · rw [if_neg hc]
      refine .plain ?_ ?_ ih
      · rintro rfl
        exact hc isSpecial_doubleQuote
      · rintro rfl
        exact hc isSpecial_backslash

theorem fragments_escaped (text : List Char) : Fragments (text.flatMap fun c => [backslash, c]) text := by
  induction text with
  | nil => exact .nil
  | cons c text ih => exact .cons (.escaped c) ih

theorem Written.word {text src : List Char} (h : Written text src) : Word src text := by
  cases h with
  | single => exact word_singleQuoted List.not_mem_nil text
  | double => exact (Fragment.double (inside_doubleQuoted _ text)).word
  | escaped hne =>
    obtain ⟨c, cs, rfl⟩ := List.exists_cons_of_ne_nil hne
    exact .mk (.escaped c) (fragments_escaped cs)

theorem fragments_bare {s : List Char} (h : ∀ c ∈ s, IsBare c) : Fragments s s := by
  induction s with
  | nil => exact .nil
  | cons c s ih =>
    exact .cons (.bare (h c (List.mem_cons_self ..))) (ih fun d hd => h d (List.mem_cons_of_mem _ hd))

theorem word_bare {s : List Char} (hne : s ≠ []) (h : s.all (fun c => decide (IsBare c)) = true) :
    Word s s := by
  obtain ⟨c, s, rfl⟩ := List.exists_cons_of_ne_nil hne
  have hall : ∀ d ∈ c :: s, IsBare d := by simpa using h
  exact .mk (.bare (hall c (List.mem_cons_self ..)))
    (fragments_bare fun d hd => hall d (List.mem_cons_of_mem _ hd))

/-- An operator is written bare. -/
theorem word_spelling {op : Operator} {sign : String} (h : sign ∈ op.spellings) :
    Word sign.toList sign.toList := by
  obtain ⟨stream, append⟩ := op
  cases stream <;> cases append <;>
    simp only [Operator.spellings, List.mem_cons, List.not_mem_nil, or_false] at h
  · rcases h with rfl | rfl <;> exact word_bare (by decide) (by decide)
  · rcases h with rfl | rfl <;> exact word_bare (by decide) (by decide)
  · subst h
    exact word_bare (by decide) (by decide)
  · subst h
    exact word_bare (by decide) (by decide)

/-! ### What is printed is a line -/

/-- Blanks in front of a line. What comes after blanks, if there are any, is not next to a word. -/
theorem line_gap {gap rest : List Char} {ws : List String} {ended : Bool} (hgap : IsGap gap)
    (hl : Line (ended && gap.isEmpty) rest ws) : Line ended (gap ++ rest) ws := by
  induction gap generalizing ended with
  | nil => simpa using hl
  | cons c gap ih =>
    have hrest : Line (false && gap.isEmpty) rest ws := by simpa using hl
    exact .blank (hgap c (List.mem_cons_self ..)) (ih (fun d hd => hgap d (List.mem_cons_of_mem _ hd)) hrest)

theorem line_gap_of_ne_nil {gap rest : List Char} {ws : List String} (hgap : IsGap gap) (hne : gap ≠ [])
    (hl : Line false rest ws) : Line true (gap ++ rest) ws :=
  line_gap hgap (by simpa [List.isEmpty_eq_false_iff.2 hne] using hl)

theorem PrintedElement.line {e : Element} {src rest : List Char} {ws : List String}
    (h : PrintedElement e src) (hl : Line true rest ws) :
    Line false (src ++ rest) (e.words ++ ws) := by
  cases h with
  | word hw => simpa [Element.words] using Line.word hw.word hl
  | @redirection op sign target hs _ gap src hgap hne hw =>
    have htarget := Line.word hw.word hl
    have hsign := Line.word (word_spelling hs) (line_gap_of_ne_nil hgap hne htarget)
    simpa [Element.words] using hsign

theorem PrintedCommand.line {es : List Element} {src rest : List Char} {ws : List String}
    (h : PrintedCommand es src) (hl : Line true rest ws) :
    Line false (src ++ rest) (es.flatMap Element.words ++ ws) := by
  induction h with
  | one he => simpa using he.line hl
  | cons he hgap hne _ ih => simpa using he.line (line_gap_of_ne_nil hgap hne ih)

/-- The words of commands, with pipe symbols between them. -/
def lineWords (ess : List (List Element)) : List String :=
  [pipe].intercalate (ess.map fun es => es.flatMap Element.words)

theorem PrintedLine.ne_nil {ess : List (List Element)} {src : List Char} (h : PrintedLine ess src) :
    ess ≠ [] := by
  cases h <;> simp

theorem lineWords_cons (es : List Element) {ess : List (List Element)} (h : ess ≠ []) :
    lineWords (es :: ess) = es.flatMap Element.words ++ pipe :: lineWords ess := by
  obtain ⟨es', ess, rfl⟩ := List.exists_cons_of_ne_nil h
  simp [lineWords, List.intercalate_cons_cons]

theorem PrintedLine.line {ess : List (List Element)} {src : List Char} (h : PrintedLine ess src) :
    Line false src (lineWords ess) := by
  induction h with
  | one hc => simpa [lineWords] using hc.line .done
  | cons hc hbefore hafter hrest ih =>
    rw [lineWords_cons _ hrest.ne_nil]
    exact hc.line (line_gap hbefore (.pipe (line_gap hafter ih)))

/-! ### Reading the words back -/

namespace Element

theorem words_ne_nil (e : Element) : e.words ≠ [] := by
  cases e <;> simp [words]

theorem pipe_not_mem_words (e : Element) : pipe ∉ e.words := by
  cases e with
  | word text hne _ => simpa [words] using Ne.symm hne
  | redirection op sign hs target hne =>
    have hsign : pipe ≠ sign := by
      rintro rfl
      have hnone : Operator.ofWord? pipe = none := rfl
      rw [Operator.ofWord?_of_mem_spellings hs] at hnone
      cases hnone
    simpa [words] using ⟨hsign, Ne.symm hne⟩

/-- An element as a part of the words of a stage. -/
def part : Element → Invocation.Part
  | word text _ not_operator => .word text not_operator
  | redirection op sign spells target _ => .redirection op sign spells target

@[simp] theorem words_part (e : Element) : e.part.words = e.words := by
  cases e <;> rfl

@[simp] theorem argument?_part (e : Element) : e.part.argument? = e.argument? := by
  cases e <;> rfl

@[simp] theorem target?_part (stream : Stream) (e : Element) : e.part.target? stream = e.target? stream := by
  cases e <;> rfl

/-- The words of a row of elements mean what the elements mean: the elements are the way to read them. -/
theorem ofWords_flatMap_words (es : List Element) :
    Invocation.ofWords (es.flatMap words) = meaning es := by
  have hwords : (⟨es.map part, none⟩ : Invocation.Reading).words = es.flatMap words := by
    simp [Invocation.Reading.words, List.flatMap_map]
  rw [← hwords, Invocation.ofWords_words]
  simp [Invocation.Reading.meaning, meaning, List.filterMap_map]

end Element

/-- Each printed command is a stage. -/
theorem PrintedLine.stages_lineWords {ess : List (List Element)} {src : List Char}
    (h : PrintedLine ess src) :
    Pipeline.stages (lineWords ess) = ess.map fun es => es.flatMap Element.words := by
  have hstage : ∀ {es : List Element} {src : List Char}, PrintedCommand es src →
      Pipeline.stages (es.flatMap Element.words) = [es.flatMap Element.words] := by
    intro es src hc
    refine Pipeline.stages_of_not_mem ?_ ?_
    · simp only [List.mem_flatMap, not_exists, not_and]
      exact fun e _ => e.pipe_not_mem_words
    · cases hc <;> simp [Element.words_ne_nil]
  induction h with
  | one hc => simpa [lineWords] using hstage hc
  | cons hc _ _ hrest ih =>
    rw [lineWords_cons _ hrest.ne_nil, Pipeline.stages_append_pipe, hstage hc, ih]
    rfl

/-- **Printed commands are read back**: the line has one stage for each command, and each stage means
what its command does. -/
theorem ofWords_stages_words_of_printed {ess : List (List Element)} {line : String}
    (h : PrintedLine ess line.toList) :
    (Pipeline.stages (words line)).map Invocation.ofWords = ess.map Element.meaning := by
  have hwords : words line = lineWords ess := by
    simpa [LineShell.words, finish] using h.line.scan none rfl
  rw [hwords, h.stages_lineWords, List.map_map]
  exact List.map_congr_left fun es _ => Element.ofWords_flatMap_words es

/-- A line in all three styles, with a target that looks like an operator and an empty word. -/
theorem ofWords_stages_words_mixed :
    ∃ ess : List (List Element), PrintedLine ess "'it'\\''s' 2>> \">\" \\a|\t\"\"".toList ∧
      (Pipeline.stages (words "'it'\\''s' 2>> \">\" \\a|\t\"\"")).map Invocation.ofWords =
        [{ words := ["it's", "a"], stderr := some ⟨">", true⟩ }, { words := [""] }] := by
  have hits : ∀ op : Operator, "it's" ∉ op.spellings := Operator.ofWord?_eq_none_iff.1 rfl
  have ha : ∀ op : Operator, "a" ∉ op.spellings := Operator.ofWord?_eq_none_iff.1 rfl
  have hempty : ∀ op : Operator, "" ∉ op.spellings := Operator.ofWord?_eq_none_iff.1 rfl
  have hspace : IsGap [' '] := by simp [IsGap, Text.isBlank]
  have htab : IsGap ['\t'] := by simp [IsGap, Text.isBlank]
  have hfirst : PrintedElement (.word "it's" (by decide) hits) "'it'\\''s'".toList :=
    .word (.single _)
  have hsecond : PrintedElement (.redirection ⟨.stderr, true⟩ "2>>" (by decide) ">" (by decide))
      "2>> \">\"".toList :=
    .redirection hspace (by decide) (.double _)
  have hthird : PrintedElement (.word "a" (by decide) ha) "\\a".toList :=
    .word (.escaped (by decide))
  have hlast : PrintedElement (.word "" (by decide) hempty) "\"\"".toList := .word (.double _)
  have hcommand := PrintedCommand.cons hfirst hspace (by decide)
    (.cons hsecond hspace (by decide) (.one hthird))
  have hprinted : PrintedLine _ "'it'\\''s' 2>> \">\" \\a|\t\"\"".toList :=
    .cons hcommand (by simp [IsGap] : IsGap []) htab (.one (.one hlast))
  exact ⟨_, hprinted, ofWords_stages_words_of_printed hprinted⟩

end LineShell
