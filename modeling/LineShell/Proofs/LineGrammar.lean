import LineShell.Words
import Mathlib.Data.List.Basic

/-!
# The grammar of command lines

Which texts are words, and what they stand for, said without a scanner: a word is a row of
fragments, each of which is a bare character, an escaped one, or a quoted text, and a line is a row
of blanks, pipe symbols and words. The scanner of `LineShell.Words` is proved to read lines exactly
so (`words_eq_iff_line`).

## The model

Each part of the grammar is a relation between a source, which is a list of characters, and the
value it stands for. `Inside after` relates what stands between double quotes to its value, where
`after` is the character that follows: a backslash stands for itself only if none of the characters
that it could escape comes next, and the quote that closes the text is one of those. `Line` relates a
line to its words. Its first argument tells whether a word has just ended, so that no two words stand
side by side. A quote may be left open at the end of a line, and a backslash with nothing after it
may stand there.

The proof that every line can be read so goes by `UnderWay`, which says what the scanner has seen of
the word that it is in the middle of.
-/

namespace LineShell.Words

/-! ### The grammar -/

/-- A character that stands for itself outside quotes. -/
def IsBare (c : Char) : Prop :=
  Text.isBlank c = false ∧ c ≠ '|' ∧ c ≠ backslash ∧ c ≠ singleQuote ∧ c ≠ doubleQuote

instance : DecidablePred IsBare := fun _ => inferInstanceAs (Decidable (_ ∧ _))

/-- `Inside after src val`: between double quotes, and before the character `after`, the text `src`
stands for `val`. -/
inductive Inside (after : Option Char) : List Char → List Char → Prop where
  /-- Nothing stands for nothing. -/
  | nil : Inside after [] []
  /-- A backslash before a special character stands for that character. -/
  | escaped {c : Char} {src val : List Char} :
      isSpecial c = true → Inside after src val →
        Inside after (backslash :: c :: src) (c :: val)
  /-- A backslash that no special character follows stands for itself. -/
  | lone {src val : List Char} :
      (∀ c, src.head?.or after = some c → isSpecial c = false) → Inside after src val →
        Inside after (backslash :: src) (backslash :: val)
  /-- Any character but the quote and the backslash stands for itself. -/
  | plain {c : Char} {src val : List Char} :
      c ≠ doubleQuote → c ≠ backslash → Inside after src val → Inside after (c :: src) (c :: val)

/-- `Fragment src val`: the part `src` of a word stands for `val`. -/
inductive Fragment : List Char → List Char → Prop where
  /-- A bare character stands for itself. -/
  | bare {c : Char} : IsBare c → Fragment [c] [c]
  /-- A backslash and any character stand for that character. -/
  | escaped (c : Char) : Fragment [backslash, c] [c]
  /-- Text between single quotes stands for itself. -/
  | single {s : List Char} : singleQuote ∉ s → Fragment (singleQuote :: (s ++ [singleQuote])) s
  /-- Text between double quotes. -/
  | double {s v : List Char} :
      Inside (some doubleQuote) s v → Fragment (doubleQuote :: (s ++ [doubleQuote])) v

/-- A row of fragments, which may be empty. -/
inductive Fragments : List Char → List Char → Prop where
  /-- No fragment. -/
  | nil : Fragments [] []
  /-- One more fragment in front. -/
  | cons {s v src val : List Char} :
      Fragment s v → Fragments src val → Fragments (s ++ src) (v ++ val)

/-- A word: a row of fragments with at least one in it. -/
inductive Word : List Char → List Char → Prop where
  /-- A fragment and those after it. -/
  | mk {s v src val : List Char} :
      Fragment s v → Fragments src val → Word (s ++ src) (v ++ val)

/-- A quote that is open at the end of the line, with all that was collected. -/
inductive OpenQuote : List Char → List Char → Prop where
  /-- A single quote. -/
  | single {s : List Char} : singleQuote ∉ s → OpenQuote (singleQuote :: s) s
  /-- A double quote. -/
  | double {s v : List Char} : Inside none s v → OpenQuote (doubleQuote :: s) v

/-- `Line ended src ws`: the rest `src` of a line has the words `ws`, where `ended` tells whether a
word has just ended. -/
inductive Line : Bool → List Char → List String → Prop where
  /-- The end of the line. -/
  | done {ended : Bool} : Line ended [] []
  /-- A backslash at the end of the line adds nothing. -/
  | dangling {ended : Bool} : Line ended [backslash] []
  /-- A blank. -/
  | blank {ended : Bool} {c : Char} {src : List Char} {ws : List String} :
      Text.isBlank c = true → Line false src ws → Line ended (c :: src) ws
  /-- A pipe symbol, which is a word of its own. -/
  | pipe {ended : Bool} {src : List Char} {ws : List String} :
      Line false src ws → Line ended ('|' :: src) (Words.pipe :: ws)
  /-- A word. -/
  | word {s v src : List Char} {ws : List String} :
      Word s v → Line true src ws → Line false (s ++ src) (String.ofList v :: ws)
  /-- A word that ends with a quote left open. -/
  | openWord {src val s v : List Char} :
      Fragments src val → OpenQuote s v → Line false (src ++ s) [String.ofList (val ++ v)]

/-! ### Putting parts together -/

theorem Inside.append {after : Option Char} {s₁ v₁ s₂ v₂ : List Char}
    (h₁ : Inside (s₂.head?.or after) s₁ v₁) (h₂ : Inside after s₂ v₂) :
    Inside after (s₁ ++ s₂) (v₁ ++ v₂) := by
  induction h₁ with
  | nil => exact h₂
  | escaped hc _ ih => exact .escaped hc ih
  | @lone src val hc _ ih =>
    refine .lone (fun c h => hc c ?_) ih
    rw [← h, ← Option.or_assoc, ← List.head?_append]
    rfl
  | plain hq hb _ ih => exact .plain hq hb ih

theorem Fragments.append {s₁ v₁ s₂ v₂ : List Char} (h₁ : Fragments s₁ v₁) (h₂ : Fragments s₂ v₂) :
    Fragments (s₁ ++ s₂) (v₁ ++ v₂) := by
  induction h₁ with
  | nil => exact h₂
  | cons hf _ ih =>
    rw [List.append_assoc, List.append_assoc]
    exact .cons hf ih

theorem Fragment.fragments {s v : List Char} (h : Fragment s v) : Fragments s v := by
  simpa using Fragments.cons h .nil

theorem Word.fragments {s v : List Char} (h : Word s v) : Fragments s v := by
  obtain ⟨hf, hfs⟩ := h
  exact .cons hf hfs

theorem Fragment.word {s v : List Char} (h : Fragment s v) : Word s v := by
  simpa using Word.mk h .nil

/-- A row of fragments with one more at its end is a word. -/
theorem Fragments.snoc {s₁ v₁ s₂ v₂ : List Char} (h₁ : Fragments s₁ v₁) (h₂ : Fragment s₂ v₂) :
    Word (s₁ ++ s₂) (v₁ ++ v₂) := by
  cases h₁ with
  | nil => exact h₂.word
  | cons hf hfs =>
    rw [List.append_assoc, List.append_assoc]
    exact .mk hf (hfs.append h₂.fragments)

/-! ### The scanner reads what the grammar derives -/

theorem isSpecial_doubleQuote : isSpecial doubleQuote = true := by decide

theorem isSpecial_backslash : isSpecial backslash = true := by decide

/-- A backslash before something that it does not escape is taken for itself. -/
theorem scan_lone (p : Pending) {cs : List Char} (h : ∀ c, cs.head? = some c → isSpecial c = false) :
    scan .doubleEscaped p cs = scan .double (push p backslash) cs := by
  cases cs with
  | nil => simp [scan]
  | cons c cs =>
    have hc : isSpecial c = false := h c rfl
    have hq : c ≠ doubleQuote := by
      rintro rfl
      simp [isSpecial_doubleQuote] at hc
    have hb : c ≠ backslash := by
      rintro rfl
      simp [isSpecial_backslash] at hc
    simp [scan, hc, hq, hb]

/-- What stands between double quotes goes to the end of the word under way. -/
theorem Inside.scan {after : Option Char} {src val : List Char} (h : Inside after src val)
    (p rest : List Char) (hrest : rest.head? = after) :
    scan .double (some p) (src ++ rest) = scan .double (some (val.reverse ++ p)) rest := by
  induction h generalizing p with
  | nil => rfl
  | escaped hc _ ih =>
    rw [List.cons_append, List.cons_append, Words.scan, if_neg (by decide), if_pos rfl, Words.scan,
      if_pos hc, push, ih]
    simp
  | @lone src val hc _ ih =>
    have hnext : ∀ c, (src ++ rest).head? = some c → isSpecial c = false := by
      rw [List.head?_append, hrest]
      exact hc
    rw [List.cons_append, Words.scan, if_neg (by decide), if_pos rfl, scan_lone _ hnext, push, ih]
    simp
  | plain hq hb _ ih =>
    rw [List.cons_append, Words.scan, if_neg hq, if_neg hb, push, ih]
    simp

theorem scan_single {s : List Char} (h : singleQuote ∉ s) (p rest : List Char) :
    scan .single (some p) (s ++ rest) = scan .single (some (s.reverse ++ p)) rest := by
  induction s generalizing p with
  | nil => rfl
  | cons c s ih =>
    rw [List.mem_cons, not_or] at h
    rw [List.cons_append, scan, if_neg (Ne.symm h.1), push, ih h.2]
    simp

/-- A fragment goes to the end of the word under way. -/
theorem Fragment.scan {src val : List Char} (h : Fragment src val) (p : Pending) (rest : List Char) :
    scan .bare p (src ++ rest) = scan .bare (some (val.reverse ++ p.getD [])) rest := by
  cases h with
  | bare hc =>
    obtain ⟨h₁, h₂, h₃, h₄, h₅⟩ := hc
    simp [Words.scan, h₁, h₂, h₃, h₄, h₅, push]
  | escaped c =>
    have hb : Text.isBlank backslash = false := by decide
    simp [Words.scan, hb, show backslash ≠ '|' by decide, push]
  | @single s hs =>
    have hb : Text.isBlank singleQuote = false := by decide
    have hin := scan_single hs (p.getD []) (singleQuote :: rest)
    simp [Words.scan, hb, hin, show singleQuote ≠ '|' by decide,
      show singleQuote ≠ backslash by decide]
  | @double s v hs =>
    have hb : Text.isBlank doubleQuote = false := by decide
    have hin := hs.scan (p.getD []) (doubleQuote :: rest) rfl
    simp [Words.scan, hb, hin, show doubleQuote ≠ '|' by decide,
      show doubleQuote ≠ backslash by decide, show doubleQuote ≠ singleQuote by decide]

theorem Fragments.scan {src val : List Char} (h : Fragments src val) (p rest : List Char) :
    scan .bare (some p) (src ++ rest) = scan .bare (some (val.reverse ++ p)) rest := by
  induction h generalizing p with
  | nil => rfl
  | cons hf _ ih =>
    rw [List.append_assoc, hf.scan, Option.getD_some, ih]
    simp

theorem Word.scan {src val : List Char} (h : Word src val) (rest : List Char) :
    scan .bare none (src ++ rest) = scan .bare (some val.reverse) rest := by
  obtain ⟨hf, hfs⟩ := h
  rw [List.append_assoc, hf.scan, hfs.scan]
  simp

theorem OpenQuote.scan {src val : List Char} (h : OpenQuote src val) (p : Pending) :
    scan .bare p src = [String.ofList ((p.getD []).reverse ++ val)] := by
  cases h with
  | single hs =>
    have hb : Text.isBlank singleQuote = false := by decide
    have hin := scan_single hs (p.getD []) []
    rw [List.append_nil] at hin
    simp [Words.scan, hb, hin, finish, show singleQuote ≠ '|' by decide,
      show singleQuote ≠ backslash by decide]
  | double hs =>
    have hb : Text.isBlank doubleQuote = false := by decide
    have hin := hs.scan (p.getD []) [] rfl
    rw [List.append_nil] at hin
    simp [Words.scan, hb, hin, finish, show doubleQuote ≠ '|' by decide,
      show doubleQuote ≠ backslash by decide, show doubleQuote ≠ singleQuote by decide]

/-- The word under way, if there is one, comes before the words that the grammar finds. -/
theorem Line.scan {ended : Bool} {src : List Char} {ws : List String} (h : Line ended src ws)
    (p : Pending) (hp : p.isSome = ended) : scan .bare p src = finish p ++ ws := by
  induction h generalizing p with
  | done => simp [Words.scan]
  | dangling =>
    have hb : Text.isBlank backslash = false := by decide
    simp [Words.scan, hb, show backslash ≠ '|' by decide]
  | blank hc _ ih =>
    rw [Words.scan, if_pos hc, ih none rfl]
    rfl
  | pipe _ ih =>
    rw [Words.scan, if_neg (by decide), if_pos rfl, ih none rfl]
    rfl
  | word hw _ ih =>
    obtain rfl : p = none := by simpa using hp
    rw [hw.scan, ih _ rfl]
    simp [finish]
  | openWord hfs hq =>
    obtain rfl : p = none := by simpa using hp
    cases hfs with
    | nil => simp [hq.scan, finish]
    | cons hf hfs =>
      rw [(Word.mk hf hfs).scan, hq.scan]
      simp [finish]

/-! ### Every line can be read -/

/-- `UnderWay mode p src`: `src` is what the scanner has seen of a word, when it stands in mode `mode`
with the word `p` under way. -/
inductive UnderWay : Mode → Pending → List Char → Prop where
  /-- Between words. -/
  | between : UnderWay .bare none []
  /-- After a fragment of a word. -/
  | word {src val : List Char} : Word src val → UnderWay .bare (some val.reverse) src
  /-- After a backslash. -/
  | escaped {p : Pending} {src : List Char} :
      UnderWay .bare p src → UnderWay .escaped p (src ++ [backslash])
  /-- In the middle of a text in single quotes. -/
  | single {src val s : List Char} : Fragments src val → singleQuote ∉ s →
      UnderWay .single (some (val ++ s).reverse) (src ++ singleQuote :: s)
  /-- In the middle of a text in double quotes, which stands for what it does whatever follows. -/
  | double {src val s v : List Char} : Fragments src val → (∀ after, Inside after s v) →
      UnderWay .double (some (val ++ v).reverse) (src ++ doubleQuote :: s)
  /-- After a backslash in such a text. -/
  | doubleEscaped {p : Pending} {src : List Char} :
      UnderWay .double p src → UnderWay .doubleEscaped p (src ++ [backslash])

namespace UnderWay

variable {p : Pending} {src : List Char}

theorem fragments (h : UnderWay .bare p src) : Fragments src (p.getD []).reverse := by
  cases h with
  | between => exact .nil
  | word hw => simpa using hw.fragments

/-- The word under way ends before anything that can stand both after a word and elsewhere. -/
theorem line (h : UnderWay .bare p src) {rest : List Char} {ws : List String}
    (hl : ∀ ended, Line ended rest ws) : Line false (src ++ rest) (finish p ++ ws) := by
  cases h with
  | between => exact hl false
  | word hw => simpa [finish] using Line.word hw (hl true)

theorem fragment (h : UnderWay .bare p src) {s v : List Char} (hf : Fragment s v) :
    UnderWay .bare (some (v.reverse ++ p.getD [])) (src ++ s) := by
  simpa using UnderWay.word (h.fragments.snoc hf)

theorem openSingle (h : UnderWay .bare p src) :
    UnderWay .single (some (p.getD [])) (src ++ [singleQuote]) := by
  simpa using UnderWay.single h.fragments (List.not_mem_nil (a := singleQuote))

theorem openDouble (h : UnderWay .bare p src) :
    UnderWay .double (some (p.getD [])) (src ++ [doubleQuote]) := by
  simpa using UnderWay.double h.fragments fun _ => Inside.nil

theorem escape (h : UnderWay .escaped p src) (c : Char) : UnderWay .bare (push p c) (src ++ [c]) := by
  cases h with
  | escaped h => simpa [push] using h.fragment (.escaped c)

theorem pushSingle (h : UnderWay .single p src) {c : Char} (hc : c ≠ singleQuote) :
    UnderWay .single (push p c) (src ++ [c]) := by
  cases h with
  | @single _ _ s hfs hs =>
    have hs' : singleQuote ∉ s ++ [c] := by simpa [Ne.symm hc] using hs
    simpa [push] using UnderWay.single hfs hs'

theorem closeSingle (h : UnderWay .single p src) : UnderWay .bare p (src ++ [singleQuote]) := by
  cases h with
  | single hfs hs => simpa using UnderWay.word (hfs.snoc (.single hs))

/-- Text that stands for something whatever follows joins a text in double quotes. -/
theorem pushDouble (h : UnderWay .double p src) {s v : List Char} (hin : ∀ after, Inside after s v) :
    UnderWay .double (some (v.reverse ++ p.getD [])) (src ++ s) := by
  cases h with
  | double hfs hs => simpa using UnderWay.double hfs fun after => (hs _).append (hin after)

theorem closeDouble (h : UnderWay .double p src) : UnderWay .bare p (src ++ [doubleQuote]) := by
  cases h with
  | double hfs hs => simpa using UnderWay.word (hfs.snoc (.double (hs _)))

theorem endSingle (h : UnderWay .single p src) : Line false src (finish p) := by
  cases h with
  | single hfs hs => simpa [finish] using Line.openWord hfs (.single hs)

theorem endDouble (h : UnderWay .double p src) {s v : List Char} (hin : Inside none s v) :
    Line false (src ++ s) (finish (some (v.reverse ++ p.getD []))) := by
  cases h with
  | double hfs hs => simpa [finish] using Line.openWord hfs (.double ((hs _).append hin))

end UnderWay

theorem inside_lone : Inside none [backslash] [backslash] := .lone (by simp) .nil

/-- Two characters that are taken as they stand: a backslash and one that it does not escape. -/
theorem inside_unescaped {c : Char} (hc : isSpecial c = false) (after : Option Char) :
    Inside after [backslash, c] [backslash, c] := by
  have hq : c ≠ doubleQuote := by
    rintro rfl
    simp [isSpecial_doubleQuote] at hc
  have hb : c ≠ backslash := by
    rintro rfl
    simp [isSpecial_backslash] at hc
  exact .lone (by simpa using hc) (.plain hq hb .nil)

/-- Whatever the scanner has seen of a word, the grammar gives the words that the scanner finds. The
induction is on the rest of the line: each character takes `UnderWay` to the scanner's next state. -/
theorem UnderWay.line_scan {mode : Mode} {p : Pending} {src : List Char} (h : UnderWay mode p src)
    (cs : List Char) : Line false (src ++ cs) (scan mode p cs) := by
  induction cs generalizing mode p src with
  | nil =>
    rw [List.append_nil]
    cases mode with
    | bare => simpa [scan] using h.line fun _ => .done
    | escaped =>
      cases h with
      | escaped h => simpa [scan] using h.line fun _ => .dangling
    | single => simpa [scan] using h.endSingle
    | double =>
      cases h with
      | double hfs hs => simpa [scan] using (UnderWay.double hfs hs).endDouble .nil
    | doubleEscaped =>
      cases h with
      | doubleEscaped h => simpa [scan, push] using h.endDouble inside_lone
  | cons c cs ih =>
    cases mode with
    | bare =>
      rw [scan]
      split_ifs with hblank hpipe hback hsingle hdouble
      · exact h.line fun _ => .blank hblank (ih .between)
      · subst hpipe
        exact h.line fun _ => .pipe (ih .between)
      · subst hback
        simpa using ih (.escaped h)
      · subst hsingle
        simpa using ih h.openSingle
      · subst hdouble
        simpa using ih h.openDouble
      · have hbare : IsBare c := ⟨by simpa using hblank, hpipe, hback, hsingle, hdouble⟩
        simpa [push] using ih (h.fragment (.bare hbare))
    | escaped =>
      rw [scan]
      simpa using ih (h.escape c)
    | single =>
      rw [scan]
      split_ifs with hc
      · subst hc
        simpa using ih h.closeSingle
      · simpa using ih (h.pushSingle hc)
    | double =>
      rw [scan]
      split_ifs with hq hb
      · subst hq
        simpa using ih h.closeDouble
      · subst hb
        simpa using ih (.doubleEscaped h)
      · simpa [push] using ih (h.pushDouble fun _ => .plain hq hb .nil)
    | doubleEscaped =>
      rw [scan]
      cases h with
      | doubleEscaped h =>
        split_ifs with hc
        · simpa [push] using ih (h.pushDouble fun _ => .escaped hc .nil)
        · simpa [push] using ih (h.pushDouble (inside_unescaped (by simpa using hc)))

/-- **The words of a line are those that its grammar gives**: every way to read a line gives the words
that the scanner finds, and there is such a way for every line. -/
theorem words_eq_iff_line (line : String) (ws : List String) :
    words line = ws ↔ Line false line.toList ws := by
  constructor
  · rintro rfl
    simpa [words] using UnderWay.between.line_scan line.toList
  · intro h
    simpa [words, finish] using h.scan none rfl

end LineShell.Words
