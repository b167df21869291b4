import LineShell.Proofs.Printing
import LineShell.Session

/-!
# Arguments between single quotes

A command whose arguments stand between single quotes gets them as they are, with one exception: a word does
not remember that it was quoted, so an argument that is a pipe symbol, or spells an operator, still acts as
one (`route_echoLine`). A part of a word never does.
-/

namespace LineShell

open Words

/-- The word is a pipe symbol or spells an operator. -/
def isSign (w : String) : Bool := w == pipe || (Operator.ofWord? w).isSome

/-- The line that runs `echo` with these arguments, each of them between single quotes. -/
def echoLine (args : List String) : String :=
  String.ofList ("echo".toList ++ args.flatMap fun arg =>
    ' ' :: singleQuote :: (arg.toList.flatMap singleQuotedChar ++ [singleQuote]))

/-! ### Reading the line -/

theorem line_singleQuoted (args : List String) :
    Line true (args.flatMap fun arg =>
      ' ' :: singleQuote :: (arg.toList.flatMap singleQuotedChar ++ [singleQuote])) args := by
  induction args with
  | nil => exact .done
  | cons arg args ih =>
    rw [List.flatMap_cons, List.cons_append]
    have hword := Line.word (Written.single arg.toList).word ih
    rw [String.ofList_toList] at hword
    exact .blank rfl hword

/-- Between single quotes every text is a single word. -/
theorem words_echoLine (args : List String) : words (echoLine args) = "echo" :: args := by
  have hecho : Word "echo".toList "echo".toList := word_bare (by decide) (by decide)
  have hline : Line false (echoLine args).toList ("echo" :: args) :=
    (String.toList_ofList (l := "echo".toList ++ _)).symm ▸ Line.word hecho (line_singleQuoted args)
  rw [words, hline.scan none rfl]
  rfl

/-! ### Signs -/

theorem isSign_eq_false_iff {w : String} : isSign w = false ↔ w ≠ pipe ∧ Operator.ofWord? w = none := by
  simp [isSign]

/-- Words are a single command without redirections just if none of them is a sign. -/
theorem stages_eq_singleton_iff {w : String} {ws : List String} (hw : isSign w = false) :
    (Pipeline.stages (w :: ws)).map Invocation.ofWords = [{ words := w :: ws }] ↔ ∀ v ∈ ws, isSign v = false := by
  constructor
  · intro h v hv
    obtain ⟨stage, hstages, hmeans⟩ := List.map_eq_singleton_iff.1 h
    have hmem : v ∈ (Invocation.ofWords stage).words := hmeans ▸ List.mem_cons_of_mem w hv
    obtain ⟨hstage, hoperator⟩ := Invocation.mem_words_ofWords hmem
    have hpipe := Pipeline.pipe_not_mem_of_mem_stages (hstages ▸ List.mem_cons_self)
    exact isSign_eq_false_iff.2 ⟨fun heq => hpipe (heq ▸ hstage), hoperator⟩
  · intro h
    have hall : ∀ v ∈ w :: ws, isSign v = false := List.forall_mem_cons.2 ⟨hw, h⟩
    have hpipe : pipe ∉ w :: ws := fun hmem => (isSign_eq_false_iff.1 (hall _ hmem)).1 rfl
    rw [Pipeline.stages_of_not_mem hpipe (List.cons_ne_nil w ws), List.map_singleton,
      Invocation.ofWords_of_eq_none fun v hv => (isSign_eq_false_iff.1 (hall v hv)).2]

namespace Shell

/-! ### Running the line -/

/-- Run a command by name on the streams of the shell, as all there is on a line. -/
def runAlone (shell : Shell) (line name : String) (args : List String) : Run Int := do
  match ← shell.dispatch name args shell.streams with
  | .returned status =>
    flush shell.streams
    return status
  | .faulted =>
    World.note .error .interpreter s!"panic while running {Text.quote line}"
    World.say shell.streams.stderr "minishell: internal error\n"
    return Status.failure

theorem route_of_stages {shell : Shell} {line name : String} {args : List String}
    (h : (Pipeline.stages (words line)).map Invocation.ofWords = [{ words := name :: args }]) :
    shell.route line = shell.runAlone line name args := by
  obtain ⟨stage, hstages, hmeans⟩ := List.map_eq_singleton_iff.1 h
  funext world
  rw [route, hstages, runStages, runSingle, hmeans, runAlone]
  have happly : Redirection.apply { words := name :: args } shell.streams world = (.ok (shell.streams, {}), world) :=
    rfl
  simp only [bind, StateT.bind, happly]
  cases shell.dispatch name args shell.streams world with | mk conclusion after
  cases conclusion <;> rfl

/-- **Quoted arguments reach the command.** Arguments of which none is a pipe symbol or spells an operator are
just those that `echo` gets from a line on which they stand between single quotes; the line is then nothing
but this command, without redirections. Parts of arguments are of no account. -/
theorem route_echoLine (shell : Shell) (args : List String) :
    ((Pipeline.stages (words (echoLine args))).map Invocation.ofWords = [{ words := "echo" :: args }] ↔
        ∀ arg ∈ args, isSign arg = false) ∧
      ((∀ arg ∈ args, isSign arg = false) →
        shell.route (echoLine args) = shell.runAlone (echoLine args) "echo" args) := by
  have hiff := @stages_eq_singleton_iff "echo" args (show isSign "echo" = false by decide)
  refine ⟨by rwa [words_echoLine], fun h => route_of_stages ?_⟩
  rw [words_echoLine]
  exact hiff.2 h

/-- A shell with memory for what it writes. -/
def inMemory : Shell := { streams := { stdin := 0, stdout := 0, stderr := 1 } }

/-- A world with two streams in memory. -/
def memoryWorld : World := { sinks := #[.memory [] none, .memory [] none] }

/-- Arguments that hold signs, but are none. -/
theorem route_echoLine_mixed :
    (∀ arg ∈ ["a|b", "", "it's", " >"], isSign arg = false) ∧
      inMemory.route "echo 'a|b' '' 'it'\\''s' ' >'" =
        inMemory.runAlone "echo 'a|b' '' 'it'\\''s' ' >'" "echo" ["a|b", "", "it's", " >"] ∧
      (inMemory.route "echo 'a|b' '' 'it'\\''s' ' >'" memoryWorld).2.collected 0 =
        Text.encode "a|b  it's  >\n" := by
  have hsigns : ∀ arg ∈ ["a|b", "", "it's", " >"], isSign arg = false := by decide
  have hline : echoLine ["a|b", "", "it's", " >"] = "echo 'a|b' '' 'it'\\''s' ' >'" := by decide +kernel
  have hroute := (route_echoLine inMemory _).2 hsigns
  rw [hline] at hroute
  exact ⟨hsigns, hroute, by decide +kernel⟩

/-- A quoted pipe symbol ends the command, and a quoted operator takes the next argument as its target. -/
theorem route_echoLine_signs :
    echoLine ["|", "x"] = "echo '|' 'x'" ∧ echoLine [">", "x"] = "echo '>' 'x'" ∧
      (Pipeline.stages (words "echo '|' 'x'")).map Invocation.ofWords = [{ words := ["echo"] }, { words := ["x"] }] ∧
      (Pipeline.stages (words "echo '>' 'x'")).map Invocation.ofWords =
        [{ words := ["echo"], stdout := some { path := "x" } }] ∧
      (inMemory.route "echo '>' 'x'" memoryWorld).2.collected 0 = [] ∧
      (inMemory.runAlone "echo '>' 'x'" "echo" [">", "x"] memoryWorld).2.collected 0 = Text.encode "> x\n" := by
  decide +kernel

end Shell

end LineShell
