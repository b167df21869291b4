/-!
# Command arguments

How a command takes its arguments: options with a value, and operands. One `Grammar` describes both
what is accepted and the help text.

## The model

Arguments are read from left to right. Up to `--` an argument that starts with a hyphen is an option
and takes the next argument as its value, whatever that is; a request for help is noted and answered
when all arguments have been read. Everything else is an operand.
-/

namespace LineShell

/-- An option that takes a value. -/
structure OptionSpec where
  /-- The name without hyphens. -/
  name : String
  /-- A name of one letter, without its hyphen. -/
  short : Option String := none
  /-- What the option is for. -/
  about : String
  /-- Why a value is refused, if it is. -/
  refuses : String → Option String := fun _ => none

/-- An operand. -/
structure OperandSpec where
  /-- What the operand is called. -/
  name : String
  /-- What the operand is for. -/
  about : String
  /-- Why a value is refused, if it is. -/
  refuses : String → Option String := fun _ => none

/-- The operands that a command takes. -/
inductive Operands where
  /-- None. -/
  | none
  /-- One, which may be left out. -/
  | optional (operand : OperandSpec)
  /-- Any number of them; the first one ends the options. -/
  | many (name : String)

/-- How a command takes its arguments. -/
structure Grammar where
  /-- The command. -/
  command : String
  /-- What the command does. -/
  about : String
  /-- Its options. -/
  options : List OptionSpec := []
  /-- Its operands. -/
  operands : Operands := .none

/-- What is wrong with arguments. -/
inductive ArgumentError where
  /-- An option stands after a request for help. -/
  | afterHelp
  /-- There is no such option, or no room for an operand. -/
  | unrecognized (arg : String)
  /-- The option is the last argument. -/
  | noValue (arg : String)
  /-- The option's value is refused. -/
  | badOption (arg value reason : String)
  /-- The operand is refused. -/
  | badOperand (name value reason : String)
  deriving DecidableEq, Repr

/-- An error in words. -/
def ArgumentError.message : ArgumentError → String
  | .afterHelp => "Trailing arguments are not allowed after \x60help\x60."
  | .unrecognized arg => s!"Unrecognized argument: {arg}\n"
  | .noValue arg => s!"No value provided for option '{arg}'.\n"
  | .badOption arg value reason =>
    s!"Error parsing option '{arg}' with value '{value}': {reason}\n"
  | .badOperand name value reason =>
    s!"Error parsing positional argument '{name}' with value '{value}': {reason}\n"

/-- Arguments that were read. -/
structure Arguments where
  /-- The options that were given, by name, with their values. -/
  values : List (String × String) := []
  /-- The operands. -/
  operands : List String := []
  deriving DecidableEq, Repr

/-- The value given for an option. -/
def Arguments.value? (args : Arguments) (name : String) : Option String := args.values.lookup name

/-- Why a command is not run: it was asked for help, or its arguments are wrong. -/
inductive EarlyExit where
  /-- Help was asked for; this is the help text. -/
  | help (text : String)
  /-- The arguments are wrong. -/
  | wrong (error : ArgumentError)
  deriving DecidableEq, Repr

/-! ### Help texts -/

namespace Usage

/-- The column at which descriptions start. -/
def margin : Nat := 20

/-- The greatest number of columns of a line. -/
def columns : Nat := 80

/-- The text, filled up with spaces to the margin. -/
def padded (s : String) : String := s.pushn ' ' (margin - s.length)

/-- Fill lines with words, starting from the line given. -/
def fill : String → List String → List String
  | line, [] => [line]
  | line, w :: ws =>
    if line.length + w.length + 1 > columns then line :: fill (padded "" ++ w) ws
    else fill (line ++ " " ++ w) ws

/-- An entry of a help text: names on the left, their description on the right, in as many lines as
it takes. -/
def entry (names about : String) : String :=
  match about.splitOn " " with
  | [] => "  " ++ names ++ "\n"
  | w :: ws => String.join ((fill (padded ("  " ++ names) ++ w) ws).map (· ++ "\n"))

end Usage

namespace OptionSpec

/-- The option as it is given. -/
def long (o : OptionSpec) : String := "--" ++ o.name

/-- The option's shortest form. -/
def shortest (o : OptionSpec) : String := (o.short.map ("-" ++ ·)).getD o.long

/-- The option in the line that shows a command's form. -/
def synopsis (o : OptionSpec) : String := s!" [{o.shortest} <{o.name}>]"

/-- The option in a help text. -/
def entry (o : OptionSpec) : String :=
  Usage.entry ((o.short.map fun s => "-" ++ s ++ ", ").getD "" ++ o.long) o.about

end OptionSpec

namespace Grammar

/-- The operands in the line that shows a command's form. -/
def operandSynopsis (g : Grammar) : String :=
  match g.operands with
  | .none => ""
  | .optional operand => s!" [--] [<{operand.name}>]"
  | .many name => s!" [{name}...]"

/-- The operands in a help text. -/
def operandEntries (g : Grammar) : String :=
  match g.operands with
  | .optional operand =>
    "Positional Arguments:\n" ++ Usage.entry operand.name operand.about ++ "\n"
  | _ => ""

/-- The help text. -/
def help (g : Grammar) : String :=
  "Usage: " ++ g.command ++ String.join (g.options.map OptionSpec.synopsis) ++ g.operandSynopsis ++
    "\n\n" ++ g.about ++ "\n\n" ++ g.operandEntries ++ "Options:\n" ++
    String.join (g.options.map OptionSpec.entry) ++
    Usage.entry "--help, help" "display usage information"

/-! ### Reading arguments -/

/-- The option that an argument names. -/
def option? (g : Grammar) (arg : String) : Option OptionSpec :=
  g.options.find? fun o => o.long == arg || o.short.any fun s => "-" ++ s == arg

/-- The arguments with an option's value added. -/
def addValue (arg value : String) (o : OptionSpec) (args : Arguments) :
    Except ArgumentError Arguments :=
  if (args.value? o.name).isSome then .error (.badOption arg value "duplicate values provided")
  else match o.refuses value with
    | some reason => .error (.badOption arg value reason)
    | none => .ok { args with values := args.values ++ [(o.name, value)] }

/-- The arguments with an operand added, and whether it ends the options. -/
def addOperand (g : Grammar) (arg : String) (args : Arguments) :
    Except ArgumentError (Arguments × Bool) :=
  let added := { args with operands := args.operands ++ [arg] }
  match g.operands with
  | .none => .error (.unrecognized arg)
  | .many _ => .ok (added, true)
  | .optional operand =>
    if args.operands ≠ [] then .error (.unrecognized arg)
    else match operand.refuses arg with
      | some reason => .error (.badOperand operand.name arg reason)
      | none => .ok (added, false)

/-- Whether an argument asks for help. -/
def asksHelp (arg : String) : Bool := arg == "--help" || arg == "help"

/-- Whether an argument has the form of an option. -/
def isOption (arg : String) : Bool := arg.toList.head? == some '-'

/-- Read the rest of the arguments. `help` tells that help was asked for, `ended` that the options
have ended. -/
def readFrom (g : Grammar) : Bool → Bool → Arguments → List String → Except EarlyExit Arguments
  | help, _, args, [] => if help then .error (.help g.help) else .ok args
  | help, ended, args, arg :: rest =>
    if ! ended && asksHelp arg then readFrom g true ended args rest
    else if ! ended && arg == "--" then readFrom g help true args rest
    else if ! ended && isOption arg then
      if help then .error (.wrong .afterHelp)
      else match g.option? arg, rest with
        | none, _ => .error (.wrong (.unrecognized arg))
        | some _, [] => .error (.wrong (.noValue arg))
        | some o, value :: rest =>
          match addValue arg value o args with
          | .error e => .error (.wrong e)
          | .ok args => readFrom g help ended args rest
    else match addOperand g arg args with
      | .error e => .error (.wrong e)
      | .ok (args, ends) => readFrom g help (ended || ends) args rest

/-- Read a command's arguments. -/
def read (g : Grammar) (args : List String) : Except EarlyExit Arguments :=
  readFrom g false false {} args

end Grammar

end LineShell
