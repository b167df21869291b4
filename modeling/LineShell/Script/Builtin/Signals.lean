import LineShell.Script.Builtin.Options

/-!
# Signals

What a process does when a signal comes, and the built-in commands that say so and send signals.
-/

namespace LineShell.Script

/-- The signal that a number names. -/
def signalOfNumber? (text : Chars) : Option Signal :=
  if text.isEmpty || ! text.all Char.isDigit then none
  else (number? 10 false text).bind fun n => if n < signalCount then some n.toNat else none

/-- The signal that a text names, by its number or its name, counted from a first one. -/
def signal? (first : Nat) (text : Chars) : Option Signal :=
  let name := String.ofList (text.map Char.toUpper)
  (signalOfNumber? text).or
    (((List.range signalCount).drop first).find? fun n => signalName n == name)

/-- The traps in the order of their signals. -/
def sortedTraps (traps : List (Signal × Chars)) : List (Signal × Chars) :=
  traps.mergeSort fun a b => a.1 ≤ b.1

/-- Say what is done at a signal. -/
def setTrap (signal : Signal) (action : Option Chars) : Eval Unit :=
  modifyProcess fun p =>
    let others := p.traps.filter (·.1 ≠ signal)
    { p with traps := match action with
        | some text => (signal, text) :: others
        | none => others }

/-- Say what is done at several signals, up to the first that is none. -/
def setTraps (action : Option Chars) : List Chars → Eval Nat
  | [] => return 0
  | name :: names => do
    match signal? 0 name with
    | none =>
      complain ("trap: ".toList ++ name ++ ": bad trap\n".toList)
      return 1
    | some signal =>
      setTrap signal action
      setTraps action names

/-- Show or say what is done at signals. -/
def trapCommand : Action := fun args => do
  match ← withoutOptions args with
  | [] =>
    (sortedTraps (← process).traps).forM fun (signal, action) =>
      sayLine ("trap -- ".toList ++ singleQuoted action ++ ' ' :: (signalName signal).toList)
    return 0
  | first :: rest =>
    if rest.isEmpty || (signalOfNumber? first).isSome then setTraps none (first :: rest)
    else setTraps (if first == ['-'] then none else some first) rest

/-! ### Sending signals -/

/-- Let a signal come to the running process. -/
def receive (signal : Signal) : Eval Unit := do
  match (← process).reception signal with
  | .ignored => pure ()
  | .noted => modifyProcess (·.noting signal)
  | .fatal => throw (.ended (.killed signal))

/-- Send a signal to a process; tells whether there is one of that number. -/
def send (pid : Nat) (signal : Signal) : Eval Bool := do
  if pid = (← process).pid then
    receive signal
    return true
  else modifyGet fun m => m.send pid signal

/-- Take note of how a process of a job has ended. -/
def endJob (pid : Nat) (ending : Ending) : Eval Unit :=
  modifyProcess fun p => { p with jobs := p.jobs.map (·.note pid ending) }

/-- How the command that sends signals is used. -/
def killUsage : Chars :=
  "Usage: kill [-s sigspec | -signum | -sigspec] [pid | job]... or\nkill -l [exitstatus]".toList

/-- The job that a text names, by its place or its turn. -/
def jobOf (text : Chars) : Eval Job := do
  let jobs := (← process).jobs
  let found (job : Option Job) (missing : Chars) : Eval Job :=
    match job with
    | some job => return job
    | none => fault missing
  match text with
  | [] | ['%'] | ['%', '%'] | ['%', '+'] => found jobs.head? "No current job".toList
  | ['%', '-'] => found jobs.tail.head? "No previous job".toList
  | ['%', '?'] =>
    match jobs with
    | [job] => return job
    | [] => fault ("No such job: ".toList ++ text)
    | _ => fault (text ++ ": ambiguous".toList)
  | '%' :: digits =>
    let number := if digits.all Char.isDigit then number? 10 false digits else none
    found (number.bind fun n => jobs.find? (·.number == n.toNat)) ("No such job: ".toList ++ text)
  | _ => fault ("No such job: ".toList ++ text)

/-- Show the names of signals. -/
def listSignals : List Chars → Eval Nat
  | [] => do
    sayLine ['0']
    ((List.range signalCount).drop 1).forM fun n => sayLine (signalName n).toList
    return 0
  | text :: _ => do
    let n ← countOf text
    let signal := if 128 < n then n - 128 else n
    if 0 < signal && signal < signalCount then
      sayLine (signalName signal).toList
      return 0
    else fault ("invalid signal number or exit status: ".toList ++ text)

/-- Send a signal to processes. There are no groups of processes that a signal could be sent to, and
without job control a job is no such group. -/
def sendAll (signal : Signal) : List Chars → Nat → Eval Nat
  | [], status => return status
  | target :: targets, status => do
    let found ← match target with
      | '%' :: _ => do
        discard <| jobOf target
        pure false
      | '-' :: group => do
        discard <| countOf group
        pure false
      | _ => send (← countOf target) signal
    Eval.pause 1
    if found then sendAll signal targets status
    else
      warn "No such process\n".toList
      sendAll signal targets 1

/-- Send signals, or show their names. -/
def killCommand : Action := fun args => do
  let (signal, lists, targets) ← match args with
    | ('-' :: name) :: rest =>
      match signal? 1 name with
      | some signal => pure (some signal, false, rest)
      | none => do
        let (options, targets) ← takeOptions ['l'] ['s'] args
        let named ← match (options.filter (·.1 == 's')).getLast? with
          | none => pure none
          | some (_, name) =>
            match signal? 1 name with
            | some signal => pure (some signal)
            | none => fault ("invalid signal number or name: ".toList ++ name)
        pure (named, options.any (·.1 == 'l'), targets)
    | args => pure (none, false, args)
  if args.isEmpty || (! lists && targets.isEmpty) || (lists && signal.isSome) then fault killUsage
  else if lists then listSignals targets
  else sendAll (signal.getD 15) targets 0

end LineShell.Script
