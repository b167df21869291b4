import LineShell.Script.Chars

/-!
# Signals

The numbers, names and titles of signals, and what they do to a process that says nothing about them.
-/

namespace LineShell.Script

/-- A signal, by its number. -/
abbrev Signal := Nat

/-- The names of the signals, in the order of their numbers. -/
def signalNames : List String :=
  ["EXIT", "HUP", "INT", "QUIT", "ILL", "TRAP", "ABRT", "BUS", "FPE", "KILL", "USR1", "SEGV", "USR2",
    "PIPE", "ALRM", "TERM", "16", "CHLD", "CONT", "STOP", "TSTP", "TTIN", "TTOU", "URG", "XCPU",
    "XFSZ", "VTALRM", "PROF", "WINCH", "IO", "PWR", "SYS"]

/-- The number after the last signal. -/
def signalCount : Nat := 65

/-- The name of a signal. Those without one are named after the first or the last of them. -/
def signalName (signal : Signal) : String :=
  match signalNames[signal]? with
  | some name => name
  | none =>
    if signal = 34 then "RTMIN"
    else if signal = 64 then "RTMAX"
    else if 34 < signal && signal ≤ 49 then "RTMIN+" ++ toString (signal - 34)
    else if 49 < signal && signal < 64 then "RTMAX-" ++ toString (64 - signal)
    else toString signal

/-- The signal that ends a process whatever it says. -/
def killSignal : Signal := 9

/-- The signal that comes to a process that writes to a pipe that nobody reads. -/
def pipeSignal : Signal := 13

/-- The signal that comes to a process when one that it has started ends. -/
def childSignal : Signal := 17

/-- The signals that do nothing to a process unless it asks for them. -/
def harmless : List Signal := [17, 18, 23, 28]

/-- The signals that stop a process until it is told to go on. -/
def stopping : List Signal := [19, 20, 21, 22]

/-- What a signal is called when it has killed a process. -/
def signalTitle (signal : Signal) : String :=
  match signal with
  | 1 => "Hangup"
  | 2 => "Interrupt"
  | 3 => "Quit"
  | 4 => "Illegal instruction"
  | 5 => "Trace/breakpoint trap"
  | 6 => "Aborted"
  | 7 => "Bus error"
  | 8 => "Floating point exception"
  | 9 => "Killed"
  | 10 => "User defined signal 1"
  | 11 => "Segmentation fault"
  | 12 => "User defined signal 2"
  | 13 => "Broken pipe"
  | 14 => "Alarm clock"
  | 15 => "Terminated"
  | 16 => "Stack fault"
  | 24 => "CPU time limit exceeded"
  | 25 => "File size limit exceeded"
  | 26 => "Virtual timer expired"
  | 27 => "Profiling timer expired"
  | 29 => "I/O possible"
  | 30 => "Power failure"
  | 31 => "Bad system call"
  | n => if 34 ≤ n && n ≤ 64 then "Real-time signal " ++ toString (n - 34)
    else "Unknown signal " ++ toString n

end LineShell.Script
