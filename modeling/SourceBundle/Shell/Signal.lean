import SourceBundle.Compilation
import SourceBundle.Shell.Text

/-! # Signals — their names and what they do

    A signal is known by its number and its name; number 0 stands for the end of the
    shell.  Most signals end a process that does nothing about them. -/

namespace SourceBundle

namespace Shell.Signal

/-- The names of the signals, by their numbers. -/
def names : List String :=
  ["EXIT", "HUP", "INT", "QUIT", "ILL", "TRAP", "ABRT", "BUS", "FPE", "KILL", "USR1", "SEGV",
    "USR2", "PIPE", "ALRM", "TERM", "16", "CHLD", "CONT", "STOP", "TSTP", "TTIN", "TTOU", "URG",
    "XCPU", "XFSZ", "VTALRM", "PROF", "WINCH", "IO", "PWR", "SYS", "32", "33", "RTMIN"]
    ++ (List.range 15).map (fun i => "RTMIN+" ++ toString (i + 1))
    ++ (List.range 14).map (fun i => "RTMAX-" ++ toString (14 - i))
    ++ ["RTMAX"]

/-- The name of a signal. -/
def name (n : Nat) : Text := text (names.getD n "")

/-- The signal a text names, by its number or its name in letters of either case. -/
def ofText? (s : Text) : Option Nat :=
  if s ≠ [] ∧ s.all Char.isDigit then
    let n := ofDigits 10 s
    if n < names.length then some n else none
  else names.findIdx? fun name => text name = s.map Char.toUpper

/-- Why a process says it ended that a signal ended. -/
def descriptions : List (Nat × String) :=
  [(1, "Hangup"), (2, "Interrupt"), (3, "Quit"), (4, "Illegal instruction"),
    (5, "Trace/breakpoint trap"), (6, "Aborted"), (7, "Bus error"),
    (8, "Floating point exception"), (9, "Killed"), (10, "User defined signal 1"),
    (11, "Segmentation fault"), (12, "User defined signal 2"), (13, "Broken pipe"),
    (14, "Alarm clock"), (15, "Terminated"), (16, "Stack fault"),
    (24, "CPU time limit exceeded"), (25, "File size limit exceeded"),
    (26, "Virtual timer expired"), (27, "Profiling timer expired"), (29, "I/O possible"),
    (30, "Power failure"), (31, "Bad system call")]

/-- The signals that a process does not notice unless it asks for them. -/
def unnoticed : List Nat := [0, 17, 18, 23, 28]

/-- The signal to a process that makes a file larger than it may. -/
def fileTooLarge : Nat := 25

/-- The signals that no process can do anything about. -/
def unstoppable : List Nat := [9, 19]

end Shell.Signal

/-- The exit code that a shell knows the end of a process by. -/
def Exit.status : Exit → Nat
  | .code n => n
  | .signal n => n + 128

/-- What a shell says about a process that a signal ended; nothing about an interrupt or a broken
    pipe. -/
def Exit.notice : Exit → List Char
  | .code _ => []
  | .signal n =>
      if n = 2 ∨ n = 13 then []
      else
        let why := (Shell.Signal.descriptions.lookup n).getD ("Unknown signal " ++ toString n)
        why.toList ++ ['\n']

end SourceBundle
