import SourceBundle.Command
import SourceBundle.Environment
import SourceBundle.FileSystem
import SourceBundle.Text.Lines

/-! # Compilations — running a command and keeping what it says

    The outside of the program is a `Launcher`: given a host and the words of a
    command it refuses to start a child process, or tells how the child ended, what
    it wrote and which file system it left.  `compile` runs a command with a
    launcher and keeps its exit code and its output, the lines of standard output
    before those of standard error. -/

namespace SourceBundle

/-- What a process sees: the file system and its variables. -/
structure Host where
  files : FileSystem
  environment : Environment
  deriving DecidableEq, Repr

/-- A host as a user works on it: the system has a directory for their configuration files. -/
structure Session extends Host where
  configDir : Option Path
  deriving DecidableEq, Repr

/-- How a child process ended. -/
inductive Exit where
  | code (n : Nat)
  | signal (n : Nat)
  deriving DecidableEq, Repr

/-- A child process that ran to its end. -/
structure Child where
  exit : Exit
  stdout : Bytes
  stderr : Bytes
  /-- The file system it left behind. -/
  files : FileSystem

/-- What starting the words of a command on a host comes to. -/
abbrev Launcher := Host → List Bytes → Except OsError Child

/-- What is kept of a run of the compiler. -/
structure Compilation where
  /-- Nothing if a signal ended the compiler or it was never started. -/
  exitCode : Option Int
  output : List String
  deriving DecidableEq, Repr

namespace Compilation

/-- Only exit code 0 is success. -/
def succeeded (c : Compilation) : Bool := c.exitCode = some 0

/-- The compilation a finished child amounts to. -/
def ofChild (child : Child) : Compilation :=
  { exitCode :=
      match child.exit with
      | .code n => some n
      | .signal _ => none,
    output := lines (Utf8.decodeLossy child.stdout) ++ lines (Utf8.decodeLossy child.stderr) }

/-- The compilation of a program that could not be started: its only line says why. -/
def notLaunched (program : String) (cause : OsError) : Compilation :=
  { exitCode := none,
    output := ["failed to launch `" ++ program ++ "`: " ++ cause.message] }

end Compilation

/-- Start a command. A word with a NUL cannot be passed on, so such a command never starts. -/
def start (launch : Launcher) (host : Host) (c : Command) : Except OsError Child :=
  let words := c.tokens.map Utf8.encode
  if words.any fun word => word.contains 0 then .error .nulInArgument else launch host words

/-- Run a command to its end: what is kept of it, and the file system afterwards. -/
def compile (launch : Launcher) (host : Host) (c : Command) : Compilation × FileSystem :=
  match start launch host c with
  | .ok child => (.ofChild child, child.files)
  | .error cause => (.notLaunched c.program cause, host.files)

end SourceBundle
