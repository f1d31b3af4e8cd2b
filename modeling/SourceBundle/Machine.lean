import SourceBundle.Shell.Run

/-! # A small machine — running the words of a command

    The words of a command are started as a process of their own: its first stream
    has nothing to read, and what it writes to the other two is kept.  The process
    may change files, but where it goes is its own affair. -/

namespace SourceBundle

namespace Machine

/-- The numbers that processes get begin after this one. -/
def firstProcess : Nat := 1000

/-- A process at its start on a host: nothing has run yet, and three streams are open. -/
def freshProcess (launch : Launcher) (host : Host) : Shell.State :=
  let device : Shell.Stream := ⟨.device .null, 0, true, false⟩
  let pipe : Shell.Stream := ⟨.pipe [] [], 0, false, true⟩
  let bindings := host.environment.bindings.map fun (name, value) =>
    (name.toList, (⟨some (Shell.ofBytes value), true, false⟩ : Shell.Variable))
  { toWorld := ⟨host.files, #[device, pipe, pipe], firstProcess, [], launch⟩
    toProcess := .fresh firstProcess [(0, 0), (1, 1), (2, 2)] [] [] bindings []
      Shell.Mask.usual }

/-- Run a program on a host to its end. -/
def run (launch : Launcher) (host : Host) (program : Program) (words : List Bytes) : Child :=
  let start := Shell.Start.become (Shell.evaluator Shell.maxDepth) program
    (words.map Shell.ofBytes)
  let (exit, s) : Exit × Shell.State :=
    match start (freshProcess launch host) with
    | .ok exit s => (exit, s)
    | .error (.gone exit) s => (exit, s)
    | .error _ s => (.code 2, s)
  { exit := exit, stdout := s.toWorld.pipeContent 1, stderr := s.toWorld.pipeContent 2,
    files :=
      { s.files with workingDir := host.files.workingDir, limit := host.files.limit } }

/-- How deep commands may be started from within each other. -/
def maxNesting : Nat := 100

/-- Start the words of a command on the machine, with room for commands that it starts in turn. -/
def launchWithin : (depth : Nat) → Launcher
  | 0 => fun _ _ => .error .outOfMemory
  | depth + 1 => fun host words =>
      (programOf host words).map fun (program, words) =>
        run (launchWithin depth) host program words

/-- Start the words of a command on the machine. -/
def launch : Launcher := launchWithin maxNesting

end Machine

end SourceBundle
