import SourceBundle.Build
import SourceBundle.CommandLine.Help
import SourceBundle.Config.Layers

/-! # The program — from a command line to an exit code

    `Program.run` carries out a command line: it writes a completion script, prints
    the configuration in effect, or builds.  `Program.main` adds the reading of the
    words and the exit code: 0 for success and for runs without a build, 1 for a
    failed compilation, 2 for every error. -/

namespace SourceBundle

/-- Why a run stops. -/
inductive RunError where
  | config (cause : ConfigError)
  | render (cause : PathNotText)
  | build (cause : BuildError)
  deriving DecidableEq, Repr

/-- The wording of a run's error. -/
def RunError.message : RunError → String
  | .config cause => cause.message
  | .render cause => cause.message
  | .build cause => cause.message

/-- What a run comes to. -/
structure Run where
  /-- The outcome of the build; nothing if none was asked for. -/
  result : Except RunError (Option Outcome)
  /-- All that was written. -/
  output : String
  /-- The file system afterwards. -/
  files : FileSystem
  /-- The compiler commands started, in order, each with the file system at that moment. -/
  started : List (Command × FileSystem)

namespace Program

/-- A run that writes a text and leaves everything as it is. -/
def quiet (session : Session) (result : Except RunError (Option Outcome)) (output : String) : Run :=
  { result := result, output := output, files := session.files, started := [] }

/-- A run that builds. -/
def build (launch : Launcher) (session : Session) (s : BuildSettings) : Run :=
  match Build.run launch session.toHost s with
  | .ok outcome p =>
      { result := .ok (some outcome), output := p.report, files := p.files, started := p.started }
  | .error cause p =>
      { result := .error (.build cause), output := p.report, files := p.files,
        started := p.started }

/-- The configuration a command line runs with. -/
def configuration (session : Session) (c : CommandLine) : Except ConfigError Config :=
  (Config.load session c.config).map c.apply

/-- Carry out a command line. -/
def run (launch : Launcher) (session : Session) (c : CommandLine) : Run :=
  match c.completions with
  | some shell => quiet session (.ok none) (completionScript shell)
  | none =>
      match configuration session c with
      | .error cause => quiet session (.error (.config cause)) ""
      | .ok config =>
          if c.printConfig then
            match config.toToml with
            | .error cause => quiet session (.error (.render cause)) ""
            | .ok text => quiet session (.ok none) text
          else build launch session (.ofConfig config)

/-- The exit code of a run. -/
def exitCode (r : Run) : Nat :=
  match r.result with
  | .ok (some outcome) => if outcome.succeeded then 0 else 1
  | .ok none => 0
  | .error _ => 2

/-- What the program leaves when it ends. -/
structure Ending where
  exitCode : Nat
  stdout : String
  stderr : String
  files : FileSystem

/-- The line that reports an error. -/
def errorLine (e : RunError) : String := "error: " ++ e.message

/-- The ending of a run. -/
def endingOf (r : Run) : Ending :=
  { exitCode := exitCode r, stdout := r.output, files := r.files,
    stderr :=
      match r.result with
      | .ok _ => ""
      | .error cause => errorLine cause ++ "\n" }

/-- The ending of a command line that is not carried out. -/
def endingOfUsage (session : Session) (e : UsageError) : Ending :=
  { exitCode := e.exitCode, files := session.files,
    stdout :=
      match e with
      | .help => helpText
      | .version => versionText
      | _ => "",
    stderr :=
      match e with
      | .help | .version => ""
      | _ => "error: bad command line\n\n" ++ helpText }

/-- The whole program, started with these words after its name. -/
def main (launch : Launcher) (session : Session) (words : List Bytes) : Ending :=
  match CommandLine.parse words with
  | .error e => endingOfUsage session e
  | .ok c => endingOf (run launch session c)

end Program

end SourceBundle
