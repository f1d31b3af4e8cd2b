import SourceBundle.Bundle.Expand
import SourceBundle.Bundle.Store
import SourceBundle.Compilation
import SourceBundle.Config
import SourceBundle.Stage

/-! # Builds — bundle, store, compile, report

    A build reads the entry file and what it includes, stores the bundle, and runs
    the compiler on it.  What has happened so far (`Progress`) is kept even when the
    build stops with an error: the stage reached, the lines reported, the file
    system, and the commands that were started, each together with the file system
    it found.  A compiler that fails is no error but an outcome. -/

namespace SourceBundle

/-- All that one build needs. -/
structure BuildSettings where
  entry : Path
  bundle : Path
  binDir : Path
  binary : String
  program : String
  backend : Backend
  options : BundleOptions
  deriving DecidableEq, Repr

namespace BuildSettings

/-- The settings of a configuration, fallbacks filled in. -/
def ofConfig (c : Config) : BuildSettings :=
  { entry := c.entry, bundle := c.bundlePath, binDir := c.binDir, binary := c.binary,
    program := c.program, backend := c.backend,
    options :=
      { baseDir := c.baseDir, mode := c.inlineMode, swap := c.backend.librarySwap } }

/-- Where the binary goes. -/
def binaryPath (s : BuildSettings) : Path := s.binDir.join (Path.ofText s.binary)

/-- The command that compiles the bundle with these libraries. -/
def command (s : BuildSettings) (libraries : List String) : Command :=
  ((CommandDraft.begin s.program s.backend.flags s.binaryPath).libraries libraries).finish
    s.bundle

end BuildSettings

/-- How a build ended. -/
inductive Outcome where
  | success (binary : Path)
  | failure (compilation : Compilation)
  deriving DecidableEq, Repr

/-- Did the build make a binary? -/
def Outcome.succeeded : Outcome → Bool
  | .success _ => true
  | .failure _ => false

/-- Why a build stops before the compiler is done. -/
inductive BuildError where
  | bundle (cause : BundleError)
  | store (cause : StoreError)
  | transition (cause : InvalidTransition)
  deriving DecidableEq, Repr

/-- The wording of a build error. -/
def BuildError.message : BuildError → String
  | .bundle cause => cause.message
  | .store cause => cause.message
  | .transition cause => cause.message

/-- What a build has done so far. -/
structure Progress where
  stage : Stage
  report : String
  files : FileSystem
  /-- The commands started, in order, each with the file system at that moment. -/
  started : List (Command × FileSystem)

/-- A part of a build: it changes the progress and may stop with an error. -/
abbrev BuildStep (α : Type) := EStateM BuildError Progress α

namespace Build

/-- Enter a stage. -/
def enter (next : Stage) : BuildStep Unit := fun p =>
  match p.stage.advance next with
  | .ok stage => .ok () { p with stage := stage }
  | .error cause => .error (.transition cause) p

/-- Report a line. -/
def report (line : String) : BuildStep Unit := fun p =>
  .ok () { p with report := p.report ++ line ++ "\n" }

/-- Bundle the entry file. -/
def bundleEntry (s : BuildSettings) : BuildStep Bundle := fun p =>
  match bundleFile p.files s.options s.entry with
  | .ok bundle => .ok bundle p
  | .error cause => .error (.bundle cause) p

/-- Store a bundle's text at its destination. -/
def storeBundle (s : BuildSettings) (text : Bytes) : BuildStep Unit := fun p =>
  match store p.files s.bundle text with
  | (.ok (), files) => .ok () { p with files := files }
  | (.error cause, files) => .error (.store cause) { p with files := files }

/-- Run the compiler. -/
def runCompiler (launch : Launcher) (env : Environment) (c : Command) :
    BuildStep Compilation := fun p =>
  let (compilation, files) := compile launch ⟨p.files, env⟩ c
  .ok compilation { p with files := files, started := p.started ++ [(c, p.files)] }

/-- Report how the compilation went. -/
def conclude (s : BuildSettings) (compilation : Compilation) : BuildStep Outcome := do
  if compilation.succeeded then
    enter .success
    report "Success!!"
    report ("Run `" ++ s.binaryPath.display ++ "` to play")
    return .success s.binaryPath
  else
    enter .failure
    report "Something went wrong :("
    if compilation.output ≠ [] then
      report ("\n".intercalate compilation.output)
    return .failure compilation

/-- A whole build. -/
def steps (launch : Launcher) (env : Environment) (s : BuildSettings) : BuildStep Outcome := do
  enter .bundling
  report "Preparing .ml files..."
  let bundle ← bundleEntry s
  enter .writing
  storeBundle s bundle.text
  let command := s.command bundle.libraries
  enter .compiling
  report ("Compiling... (`" ++ command.display ++ "`)")
  let compilation ← runCompiler launch env command
  conclude s compilation

/-- A new build on a file system. -/
def fresh (files : FileSystem) : Progress :=
  { stage := .start, report := "", files := files, started := [] }

/-- Run a build on a host. -/
def run (launch : Launcher) (host : Host) (s : BuildSettings) :
    EStateM.Result BuildError Progress Outcome :=
  steps launch host.environment s (fresh host.files)

end Build

end SourceBundle
