import SourceBundle.Config

/-! # The command line — options and how they are read

    Words are read from left to right.  An option takes its value from the same
    word, after `=`, or from the next one; that value waits (`Waiting`) until the
    next word that is an option shows that it is complete, and an unknown word in
    between is the error that is reported. -/

namespace SourceBundle

/-- A shell that a completion script can be written for. -/
inductive CompletionShell where
  | bash
  | elvish
  | fish
  | powershell
  | zsh
  deriving DecidableEq, Repr

/-- The shell's name on the command line. -/
def CompletionShell.name : CompletionShell → String
  | .bash => "bash"
  | .elvish => "elvish"
  | .fish => "fish"
  | .powershell => "powershell"
  | .zsh => "zsh"

/-- All shells, in the order of their names. -/
def CompletionShell.all : List CompletionShell := [.bash, .elvish, .fish, .powershell, .zsh]

/-- What a command line asks for. -/
structure CommandLine where
  entry : Option Path := none
  bundle : Option Path := none
  binDir : Option Path := none
  binary : Option String := none
  compiler : Option String := none
  backend : Option Backend := none
  recursive : Bool := false
  baseDir : Option Path := none
  config : Option Path := none
  verbosity : Nat := 0
  completions : Option CompletionShell := none
  printConfig : Bool := false
  deriving DecidableEq, Repr

/-- Why a command line is not carried out. -/
inductive UsageError where
  | unknownArgument
  | invalidValue
  | argumentConflict
  | tooManyValues
  | invalidUtf8
  /-- The help was asked for. -/
  | help
  /-- The version was asked for. -/
  | version
  deriving DecidableEq, Repr

/-- The exit code of a program whose command line is not carried out. -/
def UsageError.exitCode : UsageError → Nat
  | .help | .version => 0
  | _ => 2

/-- The options that take a value. -/
inductive ValueOption where
  | entry
  | bundle
  | binDir
  | binary
  | compiler
  | backend
  | baseDir
  | config
  | completions
  deriving DecidableEq, Repr

/-- The options without a value. -/
inductive Flag where
  | recursive
  | verbose
  | printConfig
  | help
  | version
  deriving DecidableEq, Repr

/-- The name of an option, after two dashes. -/
def ValueOption.name : ValueOption → String
  | .entry => "entry"
  | .bundle => "bundle"
  | .binDir => "bin-dir"
  | .binary => "binary"
  | .compiler => "compiler"
  | .backend => "backend"
  | .baseDir => "base-dir"
  | .config => "config"
  | .completions => "completions"

/-- All options that take a value. -/
def ValueOption.all : List ValueOption :=
  [.entry, .bundle, .binDir, .binary, .compiler, .backend, .baseDir, .config, .completions]

/-- The name of a flag, after two dashes. -/
def Flag.name : Flag → String
  | .recursive => "recursive"
  | .verbose => "verbose"
  | .printConfig => "print-config"
  | .help => "help"
  | .version => "version"

/-- All flags. -/
def Flag.all : List Flag := [.recursive, .verbose, .printConfig, .help, .version]

/-- The flag of one letter, after one dash. -/
def Flag.ofLetter? (letter : UInt8) : Option Flag :=
  if letter = 0x76 then some .verbose
  else if letter = 0x68 then some .help
  else if letter = 0x56 then some .version
  else none

namespace CommandLine

/-- The most times `-v` counts. -/
def maxVerbosity : Nat := 255

/-- A value given once. -/
def once {α : Type} (old : Option α) (value : Except UsageError α) :
    Except UsageError (Option α) :=
  match old with
  | some _ => .error .argumentConflict
  | none => value.map some

/-- A path, which is not empty. -/
def pathValue (word : Bytes) : Except UsageError Path :=
  if word = [] then .error .invalidValue else .ok ⟨word⟩

/-- A text. -/
def textValue (word : Bytes) : Except UsageError String :=
  match Utf8.decode? word with
  | some text => .ok text
  | none => .error .invalidUtf8

/-- The choice with exactly this name. -/
def choiceValue {α : Type} (ofName? : String → Option α) (word : Bytes) : Except UsageError α :=
  match (Utf8.decode? word).bind ofName? with
  | some choice => .ok choice
  | none => .error .invalidValue

/-- The shell with exactly this name. -/
def shellOfName? (name : String) : Option CompletionShell :=
  CompletionShell.all.find? fun shell => shell.name = name

/-- Give an option its value. -/
def setValue (c : CommandLine) (option : ValueOption) (word : Bytes) :
    Except UsageError CommandLine :=
  match option with
  | .entry => do return { c with entry := ← once c.entry (pathValue word) }
  | .bundle => do return { c with bundle := ← once c.bundle (pathValue word) }
  | .binDir => do return { c with binDir := ← once c.binDir (pathValue word) }
  | .binary => do return { c with binary := ← once c.binary (textValue word) }
  | .compiler => do return { c with compiler := ← once c.compiler (textValue word) }
  | .backend => do
      return { c with backend := ← once c.backend (choiceValue Backend.ofName? word) }
  | .baseDir => do return { c with baseDir := ← once c.baseDir (pathValue word) }
  | .config => do return { c with config := ← once c.config (pathValue word) }
  | .completions => do
      return { c with completions := ← once c.completions (choiceValue shellOfName? word) }

/-- Raise a flag. Only `-v` may be given more than once. -/
def raise (c : CommandLine) : Flag → Except UsageError CommandLine
  | .recursive => if c.recursive then .error .argumentConflict else .ok { c with recursive := true }
  | .printConfig =>
      if c.printConfig then .error .argumentConflict else .ok { c with printConfig := true }
  | .verbose => .ok { c with verbosity := min (c.verbosity + 1) maxVerbosity }
  | .help => .error .help
  | .version => .error .version

/-- An option that is not settled yet, with the word after it if there was one. -/
abbrev Waiting := Option (ValueOption × Option Bytes)

/-- The options read so far, the last of which may be waiting. -/
structure Draft where
  settled : CommandLine
  waiting : Waiting

/-- Settle the waiting option. -/
def Draft.settle (d : Draft) : Except UsageError CommandLine :=
  match d.waiting with
  | none => .ok d.settled
  | some (_, none) => .error .invalidValue
  | some (option, some word) => d.settled.setValue option word

/-- The next flag. -/
def Draft.raise (d : Draft) (flag : Flag) : Except UsageError Draft := do
  let c ← d.settle
  return { settled := ← c.raise flag, waiting := none }

/-- What a word with two dashes names, and the value after its first `=`. -/
def splitLong (word : Bytes) : Bytes × Option Bytes :=
  let name := word.takeWhile (· ≠ 0x3D)
  match word.dropWhile (· ≠ 0x3D) with
  | [] => (name, none)
  | _ :: value => (name, some value)

/-- A word after two dashes. -/
def Draft.long (d : Draft) (word : Bytes) : Except UsageError Draft :=
  let (name, value) := splitLong word
  match ValueOption.all.find? (fun option => Utf8.encode option.name = name),
      Flag.all.find? (fun flag => Utf8.encode flag.name = name), value with
  | some option, _, none => do
      return { settled := ← d.settle, waiting := some (option, none) }
  | some option, _, some value => do
      let c ← d.settle
      return { settled := ← c.setValue option value, waiting := none }
  | none, some flag, none => d.raise flag
  | none, some _, some _ => .error .tooManyValues
  | none, none, _ => .error .unknownArgument

/-- Letters after one dash. -/
def Draft.letters (d : Draft) : (letters : Bytes) → Except UsageError Draft
  | [] => .ok d
  | letter :: letters =>
      match Flag.ofLetter? letter with
      | none => .error .unknownArgument
      | some flag => do
          let d ← d.raise flag
          d.letters letters

/-- A word that is no option: the value of the option right before it, or unknown. -/
def Draft.plain (d : Draft) (word : Bytes) : Except UsageError Draft :=
  match d.waiting with
  | some (option, none) => .ok { d with waiting := some (option, some word) }
  | _ => .error .unknownArgument

/-- The dash. -/
def dash : UInt8 := 0x2D

/-- Read the words that are left. Nothing may follow two dashes alone. -/
def Draft.read (d : Draft) : (words : List Bytes) → Except UsageError CommandLine
  | [] => d.settle
  | word :: words =>
      match word with
      | a :: b :: rest =>
          if a = dash ∧ b = dash then
            if rest = [] then
              if words = [] then d.settle else .error .unknownArgument
            else do
              let d ← d.long rest
              d.read words
          else if a = dash then do
            let d ← d.letters (b :: rest)
            d.read words
          else do
            let d ← d.plain word
            d.read words
      | _ => do
          let d ← d.plain word
          d.read words

/-- Read the words after the program's name. -/
def parse (words : List Bytes) : Except UsageError CommandLine :=
  Draft.read { settled := {}, waiting := none } words

/-- A configuration with the options of the command line on top. -/
def apply (c : CommandLine) (config : Config) : Config :=
  let compiler := (config.compiler.withBackend c.backend).withProgram c.compiler
  { paths :=
      { entry := c.entry <|> config.paths.entry,
        bundle := c.bundle <|> config.paths.bundle,
        binDir := c.binDir <|> config.paths.binDir,
        baseDir := c.baseDir <|> config.paths.baseDir },
    compiler := { compiler with binary := c.binary <|> config.compiler.binary },
    bundle :=
      { recursive := if c.recursive then some true else config.bundle.recursive } }

end CommandLine

/-- How much a program logs. -/
inductive LogLevel where
  | warn
  | info
  | debug
  | trace
  deriving DecidableEq, Repr

/-- The level for a count of `-v`. -/
def LogLevel.ofVerbosity : Nat → LogLevel
  | 0 => .warn
  | 1 => .info
  | 2 => .debug
  | _ => .trace

/-- The level's name. -/
def LogLevel.name : LogLevel → String
  | .warn => "WARN"
  | .info => "INFO"
  | .debug => "DEBUG"
  | .trace => "TRACE"

end SourceBundle
