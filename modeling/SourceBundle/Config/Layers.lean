import SourceBundle.Compilation
import SourceBundle.Config.Toml

/-! # Layers — the configuration that is in effect

    From the lowest up: the built-in defaults, the user's file, the workspace's file
    or the one named on the command line, and the variables of the environment.  The
    command line itself comes on top of these (`SourceBundle.CommandLine`). -/

namespace SourceBundle

/-- Why there is no configuration. -/
inductive ConfigError where
  /-- The file named on the command line is no file. -/
  | noSuchFile (path : Path)
  /-- A file cannot be read. -/
  | unreadable (path : Path) (cause : OsError)
  /-- A file is not UTF-8. -/
  | notText (path : Path)
  /-- A file is no configuration. -/
  | malformed (path : Path) (cause : TomlError)
  /-- The built-in defaults are no configuration. -/
  | malformedDefaults (cause : TomlError)
  /-- The environment names an unknown backend. -/
  | unknownBackend (cause : Backend.Unknown)
  deriving DecidableEq, Repr

/-- The wording of a configuration error, with its causes. -/
def ConfigError.message : ConfigError → String
  | .noSuchFile path => "config file not found: " ++ path.display
  | .unreadable path cause =>
      "failed to read config file: " ++ path.display ++ ": " ++ cause.message
  | .notText path =>
      "failed to read config file: " ++ path.display ++ ": stream did not contain valid UTF-8"
  | .malformed path cause =>
      "in config file " ++ path.display ++ ": failed to parse TOML config: " ++ cause.message
  | .malformedDefaults cause => "failed to parse TOML config: " ++ cause.message
  | .unknownBackend cause => "invalid MLBUNDLE_BACKEND value: " ++ cause.message

namespace Config

/-- The built-in defaults, as a configuration file. -/
def defaultsText : String :=
  "# Built-in defaults for mlbundle. Any layer (user config, ./mlbundle.toml,\n"
    ++ "# environment, CLI) may override individual keys.\n"
    ++ "\n"
    ++ "[paths]\n"
    ++ "entry = \"./main.ml\"\n"
    ++ "bundle = \"../bin/bcotp.ml\"\n"
    ++ "bin_dir = \"../bin\"\n"
    ++ "base_dir = \".\"\n"
    ++ "\n"
    ++ "[compiler]\n"
    ++ "backend = \"native\"\n"
    ++ "binary = \"BigCitiesOnTinyPlanets.exe\"\n"
    ++ "\n"
    ++ "[bundle]\n"
    ++ "recursive = false\n"

/-- The workspace's file. -/
def workspaceFile : Path := Path.ofText "mlbundle.toml"

/-- The user's file, in their directory of configuration files. -/
def userFile? (session : Session) : Option Path :=
  session.configDir.map fun dir => dir.join (Path.ofText "mlbundle/config.toml")

/-- The layer of a file. -/
def ofFile (fs : FileSystem) (path : Path) : Except ConfigError Config :=
  match fs.contents path with
  | .error cause => .error (.unreadable path cause)
  | .ok bytes =>
      match Utf8.decode? bytes with
      | none => .error (.notText path)
      | some text =>
          match Config.parse text with
          | .error cause => .error (.malformed path cause)
          | .ok config => .ok config

/-- The layer of a file that may be missing; then it sets nothing. -/
def ofFileIfThere (fs : FileSystem) (path : Path) : Except ConfigError Config :=
  if fs.pathExists path then ofFile fs path else .ok {}

/-- The layer of the built-in defaults. -/
def defaults : Except ConfigError Config :=
  (Config.parse defaultsText).mapError .malformedDefaults

/-- The settings that the environment holds, over a configuration. -/
def overrideFromEnvironment (c : Config) (backend program : Option String) :
    Except ConfigError Config :=
  match backend with
  | none => .ok { c with compiler := c.compiler.withProgram program }
  | some text =>
      match Backend.ofText text with
      | .error cause => .error (.unknownBackend cause)
      | .ok backend =>
          .ok { c with
            compiler := (c.compiler.merge { backend := some backend }).withProgram program }

/-- The configuration in effect below the command line. A file named there has to exist and
    takes the place of the workspace's. -/
def load (session : Session) (named : Option Path) : Except ConfigError Config := do
  let workspace ←
    match named with
    | none => pure workspaceFile
    | some path => if session.files.isFile path then pure path else throw (.noSuchFile path)
  let base ← defaults
  let user ←
    match userFile? session with
    | none => pure {}
    | some path => ofFileIfThere session.files path
  let higher ← ofFileIfThere session.files workspace
  ((base.merge user).merge higher).overrideFromEnvironment
    (session.environment.text? "MLBUNDLE_BACKEND")
    (session.environment.text? "MLBUNDLE_COMPILER")

end Config

end SourceBundle
