import SourceBundle.Backend

/-! # Configurations — settings that may be left open

    Every setting of a configuration may be unset.  Layers of configurations are
    merged, a higher one deciding where it is set; what stays unset has a fallback.
    One setting depends on another: a layer that changes the backend drops the
    compiler program chosen below it, since that program belongs to the old backend. -/

namespace SourceBundle

/-- Where things are and go. -/
structure PathSettings where
  entry : Option Path := none
  bundle : Option Path := none
  binDir : Option Path := none
  baseDir : Option Path := none
  deriving DecidableEq, Repr

/-- What compiles, and what the result is called. -/
structure CompilerSettings where
  backend : Option Backend := none
  program : Option String := none
  binary : Option String := none
  deriving DecidableEq, Repr

/-- How sources are bundled. -/
structure BundleSettings where
  recursive : Option Bool := none
  deriving DecidableEq, Repr

/-- A configuration, or one layer of it. -/
structure Config where
  paths : PathSettings := {}
  compiler : CompilerSettings := {}
  bundle : BundleSettings := {}
  deriving DecidableEq, Repr

/-! ## Merging -/

/-- Each setting of `higher` where it is set, else that of `base`. -/
def PathSettings.merge (base higher : PathSettings) : PathSettings :=
  { entry := higher.entry <|> base.entry,
    bundle := higher.bundle <|> base.bundle,
    binDir := higher.binDir <|> base.binDir,
    baseDir := higher.baseDir <|> base.baseDir }

/-- The settings with the backend chosen anew. A change of backend drops the program. -/
def CompilerSettings.withBackend (base : CompilerSettings) (backend : Option Backend) :
    CompilerSettings :=
  match backend with
  | none => base
  | some _ =>
      { base with
        backend := backend,
        program := if base.backend = backend then base.program else none }

/-- The settings with the program chosen anew, if one is given. -/
def CompilerSettings.withProgram (base : CompilerSettings) (program : Option String) :
    CompilerSettings :=
  { base with program := program <|> base.program }

/-- Each setting of `higher` where it is set, else that of `base`. A change of backend drops the
    program of `base` where `higher` has none of its own. -/
def CompilerSettings.merge (base higher : CompilerSettings) : CompilerSettings :=
  let settled :=
    match higher.backend with
    | none => base
    | some backend =>
        { base with
          backend := some backend,
          program :=
            if base.backend ≠ some backend ∧ higher.program = none then none
            else base.program }
  { settled with
    program := higher.program <|> settled.program,
    binary := higher.binary <|> base.binary }

/-- Each setting of `higher` where it is set, else that of `base`. -/
def BundleSettings.merge (base higher : BundleSettings) : BundleSettings :=
  { recursive := higher.recursive <|> base.recursive }

/-- The configuration of two layers, the settings of `higher` first. -/
def Config.merge (base higher : Config) : Config :=
  { paths := base.paths.merge higher.paths,
    compiler := base.compiler.merge higher.compiler,
    bundle := base.bundle.merge higher.bundle }

/-! ## Fallbacks -/

namespace Config

/-- The file to bundle. -/
def entry (c : Config) : Path := c.paths.entry.getD (Path.ofText "./main.ml")

/-- Where the bundle is stored. -/
def bundlePath (c : Config) : Path := c.paths.bundle.getD (Path.ofText "../bin/bcotp.ml")

/-- The directory of the binary. -/
def binDir (c : Config) : Path := c.paths.binDir.getD (Path.ofText "../bin")

/-- The directory the paths of `#use` directives are seen from. -/
def baseDir (c : Config) : Path := c.paths.baseDir.getD (Path.ofText ".")

/-- The backend. -/
def backend (c : Config) : Backend := c.compiler.backend.getD .native

/-- The compiler program, the backend's own if none is chosen. -/
def program (c : Config) : String := c.compiler.program.getD c.backend.defaultProgram

/-- The name of the binary. -/
def binary (c : Config) : String := c.compiler.binary.getD "BigCitiesOnTinyPlanets.exe"

/-- What happens to the directives of inlined files. -/
def inlineMode (c : Config) : InlineMode :=
  if c.bundle.recursive.getD false then .recursive else .single

end Config

end SourceBundle
