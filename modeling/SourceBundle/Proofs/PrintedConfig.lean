import SourceBundle.Proofs.FailedRuns
import SourceBundle.Proofs.Overrides

/-! # Printed configurations — what a saved one builds with

    A printed configuration can be saved and named on the next command line.  It
    then stands on the built-in defaults and the user's file, and the environment
    and the command line add nothing to it.

    It sets everything but perhaps the program, since the defaults do
    (`SetsAll`), so nothing below it shows through but a program.  That happens in
    one case: the user's file chooses a program, a layer above switches the
    backend, which drops it, and a still higher one switches back.  The printed
    text cannot say that the program is unset, and the user's file sets it again
    (`reload_switchedBack`).  In every other case the saved text builds with the
    settings that it was printed from (`reload_printed`). -/

namespace SourceBundle

variable {launch : Launcher} {session session' : Session} {c : CommandLine}

/-! ## All is set but the program -/

/-- Every setting is set, except that the program may be left to the backend. -/
structure Config.SetsAll (c : Config) : Prop where
  entry : c.paths.entry.isSome
  bundle : c.paths.bundle.isSome
  binDir : c.paths.binDir.isSome
  baseDir : c.paths.baseDir.isSome
  backend : c.compiler.backend.isSome
  binary : c.compiler.binary.isSome
  recursive : c.bundle.recursive.isSome

/-- The defaults set everything but the program. -/
theorem setsAll_builtIn : Config.builtIn.SetsAll := by
  constructor <;> rfl

/-- What is set below is set whatever stands on top. -/
theorem isSome_choose {α : Type} {base : Option α} (top : Option α)
    (h : base.isSome) : (top <|> base).isSome := by
  cases top with
  | none => exact h
  | some a => rfl

/-- What is set below stays set. -/
theorem Config.SetsAll.merge {base : Config} (h : base.SetsAll) (top : Config) :
    (base.merge top).SetsAll where
  entry := isSome_choose _ h.entry
  bundle := isSome_choose _ h.bundle
  binDir := isSome_choose _ h.binDir
  baseDir := isSome_choose _ h.baseDir
  backend := by
    rw [backend_merge]
    exact isSome_choose _ h.backend
  binary := isSome_choose _ h.binary
  recursive := isSome_choose _ h.recursive

/-- What is set on top hides all below. -/
theorem choose_of_isSome {α : Type} {top : Option α} (h : top.isSome)
    (base : Option α) : (top <|> base) = top := by
  cases top with
  | none => exact nomatch h
  | some a => rfl

/-- Under a backend and a binary, only a program of the same backend shows. -/
theorem compiler_merge_of_isSome {base top : CompilerSettings}
    (hbackend : top.backend.isSome) (hbinary : top.binary.isSome) :
    base.merge top = { top with
      program := top.program <|>
        if base.backend = top.backend then base.program else none } := by
  obtain ⟨backend, program, binary⟩ := top
  cases backend with
  | none => exact nomatch hbackend
  | some b =>
      rw [CompilerSettings.merge_eq, choose_of_isSome hbinary]
      rfl

/-- A configuration with another program. -/
def Config.withProgram (c : Config) (program : Option String) : Config :=
  { c with compiler := { c.compiler with program := program } }

/-- Under a layer that sets all else, the program alone shows through, and only if
    its backend stays. -/
theorem merge_of_setsAll {top : Config} (h : top.SetsAll) (base : Config) :
    base.merge top = top.withProgram (top.compiler.program <|>
      if base.compiler.backend = top.compiler.backend then base.compiler.program
      else none) := by
  have hpaths : base.paths.merge top.paths = top.paths := by
    simp only [PathSettings.merge, choose_of_isSome h.entry, choose_of_isSome h.bundle,
      choose_of_isSome h.binDir, choose_of_isSome h.baseDir]
  have hbundle : base.bundle.merge top.bundle = top.bundle := by
    rw [BundleSettings.merge, choose_of_isSome h.recursive]
  rw [Config.merge, hpaths, hbundle, compiler_merge_of_isSome h.backend h.binary]
  rfl

/-! ## What a printed text sets -/

/-- Printed text is read as the configuration it was printed from. -/
theorem parse_of_toToml {config : Config} {text : String}
    (h : config.toToml = .ok text) : Config.parse text = .ok config := by
  obtain ⟨hpaths, rfl⟩ := toToml_eq_ok_iff.mp h
  rw [Config.parse, parse_written]
  exact Config.read_entries hpaths

/-- The configuration of a command line is the five layers. -/
theorem configuration_eq_ok {config : Config}
    (h : Program.configuration session c = .ok config) :
    ∃ user, FileLayer session.files (Config.userFile? session) user ∧
      config.SetsAll := by
  cases hload : Config.load session c.config with
  | error cause =>
      rw [Program.configuration, hload] at h
      cases h
  | ok loaded =>
      rw [Program.configuration, hload] at h
      obtain rfl : c.apply loaded = config := Except.ok.inj h
      obtain ⟨-, user, workspace, environment, huser, -, -, rfl⟩ := load_eq_ok_iff.mp hload
      refine ⟨user, huser, ?_⟩
      have hlower := ((setsAll_builtIn.merge user).merge workspace).merge environment
      rw [apply_eq_merge]
      simp only [Config.stack, List.foldl_cons, List.foldl_nil, empty_merge]
      exact hlower.merge c.layer

/-- The run prints this text as the configuration in effect. -/
structure Prints (launch : Launcher) (session : Session) (c : CommandLine)
    (text : String) : Prop where
  asked : c.printConfig = true
  /-- A completion script would be printed in its place. -/
  noScript : c.completions = none
  succeeds : (Program.run launch session c).result = .ok none
  output : (Program.run launch session c).output = text

/-- What is printed is the configuration of the command line. -/
theorem Prints.configuration {text : String} (h : Prints launch session c text) :
    ∃ config, Program.configuration session c = .ok config ∧ config.toToml = .ok text := by
  obtain ⟨hprint, hscript, hresult, houtput⟩ := h
  have hcourse := Program.course_run launch session c
  generalize Program.run launch session c = r at hcourse hresult houtput
  cases hcourse with
  | completions hshell => exact nomatch hscript.symm.trans hshell
  | notConfigured => exact nomatch hresult
  | notPrinted => exact nomatch hresult
  | printed _ hconfig _ htoml =>
      obtain rfl : _ = text := houtput
      exact ⟨_, hconfig, htoml⟩
  | stopped _ _ hbuild => exact nomatch hprint.symm.trans hbuild
  | built _ _ hbuild => exact nomatch hprint.symm.trans hbuild

/-! ## Loading a saved text -/

/-- On `session'` the text is saved in a file, the user's file is as on `session`, and
    the environment sets nothing. -/
structure Saves (session session' : Session) (saved : Path) (text : String) : Prop where
  isFile : session'.files.isFile saved = true
  contents : session'.files.contents saved = .ok (Utf8.encode text)
  userFile : Config.userFile? session' = Config.userFile? session
  user : SameLayer session.files session'.files (Config.userFile? session)
  noBackend : session'.environment.text? "MLBUNDLE_BACKEND" = none
  noProgram : session'.environment.text? "MLBUNDLE_COMPILER" = none

/-- Where a file is, something is. -/
theorem pathExists_of_isFile {fs : FileSystem} {p : Path} (h : fs.isFile p = true) :
    fs.pathExists p = true := by
  unfold FileSystem.isFile at h
  split at h
  · next hentry =>
      rw [FileSystem.pathExists, hentry]
      rfl
  · cases h

/-- The same layer is read from both file systems. -/
theorem SameLayer.fileLayer {fs fs' : FileSystem} {path : Option Path} {layer : Config}
    (hsame : SameLayer fs fs' path) (h : FileLayer fs path layer) :
    FileLayer fs' path layer := by
  cases path with
  | none =>
      cases h
      exact .nowhere
  | some p =>
      rw [← ofFileIfThere_eq_ok_iff] at h ⊢
      rw [ofFileIfThere_congr hsame, h]

/-- A saved text stands on the defaults and the user's file alone. -/
theorem Saves.configuration {saved : Path} {text : String} {user config : Config}
    (h : Saves session session' saved text)
    (huser : FileLayer session.files (Config.userFile? session) user)
    (htoml : config.toToml = .ok text) :
    Program.configuration session' { config := some saved }
      = .ok ((Config.builtIn.merge user).merge config) := by
  have hnamed : FileLayer session'.files (some (Config.workspacePath (some saved))) config :=
    .file (pathExists_of_isFile h.isFile) h.contents (Utf8.decode?_eq_some_iff.mpr rfl)
      (parse_of_toToml htoml)
  have hsame : FileLayer session'.files (Config.userFile? session') user := by
    rw [h.userFile]
    exact h.user.fileLayer huser
  have hnothing : EnvironmentLayer session'.environment {} := by
    refine ⟨none, ?_, ?_⟩
    · rw [h.noBackend]
      rfl
    · rw [h.noProgram]
  have hisFile : ∀ path, some saved = some path → session'.files.isFile path = true := by
    rintro path ⟨⟩
    exact h.isFile
  have hload := load_eq_ok_iff.mpr ⟨hisFile, user, config, {}, hsame, hnamed, hnothing, rfl⟩
  rw [Program.configuration, hload]
  refine congrArg Except.ok ?_
  -- neither the environment nor the command line puts anything on top
  rw [apply_eq_merge]
  show Config.merge _ {} = _
  simp only [Config.stack, List.foldl_cons, List.foldl_nil, empty_merge, merge_empty]

/-- Under the user's file the defaults show through: a program is the file's own,
    and so is a backend, or else native. -/
theorem merge_builtIn (user : Config) :
    (Config.builtIn.merge user).compiler.program = user.compiler.program ∧
      (Config.builtIn.merge user).compiler.backend
        = (user.compiler.backend <|> some .native) := by
  constructor
  · rw [program_merge]
    show (user.compiler.program <|> if _ then none else none) = _
    rw [ite_self]
    cases user.compiler.program <;> rfl
  · exact backend_merge Config.builtIn user

/-- The user's file chooses a program, no program is in effect, and the backend is
    the one that the file leaves: above it the backend was switched and switched
    back. -/
def DroppedByDetour (user config : Config) (program : String) : Prop :=
  user.compiler.program = some program ∧ config.compiler.program = none ∧
    config.compiler.backend = (user.compiler.backend <|> some .native)

/-- **A PRINTED CONFIGURATION IS THE ONE IN EFFECT**: saved and named, it loads, and
    builds with the settings that the command line which printed it builds with.
    Only a program of the user's file that was dropped on a detour to the other
    backend is chosen again, and then nothing else differs. -/
theorem reload_printed {saved : Path} {text : String}
    (hprints : Prints launch session c text) (hsaves : Saves session session' saved text) :
    ∃ user config reloaded,
      FileLayer session.files (Config.userFile? session) user ∧
      Program.configuration session c = .ok config ∧
      Program.configuration session' { config := some saved } = .ok reloaded ∧
      ((∀ program, ¬ DroppedByDetour user config program) →
        BuildSettings.ofConfig reloaded = BuildSettings.ofConfig config) ∧
      ∀ program, DroppedByDetour user config program →
        BuildSettings.ofConfig reloaded
          = { BuildSettings.ofConfig config with program := program } := by
  obtain ⟨config, hconfig, htoml⟩ := hprints.configuration
  obtain ⟨user, huser, hall⟩ := configuration_eq_ok hconfig
  obtain ⟨hprogram, hbackend⟩ := merge_builtIn user
  have hreloaded := hsaves.configuration huser htoml
  rw [merge_of_setsAll hall, hprogram, hbackend] at hreloaded
  refine ⟨user, config, _, huser, hconfig, hreloaded, ?_, ?_⟩
  · intro hkept
    have hsame : (config.compiler.program <|>
        if (user.compiler.backend <|> some .native) = config.compiler.backend
        then user.compiler.program else none) = config.compiler.program := by
      cases hprinted : config.compiler.program with
      | some program => rfl
      | none =>
          by_cases hback : (user.compiler.backend <|> some .native) = config.compiler.backend
          · rw [if_pos hback]
            cases hchosen : user.compiler.program with
            | none => rfl
            | some program => exact absurd ⟨hchosen, hprinted, hback.symm⟩ (hkept program)
          · rw [if_neg hback]
            rfl
    rw [hsame]
    rfl
  · rintro program ⟨hchosen, hprinted, hback⟩
    rw [hprinted, hchosen, if_pos hback.symm]
    rfl

/-! ## A saved text without a program -/

/-- A configuration that can be written is printed when asked for. -/
theorem prints_of_configuration {config : Config} {text : String}
    (hprint : c.printConfig = true) (hscript : c.completions = none)
    (hconfig : Program.configuration session c = .ok config)
    (htoml : config.toToml = .ok text) : Prints launch session c text := by
  have hrun : Program.run launch session c = Program.quiet session (.ok none) text := by
    rw [Program.run, hscript, hconfig]
    dsimp only
    rw [if_pos hprint, htoml]
  refine ⟨hprint, hscript, ?_, ?_⟩
  · rw [hrun]
    rfl
  · rw [hrun]
    rfl

/-- The defaults with a backend, as they are printed. -/
def defaultsFor (backend : Backend) : String :=
  "[paths]\nentry = \"./main.ml\"\nbundle = \"../bin/bcotp.ml\"\nbin_dir = \"../bin\"\n"
    ++ "base_dir = \".\"\n\n[compiler]\nbackend = \"" ++ backend.name
    ++ "\"\nbinary = \"BigCitiesOnTinyPlanets.exe\"\n\n[bundle]\nrecursive = false\n"

/-- The files of `switchedBack` with another one beside them, the same user, and
    nothing set in the environment. -/
def besideSwitchedBack (content : Bytes) : Session :=
  { files :=
      ⟨([Utf8.encode "saved.toml"], .file content false) :: switchedBack.files.entries, [], none⟩,
    environment := ⟨[]⟩, configDir := switchedBack.configDir }

/-- The path of the file beside them. -/
def savedPath : Path := Path.ofText "saved.toml"

theorem userFile_besideSwitchedBack (content : Bytes) :
    (besideSwitchedBack content).files.pathExists (Path.ofText "/c/mlbundle/config.toml")
        = switchedBack.files.pathExists (Path.ofText "/c/mlbundle/config.toml") ∧
      (besideSwitchedBack content).files.contents (Path.ofText "/c/mlbundle/config.toml")
        = switchedBack.files.contents (Path.ofText "/c/mlbundle/config.toml") := by
  constructor
  · cbv
  · cbv

theorem savedFile_besideSwitchedBack (content : Bytes) :
    (besideSwitchedBack content).files.isFile savedPath = true ∧
      (besideSwitchedBack content).files.contents savedPath = .ok content := by
  constructor
  · cbv
  · cbv

/-- A text saved beside the files of `switchedBack` disturbs none of them. -/
theorem saves_besideSwitchedBack (text : String) :
    Saves switchedBack (besideSwitchedBack (Utf8.encode text)) savedPath text := by
  have hpath : Config.userFile? switchedBack
      = some (Path.ofText "/c/mlbundle/config.toml") := by
    decide +kernel
  obtain ⟨hisFile, hcontents⟩ := savedFile_besideSwitchedBack (Utf8.encode text)
  refine ⟨hisFile, hcontents, rfl, .inr ?_, rfl, rfl⟩
  rw [hpath]
  rintro p ⟨⟩
  exact userFile_besideSwitchedBack _

/-- With `--backend bytecode` the program stays dropped, and the saved text says so
    by its backend. -/
theorem reload_printed_bytecode :
    ∃ config reloaded,
      Prints Program.nothingStarts switchedBack { printConfig := true, backend := some .bytecode }
        (defaultsFor .bytecode) ∧
      Saves switchedBack (besideSwitchedBack (Utf8.encode (defaultsFor .bytecode))) savedPath
        (defaultsFor .bytecode) ∧
      Program.configuration switchedBack { printConfig := true, backend := some .bytecode }
        = .ok config ∧
      Program.configuration (besideSwitchedBack (Utf8.encode (defaultsFor .bytecode)))
        { config := some savedPath } = .ok reloaded ∧
      BuildSettings.ofConfig reloaded = BuildSettings.ofConfig config ∧
      (BuildSettings.ofConfig reloaded).program = "ocamlc" := by
  have hconfig : Program.configuration switchedBack
      { printConfig := true, backend := some .bytecode }
      = .ok (CommandLine.apply { printConfig := true, backend := some .bytecode }
          (Config.stack switchedBackLayers)) := by
    rw [Program.configuration, load_switchedBack]
    rfl
  have hprints : Prints Program.nothingStarts switchedBack
      { printConfig := true, backend := some .bytecode } (defaultsFor .bytecode) :=
    prints_of_configuration rfl rfl hconfig (by decide +kernel)
  have hsaves := saves_besideSwitchedBack (defaultsFor .bytecode)
  obtain ⟨user, config, reloaded, huser, hconfig', hreloaded, hsame, -⟩ :=
    reload_printed hprints hsaves
  obtain rfl := huser.unique userLayer_switchedBack
  obtain rfl := Except.ok.inj (hconfig.symm.trans hconfig')
  have hsettings := hsame (by
    rintro program ⟨-, -, hback⟩
    exact absurd hback (by decide +kernel))
  refine ⟨_, reloaded, hprints, hsaves, hconfig, hreloaded, hsettings, ?_⟩
  rw [hsettings]
  decide +kernel

/-- The environment goes back to the native build, for which no program is in
    effect.  Saved and named, what is printed builds with the program of the user's
    file. -/
theorem reload_switchedBack :
    Prints Program.nothingStarts switchedBack { printConfig := true } (defaultsFor .native) ∧
    Saves switchedBack (besideSwitchedBack (Utf8.encode (defaultsFor .native))) savedPath
      (defaultsFor .native) ∧
    ∃ config reloaded,
      Program.configuration switchedBack { printConfig := true } = .ok config ∧
      Program.configuration (besideSwitchedBack (Utf8.encode (defaultsFor .native)))
        { config := some savedPath } = .ok reloaded ∧
      (BuildSettings.ofConfig config).program = "ocamlopt" ∧
      (BuildSettings.ofConfig reloaded).program = "foo" := by
  have hconfig : Program.configuration switchedBack { printConfig := true }
      = .ok (CommandLine.apply { printConfig := true } (Config.stack switchedBackLayers)) := by
    rw [Program.configuration, load_switchedBack]
    rfl
  have htoml : (CommandLine.apply { printConfig := true }
      (Config.stack switchedBackLayers)).toToml = .ok (defaultsFor .native) := by
    decide +kernel
  have hsaves := saves_besideSwitchedBack (defaultsFor .native)
  refine ⟨prints_of_configuration rfl rfl hconfig htoml, hsaves, _, _, hconfig,
    hsaves.configuration userLayer_switchedBack htoml, ?_, ?_⟩
  · decide +kernel
  · decide +kernel

end SourceBundle
