import SourceBundle.Program
import SourceBundle.Proofs.BuildCourses
import SourceBundle.Proofs.ConfigLayers
import SourceBundle.Proofs.Destinations

/-! # Failed runs — errors come before any damage

    A run that stops before the bundle is stored has only read, however many
    files that were.  A run that cannot store the bundle has made at most the
    directories above it, unless the bundle's file was opened and the write
    stopped.  The compiler sees a file system on which the bundle is stored, or it
    is not started (`run_harmless`).

    A file that is opened loses what it held before the first byte is written, so
    on a full disk the bundle of an earlier run is lost (`bundle_lost_on_fullDisk`). -/

namespace SourceBundle

variable {launch : Launcher} {session : Session} {c : CommandLine}

namespace Program

/-! ## Courses -/

/-- The courses of a run. -/
inductive Course (launch : Launcher) (session : Session) (c : CommandLine) : Run → Prop where
  | completions {shell : CompletionShell} :
      c.completions = some shell →
      Course launch session c (quiet session (.ok none) (completionScript shell))
  | notConfigured {cause : ConfigError} :
      c.completions = none → configuration session c = .error cause →
      Course launch session c (quiet session (.error (.config cause)) "")
  | notPrinted {config : Config} {cause : PathNotText} :
      c.completions = none → configuration session c = .ok config → c.printConfig = true →
      config.toToml = .error cause →
      Course launch session c (quiet session (.error (.render cause)) "")
  | printed {config : Config} {text : String} :
      c.completions = none → configuration session c = .ok config → c.printConfig = true →
      config.toToml = .ok text → Course launch session c (quiet session (.ok none) text)
  | stopped {config : Config} {cause : BuildError} {p : Progress} :
      c.completions = none → configuration session c = .ok config → c.printConfig = false →
      Build.Course launch session.toHost (.ofConfig config) (.error cause p) →
      Course launch session c ⟨.error (.build cause), p.report, p.files, p.started⟩
  | built {config : Config} {outcome : Outcome} {p : Progress} :
      c.completions = none → configuration session c = .ok config → c.printConfig = false →
      Build.Course launch session.toHost (.ofConfig config) (.ok outcome p) →
      Course launch session c ⟨.ok (some outcome), p.report, p.files, p.started⟩

/-- A run that neither completes nor prints builds with its configuration. -/
theorem run_eq_build {config : Config} (hcompletions : c.completions = none)
    (hconfig : configuration session c = .ok config) (hprint : c.printConfig = false) :
    run launch session c = build launch session (.ofConfig config) := by
  rw [run, hcompletions, hconfig]
  dsimp only
  rw [hprint, if_neg Bool.false_ne_true]

/-- A run takes one of these courses. -/
theorem course_run (launch : Launcher) (session : Session) (c : CommandLine) :
    Course launch session c (run launch session c) := by
  cases hcompletions : c.completions with
  | some shell =>
      rw [run, hcompletions]
      exact .completions hcompletions
  | none =>
      cases hconfig : configuration session c with
      | error cause =>
          rw [run, hcompletions, hconfig]
          exact .notConfigured hcompletions hconfig
      | ok config =>
          cases hprint : c.printConfig with
          | true =>
              rw [run, hcompletions, hconfig]
              dsimp only
              rw [if_pos hprint]
              cases htoml : config.toToml with
              | error cause => exact .notPrinted hcompletions hconfig hprint htoml
              | ok text => exact .printed hcompletions hconfig hprint htoml
          | false =>
              have hcourse := Build.course_run launch session.toHost (.ofConfig config)
              rw [run_eq_build hcompletions hconfig hprint, build]
              cases hrun : Build.run launch session.toHost (.ofConfig config) with
              | ok outcome p =>
                  rw [hrun] at hcourse
                  exact .built hcompletions hconfig hprint hcourse
              | error cause p =>
                  rw [hrun] at hcourse
                  exact .stopped hcompletions hconfig hprint hcourse

/-! ## What each course leaves -/

/-- Until the bundle is stored, a run only reads. -/
theorem Course.unchanged {r : Run} (h : Course launch session c r)
    (hbuilt : ∀ outcome, r.result ≠ .ok (some outcome))
    (hstored : ∀ cause, r.result ≠ .error (.build (.store cause))) :
    r.files = session.files ∧ r.started = [] := by
  cases h with
  | completions | notConfigured | notPrinted | printed => exact ⟨rfl, rfl⟩
  | stopped _ _ _ hcourse =>
      cases hcourse with
      | notBundled => exact ⟨rfl, rfl⟩
      | notStored => exact absurd rfl (hstored _)
  | built => exact absurd rfl (hbuilt _)

/-- The bundle was made and could not be stored. -/
theorem Course.store_of_store_error {r : Run} {cause : StoreError}
    (h : Course launch session c r) (hresult : r.result = .error (.build (.store cause))) :
    r.started = [] ∧ ∃ config bundle, configuration session c = .ok config ∧
      bundleFile session.files (BuildSettings.ofConfig config).options config.entry
        = .ok bundle ∧
      store session.files config.bundlePath bundle.text = (.error cause, r.files) := by
  cases h with
  | completions | notConfigured | notPrinted | printed | built => cases hresult
  | stopped _ hconfig _ hcourse =>
      cases hcourse with
      | notBundled => cases hresult
      | notStored hbundle hstore =>
          obtain rfl := by simpa using hresult
          exact ⟨rfl, _, _, hconfig, hbundle, hstore⟩

/-- Whatever was started was started on a stored bundle. -/
theorem Course.stored_of_started {r : Run} {command : Command} {files : FileSystem}
    (h : Course launch session c r) (hstarted : (command, files) ∈ r.started) :
    c.completions = none ∧ c.printConfig = false ∧
      ∃ config bundle, configuration session c = .ok config ∧
        bundleFile session.files (BuildSettings.ofConfig config).options config.entry
          = .ok bundle ∧
        store session.files config.bundlePath bundle.text = (.ok (), files) ∧
        (BuildSettings.ofConfig config).command bundle.libraries = command := by
  cases h with
  | completions | notConfigured | notPrinted | printed => cases hstarted
  | stopped _ _ _ hcourse => cases hcourse <;> cases hstarted
  | built hcompletions hconfig hprint hcourse =>
      cases hcourse with
      | compiled hbundle hstore hcommand =>
          -- one command is started, and this is the file system it finds
          obtain ⟨rfl, rfl⟩ := Prod.mk.inj (List.mem_singleton.mp hstarted)
          exact ⟨hcompletions, hprint, _, _, hconfig, hbundle, hstore, hcommand⟩

/-- Where the bundle is stored, one command is started. -/
theorem started_of_stored {config : Config} {bundle : Bundle} {files : FileSystem}
    (hcompletions : c.completions = none) (hprint : c.printConfig = false)
    (hconfig : configuration session c = .ok config)
    (hbundle : bundleFile session.files (BuildSettings.ofConfig config).options config.entry
      = .ok bundle)
    (hstore : store session.files config.bundlePath bundle.text = (.ok (), files)) :
    (run launch session c).started
      = [((BuildSettings.ofConfig config).command bundle.libraries, files)] := by
  rw [run_eq_build hcompletions hconfig hprint, build,
    Build.run_of_store_ok (s := .ofConfig config) hbundle hstore rfl rfl]

/-- **ERRORS BEFORE DAMAGE**: a run without a build, or with an error from
    before the bundle is stored, leaves the file system as it was and starts
    nothing.  Where the bundle cannot be stored, nothing is started either.  Then
    all that was there is unchanged and what is new are directories above the
    bundle, or the bundle's file was opened and the write stopped at the limit:
    besides those directories, that file alone is changed, and holds the front of
    the bundle.  A command is started exactly where the bundle is stored, and on
    the file system that this leaves. -/
theorem run_harmless (launch : Launcher) (session : Session) (c : CommandLine) :
    ((∀ outcome, (run launch session c).result ≠ .ok (some outcome)) →
      (∀ cause, (run launch session c).result ≠ .error (.build (.store cause))) →
      (run launch session c).files = session.files ∧ (run launch session c).started = []) ∧
    (∀ cause, (run launch session c).result = .error (.build (.store cause)) →
      (run launch session c).started = [] ∧
      ∃ config bundle, configuration session c = .ok config ∧
        bundleFile session.files (BuildSettings.ofConfig config).options config.entry
          = .ok bundle ∧
        ((∀ p content, session.files.contents p = .ok content →
            (run launch session c).files.contents p = .ok content) ∧
          AddsDirectories (AboveFile config.bundlePath) session.files
            (run launch session c).files ∨
        ∃ limit, cause = .file config.bundlePath limit.cause ∧
          CutShort session.files config.bundlePath bundle.text limit
            (run launch session c).files)) ∧
    ∀ command files, (command, files) ∈ (run launch session c).started ↔
      c.completions = none ∧ c.printConfig = false ∧
        ∃ config bundle, configuration session c = .ok config ∧
          bundleFile session.files (BuildSettings.ofConfig config).options config.entry
            = .ok bundle ∧
          store session.files config.bundlePath bundle.text = (.ok (), files) ∧
          (BuildSettings.ofConfig config).command bundle.libraries = command := by
  have hcourse := course_run launch session c
  refine ⟨hcourse.unchanged, ?_, ?_⟩
  · intro cause hresult
    obtain ⟨hstarted, config, bundle, hconfig, hbundle, hstore⟩ :=
      hcourse.store_of_store_error hresult
    refine ⟨hstarted, config, bundle, hconfig, hbundle, ?_⟩
    rcases adds_or_cutShort hstore with hadds | hcut
    · exact .inl ⟨fun _ _ => contents_grows hadds.grows, hadds⟩
    · exact .inr hcut
  · intro command files
    constructor
    · exact hcourse.stored_of_started
    · rintro ⟨hcompletions, hprint, config, bundle, hconfig, hbundle, hstore, rfl⟩
      rw [started_of_stored hcompletions hprint hconfig hbundle hstore]
      exact List.mem_singleton_self _

/-! ## One source -/

/-- A source that can be bundled, and nothing else. -/
def lonelySource : Session :=
  { files := ⟨[([Utf8.encode "m"], .file (Utf8.encode "let x = 1\n") false)], [], none⟩,
    environment := ⟨[]⟩, configDir := none }

/-- That source beside the bundle `b` of an earlier run, and no room on the disk. -/
def fullDisk : Session :=
  { files := ⟨[([Utf8.encode "b"], .file (Utf8.encode "let x = 2\n") false),
      ([Utf8.encode "m"], .file (Utf8.encode "let x = 1\n") false)], [], some ⟨0, .noSpace⟩⟩,
    environment := ⟨[]⟩, configDir := none }

/-- A command line that wants the bundle where only a directory can stand. -/
def intoDirectory : CommandLine :=
  { entry := some (Path.ofText "/m"), bundle := some (Path.ofText "/out/b/") }

/-- A command line that wants the bundle beside the source. -/
def besideSourceLine : CommandLine :=
  { entry := some (Path.ofText "/m"), bundle := some (Path.ofText "/b") }

/-- What is left: the directory above the one that the bundle was to be. -/
def outMade : FileSystem := lonelySource.files.insert [Utf8.encode "out"] .directory

/-- No program can be started. -/
def nothingStarts : Launcher := fun _ _ => .error .noSuchFile

/-- Without configuration files and variables, the defaults are below the command line. -/
theorem configuration_of_nothing_set (hnamed : c.config = none)
    (huser : session.configDir = none) (hvariables : session.environment = ⟨[]⟩)
    (hworkspace : session.files.pathExists Config.workspaceFile = false) :
    configuration session c = .ok (c.apply Config.builtIn) := by
  obtain ⟨⟨files, environment⟩, configDir⟩ := session
  dsimp only at huser hvariables hworkspace
  subst huser hvariables
  have hmissing : Config.ofFileIfThere files Config.workspaceFile = .ok {} :=
    ofFileIfThere_eq_ok_iff.mpr (.missing hworkspace)
  have hload : Config.load ⟨⟨files, ⟨[]⟩⟩, none⟩ none = .ok Config.builtIn := by
    rw [load_eq, defaults_eq, Config.workspacePath, Option.getD_none]
    dsimp only
    rw [hmissing]
    rfl
  rw [configuration, hnamed, hload]
  rfl

theorem configuration_lonelySource (hnamed : c.config = none) :
    configuration lonelySource c = .ok (c.apply Config.builtIn) :=
  configuration_of_nothing_set hnamed rfl rfl (by cbv)

/-- No file can be made where a slash asks for a directory. -/
theorem store_intoDirectory (text : Bytes) :
    store lonelySource.files (Path.ofText "/out/b/") text
      = (.error (.file (Path.ofText "/out/b/") .isADirectory), outMade) := by
  have hparent : directoryOf? (Path.ofText "/out/b/") = some (Path.ofText "/out") := by
    decide +kernel
  have hmade : lonelySource.files.createDirectories (Path.ofText "/out") = (.ok (), outMade) := by
    cbv
  have hlocate : outMade.locate .create (Path.ofText "/out/b/") = .error .isADirectory := by
    cbv
  rw [store, hparent]
  dsimp only
  rw [hmade]
  dsimp only
  rw [storeFile, FileSystem.overwrite, hlocate]

theorem bundleFile_lonelySource (o : BundleOptions) :
    bundleFile lonelySource.files o (Path.ofText "/m")
      = .ok ⟨Utf8.encode "let x = 1\n", []⟩ :=
  bundleFile_of_scan_nil (by decide +kernel) (by cbv)

/-- The directory on the way is new, the source is as it was, and no command is
    started. -/
theorem run_harmless_intoDirectory :
    ∃ cause, (run nothingStarts lonelySource intoDirectory).result
        = .error (.build (.store cause)) ∧
      (run nothingStarts lonelySource intoDirectory).started = [] ∧
      (run nothingStarts lonelySource intoDirectory).files = outMade ∧
      (run nothingStarts lonelySource intoDirectory).files.contents (Path.ofText "/m")
        = .ok (Utf8.encode "let x = 1\n") := by
  have hrun : run nothingStarts lonelySource intoDirectory
      = ⟨.error (.build (.store (.file (Path.ofText "/out/b/") .isADirectory))),
        Build.reporting "" [Build.preparing], outMade, []⟩ := by
    rw [run_eq_build rfl (configuration_lonelySource rfl) rfl, build,
      Build.run_of_store_error (bundleFile_lonelySource _) (store_intoDirectory _)]
  have hresult := congrArg Run.result hrun
  obtain ⟨hstarted, config, bundle, -, -, hleft⟩ :=
    (run_harmless nothingStarts lonelySource intoDirectory).2.1 _ hresult
  refine ⟨_, hresult, hstarted, congrArg Run.files hrun, ?_⟩
  rcases hleft with ⟨hread, -⟩ | ⟨limit, -, hcut⟩
  · exact hread _ _ (by cbv)
  · -- there is room for everything
    cases hcut.limited

/-- The old bundle is gone, though the new one cannot be stored. -/
theorem bundle_lost_on_fullDisk :
    fullDisk.files.contents (Path.ofText "/b") = .ok (Utf8.encode "let x = 2\n") ∧
    (∃ cause, (run nothingStarts fullDisk besideSourceLine).result
      = .error (.build (.store cause))) ∧
    (run nothingStarts fullDisk besideSourceLine).files.contents (Path.ofText "/b")
      = .ok [] := by
  have hconfig : configuration fullDisk besideSourceLine
      = .ok (besideSourceLine.apply Config.builtIn) :=
    configuration_of_nothing_set rfl rfl rfl (by cbv)
  have hbundle : ∀ o, bundleFile fullDisk.files o (Path.ofText "/m")
      = .ok ⟨Utf8.encode "let x = 1\n", []⟩ := fun _ =>
    bundleFile_of_scan_nil (by decide +kernel) (by cbv)
  have hstore : store fullDisk.files (Path.ofText "/b") (Utf8.encode "let x = 1\n")
      = (.error (.file (Path.ofText "/b") .noSpace),
        fullDisk.files.insert [Utf8.encode "b"] (.file [] false)) := by
    cbv
  have hrun : run nothingStarts fullDisk besideSourceLine
      = ⟨.error (.build (.store (.file (Path.ofText "/b") .noSpace))),
        Build.reporting "" [Build.preparing],
        fullDisk.files.insert [Utf8.encode "b"] (.file [] false), []⟩ := by
    rw [run_eq_build rfl hconfig rfl, build, Build.run_of_store_error (hbundle _) hstore]
  rw [hrun]
  exact ⟨by cbv, ⟨_, rfl⟩, by cbv⟩

end Program

end SourceBundle
