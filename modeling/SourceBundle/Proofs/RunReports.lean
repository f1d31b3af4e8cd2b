import SourceBundle.Proofs.FailedRuns

/-! # Reports of runs — what is written, what comes out, and the exit code

    A run is looked at from outside: the text it writes, its outcome, and the
    exit code of the program.  What decides them is told without following its
    steps: whether the entry can be bundled, whether the bundle can be stored,
    and how the child process ended (`ReportsBuild`).

    The program writes the report as it goes, so the one report that fits is
    read off the course of the run, and the exit code off its result
    (`main_reports`). -/

namespace SourceBundle

variable {launch : Launcher} {host : Host}

/-! ## Lines -/

/-- Lines as they are written, each with its ending. -/
def written (lines : List String) : String := String.join (lines.map (· ++ "\n"))

theorem written_cons (line : String) (lines : List String) :
    written (line :: lines) = line ++ "\n" ++ written lines := by
  rw [written, List.map_cons, String.join_cons]
  rfl

/-- Lines joined by line breaks are one line more than nothing. -/
theorem written_intercalate {lines : List String} (h : lines ≠ []) :
    written ["\n".intercalate lines] = written lines := by
  induction lines with
  | nil => exact absurd rfl h
  | cons line lines ih =>
      cases lines with
      | nil => rw [String.intercalate_singleton]
      | cons next lines =>
          have hrest := ih (List.cons_ne_nil next lines)
          rw [written_cons] at hrest
          rw [written_cons, written_cons line, ← hrest, String.intercalate_cons_cons]
          simp only [String.append_assoc]

/-- Reporting lines writes them one behind the other. -/
theorem Build.reporting_eq (text : String) (lines : List String) :
    Build.reporting text lines = text ++ written lines := by
  induction lines generalizing text with
  | nil => exact String.append_empty.symm
  | cons line lines ih =>
      rw [Build.reporting, List.foldl_cons, written_cons]
      exact (ih _).trans (by simp only [String.append_assoc])

/-! ## The child process -/

/-- The child process ran, and ended by itself with code 0. -/
def ExitedWell (child : Except OsError Child) : Prop :=
  ∃ c, child = .ok c ∧ c.exit = .code 0

/-- The lines that a child process leaves to be shown: those of its standard
    output before those of standard error, or the one that says why it was not
    started. -/
def captured (program : String) : Except OsError Child → List String
  | .ok child => lines (Utf8.decodeLossy child.stdout) ++ lines (Utf8.decodeLossy child.stderr)
  | .error cause => ["failed to launch `" ++ program ++ "`: " ++ cause.message]

/-- A child succeeded if it exited with code 0. -/
theorem succeeded_ofChild_iff (child : Child) :
    (Compilation.ofChild child).succeeded = true ↔ child.exit = .code 0 := by
  unfold Compilation.succeeded Compilation.ofChild
  cases child.exit with
  | code n => simp
  | signal n => simp

/-- A compilation is a success exactly if its child exited well. -/
theorem succeeded_compile_iff (launch : Launcher) (host : Host) (command : Command) :
    (compile launch host command).1.succeeded = true ↔
      ExitedWell (start launch host command) := by
  unfold compile ExitedWell
  cases start launch host command with
  | ok child =>
      rw [succeeded_ofChild_iff]
      constructor
      · intro hexit
        exact ⟨child, rfl, hexit⟩
      · rintro ⟨child', h, hexit⟩
        rw [Except.ok.inj h]
        exact hexit
  | error cause =>
      constructor
      · intro h
        cases h
      · rintro ⟨child, h, -⟩
        cases h

/-- The output of a compilation is what was captured of its child. -/
theorem output_compile (launch : Launcher) (host : Host) (command : Command) :
    (compile launch host command).1.output
      = captured command.program (start launch host command) := by
  unfold compile
  cases start launch host command <;> rfl

/-- The lines of a failure are all that was captured. -/
theorem written_failure (compilation : Compilation) :
    written (Outcome.failure compilation).lines
      = written ("Something went wrong :(" :: compilation.output) := by
  rw [Outcome.lines, written_cons, written_cons]
  by_cases hsilent : compilation.output = []
  · rw [if_pos hsilent, hsilent]
  · rw [if_neg hsilent, written_intercalate hsilent]

/-! ## Builds -/

namespace Program

variable {session : Session}

/-- The result and the report of a run that builds, by what becomes of the
    bundle and of the child process. -/
structure ReportsBuild (launch : Launcher) (session : Session) (s : BuildSettings) (r : Run) :
    Prop where
  notBundled : ∀ cause, bundleFile session.files s.options s.entry = .error cause →
    r.result = .error (.build (.bundle cause)) ∧
    r.output = written ["Preparing .ml files..."]
  notStored : ∀ bundle cause files,
    bundleFile session.files s.options s.entry = .ok bundle →
    store session.files s.bundle bundle.text = (.error cause, files) →
    r.result = .error (.build (.store cause)) ∧
    r.output = written ["Preparing .ml files..."]
  compiled : ∀ bundle files,
    bundleFile session.files s.options s.entry = .ok bundle →
    store session.files s.bundle bundle.text = (.ok (), files) →
    ∃ command, r.started = [(command, files)] ∧
      (ExitedWell (start launch ⟨files, session.environment⟩ command) →
        r.result = .ok (some (.success (s.binDir.join (Path.ofText s.binary)))) ∧
        r.output = written ["Preparing .ml files...",
          "Compiling... (`" ++ command.display ++ "`)", "Success!!",
          "Run `" ++ (s.binDir.join (Path.ofText s.binary)).display ++ "` to play"]) ∧
      (¬ ExitedWell (start launch ⟨files, session.environment⟩ command) →
        (∃ compilation, r.result = .ok (some (.failure compilation))) ∧
        r.output = written ("Preparing .ml files..." ::
          ("Compiling... (`" ++ command.display ++ "`)") :: "Something went wrong :(" ::
          captured command.program (start launch ⟨files, session.environment⟩ command)))

/-- A build that stores its bundle starts one command and reports how that ended. -/
theorem build_of_store_ok (launch : Launcher) {s : BuildSettings} {bundle : Bundle}
    {files : FileSystem} (hbundle : bundleFile session.files s.options s.entry = .ok bundle)
    (hstore : store session.files s.bundle bundle.text = (.ok (), files)) :
    let command := s.command bundle.libraries
    let outcome := s.outcome (compile launch ⟨files, session.environment⟩ command).1
    (build launch session s).result = .ok (some outcome) ∧
      (build launch session s).output
        = written (Build.preparing :: Build.compiling command :: outcome.lines) ∧
      (build launch session s).started = [(command, files)] := by
  rw [build, Build.run_of_store_ok hbundle hstore rfl rfl, Build.reporting_eq,
    String.empty_append]
  exact ⟨rfl, rfl, rfl⟩

/-- Every build reports what becomes of it. -/
theorem build_reports (launch : Launcher) (session : Session) (s : BuildSettings) :
    ReportsBuild launch session s (build launch session s) := by
  refine ⟨?_, ?_, ?_⟩
  · intro cause hbundle
    rw [build, Build.run_of_bundle_error hbundle, Build.reporting_eq, String.empty_append]
    exact ⟨rfl, rfl⟩
  · intro bundle cause files hbundle hstore
    rw [build, Build.run_of_store_error hbundle hstore, Build.reporting_eq,
      String.empty_append]
    exact ⟨rfl, rfl⟩
  · intro bundle files hbundle hstore
    obtain ⟨hresult, houtput, hstarted⟩ := build_of_store_ok launch hbundle hstore
    refine ⟨s.command bundle.libraries, hstarted, ?_, ?_⟩
    · intro hexit
      rw [hresult, houtput, BuildSettings.outcome,
        if_pos ((succeeded_compile_iff _ _ _).mpr hexit)]
      exact ⟨rfl, rfl⟩
    · intro hexit
      rw [hresult, houtput, BuildSettings.outcome,
        if_neg (mt (succeeded_compile_iff _ _ _).mp hexit)]
      refine ⟨⟨_, rfl⟩, ?_⟩
      rw [written_cons, written_cons, written_failure, output_compile, ← written_cons,
        ← written_cons]
      rfl

/-! ## Runs -/

/-- The exit code tells the kinds of results apart. -/
theorem exitCode_iff (r : Run) :
    (exitCode r = 0 ↔
      r.result = .ok none ∨ ∃ binary, r.result = .ok (some (.success binary))) ∧
    (exitCode r = 1 ↔ ∃ compilation, r.result = .ok (some (.failure compilation))) ∧
    (exitCode r = 2 ↔ ∃ cause, r.result = .error cause) := by
  unfold exitCode
  match r.result with
  | .error cause => simp
  | .ok none => simp
  | .ok (some (.success binary)) => simp [Outcome.succeeded]
  | .ok (some (.failure compilation)) => simp [Outcome.succeeded]

/-- A run succeeds exactly if it started a command whose child exited well. -/
theorem Course.success_iff {c : CommandLine} {r : Run} (h : Course launch session c r) :
    (∃ binary, r.result = .ok (some (.success binary))) ↔
      ∃ command files, (command, files) ∈ r.started ∧
        ExitedWell (start launch ⟨files, session.environment⟩ command) := by
  cases h with
  | completions | notConfigured | notPrinted | printed => simp [quiet]
  | stopped _ _ _ hcourse => cases hcourse <;> simp
  | built _ _ _ hcourse =>
      cases hcourse with
      | @compiled bundle files left command compilation hbundle hstore hcommand hcompile =>
          have hexit := succeeded_compile_iff launch ⟨files, session.environment⟩ command
          rw [hcompile] at hexit
          constructor
          · rintro ⟨binary, hbinary⟩
            refine ⟨command, files, List.mem_singleton_self _, hexit.mp ?_⟩
            by_contra hfailed
            rw [BuildSettings.outcome, if_neg hfailed] at hbinary
            cases hbinary
          · rintro ⟨command', files', hstarted, hexited⟩
            obtain ⟨rfl, rfl⟩ := Prod.mk.inj (List.mem_singleton.mp hstarted)
            rw [BuildSettings.outcome, if_pos (hexit.mpr hexited)]
            exact ⟨_, rfl⟩

/-- A command line that can be read is carried out. -/
theorem main_of_parse {words : List Bytes} {c : CommandLine}
    (hparse : CommandLine.parse words = .ok c) :
    main launch session words = endingOf (run launch session c) := by
  rw [main, hparse]

/-- **REPORT, OUTCOME, EXIT CODE**: for a command line that can be read, nothing
    is written if there is no configuration, and a build writes the one report
    that fits what becomes of the bundle and of the child process.  The outcome
    is a success exactly if the child of the command started exited with code 0.
    The exit code is 0 for a success and for a run without a build, 1 for a
    failed compilation and 2 for every error. -/
theorem main_reports (launch : Launcher) (session : Session) (words : List Bytes)
    (c : CommandLine) (hparse : CommandLine.parse words = .ok c) :
    (main launch session words).stdout = (run launch session c).output ∧
    (∀ cause, c.completions = none → configuration session c = .error cause →
      (run launch session c).result = .error (.config cause) ∧
      (run launch session c).output = "") ∧
    (∀ config, c.completions = none → configuration session c = .ok config →
      c.printConfig = false →
      ReportsBuild launch session (.ofConfig config) (run launch session c)) ∧
    (c.completions ≠ none → (run launch session c).result = .ok none) ∧
    (∀ config text, c.completions = none → configuration session c = .ok config →
      c.printConfig = true → config.toToml = .ok text →
      (run launch session c).result = .ok none ∧ (run launch session c).output = text) ∧
    ((∃ binary, (run launch session c).result = .ok (some (.success binary))) ↔
      ∃ command files, (command, files) ∈ (run launch session c).started ∧
        ExitedWell (start launch ⟨files, session.environment⟩ command)) ∧
    ((main launch session words).exitCode = 0 ↔ (run launch session c).result = .ok none ∨
      ∃ binary, (run launch session c).result = .ok (some (.success binary))) ∧
    ((main launch session words).exitCode = 1 ↔
      ∃ compilation, (run launch session c).result = .ok (some (.failure compilation))) ∧
    ((main launch session words).exitCode = 2 ↔
      ∃ cause, (run launch session c).result = .error cause) := by
  rw [main_of_parse hparse]
  refine ⟨rfl, ?_, ?_, ?_, ?_, (course_run launch session c).success_iff, exitCode_iff _⟩
  · intro cause hcompletions hconfig
    rw [run, hcompletions, hconfig]
    exact ⟨rfl, rfl⟩
  · intro config hcompletions hconfig hprint
    rw [run_eq_build hcompletions hconfig hprint]
    exact build_reports launch session _
  · intro hcompletions
    obtain ⟨shell, hshell⟩ := Option.ne_none_iff_exists'.mp hcompletions
    rw [run, hshell]
    rfl
  · intro config text hcompletions hconfig hprint htoml
    rw [run, hcompletions, hconfig]
    dsimp only
    rw [if_pos hprint, htoml]
    exact ⟨rfl, rfl⟩

/-- The words of `besideSourceLine`. -/
def besideSource : List Bytes :=
  ["--entry", "/m", "--bundle", "/b"].map Utf8.encode

/-- A compiler that fails, with a blank line in what it writes and no ending
    behind the last line of its standard output. -/
def complaining : Launcher := fun host _ =>
  .ok ⟨.code 3, Utf8.encode "one\n\ntwo", Utf8.encode "three\n", host.files⟩

/-- The bundle finds room beside its source. -/
theorem store_besideSource (text : Bytes) :
    store lonelySource.files (Path.ofText "/b") text
      = (.ok (), lonelySource.files.insert [Utf8.encode "b"] (.file text false)) := by
  have hparent : directoryOf? (Path.ofText "/b") = some (Path.ofText "/") := by
    decide +kernel
  have hdirectory : lonelySource.files.isDirectory (Path.ofText "/") = true := by
    cbv
  have hlocate : lonelySource.files.locate .create (Path.ofText "/b")
      = .ok [Utf8.encode "b"] := by
    cbv
  have hnone : lonelySource.files.entryOf? [Utf8.encode "b"] = none := by
    decide +kernel
  exact store_of_written hparent hdirectory hlocate
    (.created hnone (fits_of_no_limit rfl text))

/-- The captured lines stand behind the line of the failure, each once. -/
theorem main_reports_complaining :
    CommandLine.parse besideSource = .ok besideSourceLine ∧
    (main complaining lonelySource besideSource).stdout
      = "Preparing .ml files...\n"
        ++ "Compiling... (`ocamlopt -o ../bin/BigCitiesOnTinyPlanets.exe /b`)\n"
        ++ "Something went wrong :(\none\n\ntwo\nthree\n" ∧
    (main complaining lonelySource besideSource).exitCode = 1 := by
  have hparse : CommandLine.parse besideSource = .ok besideSourceLine := by
    cbv
  have hconfig := configuration_lonelySource (c := besideSourceLine) rfl
  have hstarted : (run complaining lonelySource besideSourceLine).started = _ :=
    started_of_stored rfl rfl hconfig (bundleFile_lonelySource _) (store_besideSource _)
  obtain ⟨houtput, -, hbuilt, -, -, -, -, hfailed, -⟩ :=
    main_reports complaining lonelySource besideSource besideSourceLine hparse
  obtain ⟨command, hcommand, -, hfailure⟩ := (hbuilt _ rfl hconfig rfl).compiled _ _
    (bundleFile_lonelySource _) (store_besideSource _)
  have hwords : command = ⟨["ocamlopt", "-o", "../bin/BigCitiesOnTinyPlanets.exe", "/b"]⟩ := by
    have hsame := congrArg Prod.fst (List.singleton_inj.mp (hcommand.symm.trans hstarted))
    exact hsame.trans (by decide +kernel)
  have hchild : ∀ files, start complaining ⟨files, lonelySource.environment⟩ command
      = .ok ⟨.code 3, Utf8.encode "one\n\ntwo", Utf8.encode "three\n", files⟩ := by
    intro files
    rw [hwords, start, if_neg (by decide +kernel)]
    rfl
  obtain ⟨hresult, htext⟩ := hfailure (by
    rintro ⟨child, hrun, hexit⟩
    obtain rfl := Except.ok.inj ((hchild _).symm.trans hrun)
    cases hexit)
  have hshown : Command.display ⟨["ocamlopt", "-o", "../bin/BigCitiesOnTinyPlanets.exe", "/b"]⟩
      = "ocamlopt -o ../bin/BigCitiesOnTinyPlanets.exe /b" := by
    decide +kernel
  have hlines : ∀ program files, captured program
      (.ok ⟨.code 3, Utf8.encode "one\n\ntwo", Utf8.encode "three\n", files⟩)
      = ["one", "", "two", "three"] := by
    intro program files
    cbv
  refine ⟨hparse, ?_, hfailed.mpr hresult⟩
  rw [houtput, htext, hchild, hlines, hwords, hshown]
  decide +kernel

end Program

end SourceBundle
