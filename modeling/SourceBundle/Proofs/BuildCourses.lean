import SourceBundle.Build

/-! # Courses — what a build comes to

    A build stops where its entry cannot be bundled, where the bundle cannot be
    stored, or it comes to an outcome.  `Build.course_run` says so once, with
    all that is left behind in each case, so that nothing else has to follow the
    steps of a build. -/

namespace SourceBundle

variable {launch : Launcher} {host : Host} {s : BuildSettings}

/-- The outcome of a build after its compilation. -/
def BuildSettings.outcome (s : BuildSettings) (compilation : Compilation) : Outcome :=
  if compilation.succeeded then .success s.binaryPath else .failure compilation

/-- The stage a build ends in. -/
def Outcome.stage : Outcome → Stage
  | .success _ => .success
  | .failure _ => .failure

/-- The lines that report an outcome. -/
def Outcome.lines : Outcome → List String
  | .success binary => ["Success!!", "Run `" ++ binary.display ++ "` to play"]
  | .failure compilation => "Something went wrong :(" ::
      (if compilation.output = [] then [] else ["\n".intercalate compilation.output])

namespace Build

/-- A report with more lines. -/
def reporting (text : String) (lines : List String) : String :=
  lines.foldl (fun text line => text ++ line ++ "\n") text

/-! ## Steps -/

section Steps

variable {α β : Type} {x : BuildStep α} {f : α → BuildStep β} {p p' : Progress}

/-- A step that succeeds hands its value and what it left to the next one. -/
theorem bind_of_ok {a : α} (h : x p = .ok a p') : (x >>= f) p = f a p' := by
  rw [bind, Monad.toBind, EStateM.instMonad]
  simp only [EStateM.bind, h]

/-- A step that fails ends the build. -/
theorem bind_of_error {cause : BuildError} (h : x p = .error cause p') :
    (x >>= f) p = .error cause p' := by
  rw [bind, Monad.toBind, EStateM.instMonad]
  simp only [EStateM.bind, h]

/-- A stage that may follow is entered, and nothing else changes. -/
theorem enter_of_canAdvance {next : Stage} (h : p.stage.canAdvanceTo next = true) :
    enter next p = .ok () { p with stage := next } := by
  unfold enter Stage.advance
  rw [if_pos h]

theorem report_eq (line : String) :
    report line p = .ok () { p with report := p.report ++ line ++ "\n" } := rfl

/-- Bundling the entry only reads. -/
theorem bundleEntry_of_ok {bundle : Bundle}
    (h : bundleFile p.files s.options s.entry = .ok bundle) :
    bundleEntry s p = .ok bundle p := by
  unfold bundleEntry
  rw [h]

theorem bundleEntry_of_error {cause : BundleError}
    (h : bundleFile p.files s.options s.entry = .error cause) :
    bundleEntry s p = .error (.bundle cause) p := by
  unfold bundleEntry
  rw [h]

theorem storeBundle_of_ok {text : Bytes} {files : FileSystem}
    (h : store p.files s.bundle text = (.ok (), files)) :
    storeBundle s text p = .ok () { p with files := files } := by
  unfold storeBundle
  rw [h]

/-- Where storing fails, what it left on the way is kept. -/
theorem storeBundle_of_error {text : Bytes} {cause : StoreError} {files : FileSystem}
    (h : store p.files s.bundle text = (.error cause, files)) :
    storeBundle s text p = .error (.store cause) { p with files := files } := by
  unfold storeBundle
  rw [h]

/-- The compiler's files replace those it was started on, and its start is noted. -/
theorem runCompiler_eq (env : Environment) (c : Command) :
    runCompiler launch env c p = .ok (compile launch ⟨p.files, env⟩ c).1
      { p with
        files := (compile launch ⟨p.files, env⟩ c).2, started := p.started ++ [(c, p.files)] } :=
  rfl

/-- Behind the compilation a build only reports. -/
theorem conclude_eq (compilation : Compilation) (h : p.stage = .compiling) :
    conclude s compilation p = .ok (s.outcome compilation)
      { p with
        stage := (s.outcome compilation).stage,
        report := reporting p.report (s.outcome compilation).lines } := by
  unfold conclude BuildSettings.outcome
  cases compilation.succeeded with
  | true =>
      rw [if_pos rfl, if_pos rfl, bind_of_ok (enter_of_canAdvance (by rw [h]; rfl)),
        bind_of_ok (report_eq _), bind_of_ok (report_eq _)]
      rfl
  | false =>
      rw [if_neg Bool.false_ne_true, if_neg Bool.false_ne_true,
        bind_of_ok (enter_of_canAdvance (by rw [h]; rfl)), bind_of_ok (report_eq _)]
      by_cases hsilent : compilation.output = []
      · simp only [Outcome.lines, hsilent]
        rfl
      · simp only [Outcome.lines, if_neg hsilent]
        rw [if_pos hsilent, bind_of_ok (report_eq _)]
        rfl

end Steps

/-! ## Whole builds -/

/-- The line that every build reports. -/
def preparing : String := "Preparing .ml files..."

/-- The line that shows a command. -/
def compiling (command : Command) : String := "Compiling... (`" ++ command.display ++ "`)"

/-- Without a bundle, a build ends before it stores anything. -/
theorem run_of_bundle_error {cause : BundleError}
    (hbundle : bundleFile host.files s.options s.entry = .error cause) :
    run launch host s = .error (.bundle cause)
      ⟨.bundling, reporting "" [preparing], host.files, []⟩ := by
  unfold run steps
  rw [bind_of_ok (enter_of_canAdvance rfl), bind_of_ok (report_eq _),
    bind_of_error (bundleEntry_of_error hbundle)]
  rfl

/-- A build whose bundle is not stored ends with the files that storing left. -/
theorem run_of_store_error {bundle : Bundle} {cause : StoreError} {files : FileSystem}
    (hbundle : bundleFile host.files s.options s.entry = .ok bundle)
    (hstore : store host.files s.bundle bundle.text = (.error cause, files)) :
    run launch host s = .error (.store cause)
      ⟨.writing, reporting "" [preparing], files, []⟩ := by
  unfold run steps
  rw [bind_of_ok (enter_of_canAdvance rfl), bind_of_ok (report_eq _),
    bind_of_ok (bundleEntry_of_ok hbundle), bind_of_ok (enter_of_canAdvance rfl),
    bind_of_error (storeBundle_of_error hstore)]
  rfl

/-- A build that stores its bundle runs one command and ends in an outcome. -/
theorem run_of_store_ok {bundle : Bundle} {files left : FileSystem} {command : Command}
    {compilation : Compilation}
    (hbundle : bundleFile host.files s.options s.entry = .ok bundle)
    (hstore : store host.files s.bundle bundle.text = (.ok (), files))
    (hcommand : s.command bundle.libraries = command)
    (hcompile : compile launch ⟨files, host.environment⟩ command = (compilation, left)) :
    run launch host s = .ok (s.outcome compilation)
      ⟨(s.outcome compilation).stage,
        reporting "" (preparing :: compiling command :: (s.outcome compilation).lines),
        left, [(command, files)]⟩ := by
  subst hcommand
  unfold run steps
  rw [bind_of_ok (enter_of_canAdvance rfl), bind_of_ok (report_eq _),
    bind_of_ok (bundleEntry_of_ok hbundle), bind_of_ok (enter_of_canAdvance rfl),
    bind_of_ok (storeBundle_of_ok hstore), bind_of_ok (enter_of_canAdvance rfl),
    bind_of_ok (report_eq _), bind_of_ok (runCompiler_eq _ _), conclude_eq _ rfl]
  dsimp only [fresh]
  rw [hcompile]
  rfl

/-- The courses of a build. -/
inductive Course (launch : Launcher) (host : Host) (s : BuildSettings) :
    EStateM.Result BuildError Progress Outcome → Prop where
  | notBundled {cause : BundleError} :
      bundleFile host.files s.options s.entry = .error cause →
      Course launch host s
        (.error (.bundle cause) ⟨.bundling, reporting "" [preparing], host.files, []⟩)
  | notStored {bundle : Bundle} {cause : StoreError} {files : FileSystem} :
      bundleFile host.files s.options s.entry = .ok bundle →
      store host.files s.bundle bundle.text = (.error cause, files) →
      Course launch host s
        (.error (.store cause) ⟨.writing, reporting "" [preparing], files, []⟩)
  | compiled {bundle : Bundle} {files left : FileSystem} {command : Command}
      {compilation : Compilation} :
      bundleFile host.files s.options s.entry = .ok bundle →
      store host.files s.bundle bundle.text = (.ok (), files) →
      s.command bundle.libraries = command →
      compile launch ⟨files, host.environment⟩ command = (compilation, left) →
      Course launch host s (.ok (s.outcome compilation)
        ⟨(s.outcome compilation).stage,
          reporting "" (preparing :: compiling command :: (s.outcome compilation).lines),
          left, [(command, files)]⟩)

/-- **COURSES**: a build takes one of three courses. -/
theorem course_run (launch : Launcher) (host : Host) (s : BuildSettings) :
    Course launch host s (run launch host s) := by
  cases hbundle : bundleFile host.files s.options s.entry with
  | error cause =>
      rw [run_of_bundle_error hbundle]
      exact .notBundled hbundle
  | ok bundle =>
      rcases hstore : store host.files s.bundle bundle.text with ⟨stored, files⟩
      cases stored with
      | error cause =>
          rw [run_of_store_error hbundle hstore]
          exact .notStored hbundle hstore
      | ok =>
          rw [run_of_store_ok hbundle hstore rfl rfl]
          exact .compiled hbundle hstore rfl rfl

/-- A build that comes to an outcome has bundled and stored, and has started one
    command. -/
theorem stored_of_run {outcome : Outcome} {p : Progress}
    (h : run launch host s = .ok outcome p) :
    ∃ bundle files compilation,
      bundleFile host.files s.options s.entry = .ok bundle ∧
      store host.files s.bundle bundle.text = (.ok (), files) ∧
      p.started = [(s.command bundle.libraries, files)] ∧
      compile launch ⟨files, host.environment⟩ (s.command bundle.libraries)
        = (compilation, p.files) ∧
      outcome = s.outcome compilation := by
  have hcourse := course_run launch host s
  rw [h] at hcourse
  cases hcourse with
  | compiled hbundle hstore hcommand hcompile =>
      subst hcommand
      exact ⟨_, _, _, hbundle, hstore, rfl, hcompile, rfl⟩

end Build

end SourceBundle
