import SourceBundle.Proofs.CompilerWords
import SourceBundle.Proofs.Destinations

/-! # Started commands — the words of a build, and what they find

    A command is put together from a draft that is given its libraries one by one
    or several at a time; only their order shows in its words (`tokens_feed`).

    A build asks for one start, of its program with these words, on the file system
    that holds the bundle.  The words go to the system as they are unless one holds
    a NUL, which no word of a process can.  What the build comes to is then decided
    by the one child that the system starts, or by its refusal (`Build.run_starts`).
    A build with a NUL in the name of a library starts nothing (`run_nulLibrary`). -/

namespace SourceBundle

/-! ## Drafts -/

/-- Libraries as a draft is given them: one by itself, or several at once. -/
inductive Feed where
  | one (name : String)
  | batch (names : List String)
  deriving DecidableEq, Repr

/-- The libraries of a feed, in their order. -/
def Feed.names : Feed → List String
  | .one name => [name]
  | .batch names => names

namespace CommandDraft

/-- A draft that was given libraries once. -/
def accept (d : CommandDraft) : Feed → CommandDraft
  | .one name => d.library name
  | .batch names => d.libraries names

/-- A draft that was given libraries several times. -/
def feed (d : CommandDraft) (feeds : List Feed) : CommandDraft := feeds.foldl accept d

/-- A feed puts its names behind the tokens. -/
theorem tokens_accept (d : CommandDraft) (f : Feed) :
    (d.accept f).tokens = d.tokens ++ f.names := by
  cases f with
  | one name => rfl
  | batch names => exact d.tokens_libraries names

/-- **ORDER ALONE**: how the libraries were cut into feeds does not show. -/
theorem tokens_feed (d : CommandDraft) (feeds : List Feed) :
    (d.feed feeds).tokens = d.tokens ++ feeds.flatMap Feed.names := by
  -- a feed leaves another draft, so the induction is for every draft
  induction feeds generalizing d with
  | nil => exact (List.append_nil _).symm
  | cons f feeds ih =>
      have hrest := ih (d.accept f)
      rw [tokens_accept, List.append_assoc] at hrest
      exact hrest

end CommandDraft

/-- Whatever way its libraries are fed to it, a build's draft becomes its command. -/
theorem BuildSettings.command_of_feeds (s : BuildSettings) {libraries : List String}
    {feeds : List Feed} (h : feeds.flatMap Feed.names = libraries) :
    ((CommandDraft.begin s.program s.backend.flags s.binaryPath).feed feeds).finish s.bundle
      = s.command libraries := by
  rw [BuildSettings.command, CommandDraft.finish, CommandDraft.finish,
    CommandDraft.tokens_feed, CommandDraft.tokens_libraries, h]

/-- The program of a command is that of the settings. -/
theorem BuildSettings.program_command (s : BuildSettings) (libraries : List String) :
    (s.command libraries).program = s.program := by
  simp only [BuildSettings.command, CommandDraft.finish, CommandDraft.tokens_libraries,
    CommandDraft.begin, Command.program, List.cons_append, List.headD_cons]

/-- The libraries stand between the binary and the bundle. -/
theorem BuildSettings.args_command (s : BuildSettings) (libraries : List String) :
    (s.command libraries).args
      = s.backend.flags ++ ["-o", s.binaryPath.display] ++ libraries
        ++ [s.bundle.display] := by
  simp only [BuildSettings.command, CommandDraft.finish, CommandDraft.tokens_libraries,
    CommandDraft.begin, Command.args, List.cons_append, List.tail_cons]

/-! ## Starts -/

variable {launch : Launcher} {host : Host}

/-- Words without a NUL are passed on as they are. -/
theorem start_of_no_nul {c : Command} (h : ∀ word ∈ c.words, 0 ∉ word) :
    start launch host c = launch host c.words := by
  have hclean : ¬ (c.words.any fun word => word.contains 0) = true := by
    rw [List.any_eq_true]
    rintro ⟨word, hword, hnul⟩
    exact h word hword (List.contains_iff_mem.mp hnul)
  exact if_neg hclean

/-- A NUL in a word keeps the launcher from being asked. -/
theorem start_of_nul {c : Command} (h : ∃ word ∈ c.words, 0 ∈ word) :
    start launch host c = .error .nulInArgument := by
  obtain ⟨word, hword, hnul⟩ := h
  have hdirty : (c.words.any fun word => word.contains 0) = true :=
    List.any_eq_true.mpr ⟨word, hword, List.contains_iff_mem.mpr hnul⟩
  exact if_pos hdirty

/-- What a build comes to, and the file system it leaves, by the answer to its start:
    the child process that ran, or why there is none. -/
def BuildSettings.afterStart (s : BuildSettings) (files : FileSystem) :
    Except OsError Child → Outcome × FileSystem
  | .ok child => (s.outcome (.ofChild child), child.files)
  | .error cause => (.failure (.notLaunched s.program cause), files)

/-- The outcome of a compilation is read off the answer to its start. -/
theorem BuildSettings.outcome_compile (s : BuildSettings) (launch : Launcher)
    (files : FileSystem) (env : Environment) (libraries : List String) :
    (s.outcome (compile launch ⟨files, env⟩ (s.command libraries)).1,
        (compile launch ⟨files, env⟩ (s.command libraries)).2)
      = s.afterStart files (start launch ⟨files, env⟩ (s.command libraries)) := by
  unfold compile
  cases start launch ⟨files, env⟩ (s.command libraries) with
  | ok child => rfl
  | error cause =>
      rw [BuildSettings.program_command]
      rfl

/-- **ONE START**: a build that bundles and stores asks for one start, of its program with
    the flags of the backend, `-o` and the binary, the libraries of the bundle as they
    are, each one word, and the bundle last.  It finds a file system on which the
    destination holds the text of the bundle, unless that is a device.  If no
    word holds a NUL the system is asked with exactly these words, and the build ends as
    the one child that is started does, or as a failure if none can be; words with a NUL
    are not passed on.  The command is the same in whatever way the libraries are fed to
    its draft. -/
theorem Build.run_starts (launch : Launcher) (host : Host) (s : BuildSettings)
    {bundle : Bundle} {files : FileSystem}
    (hbundle : bundleFile host.files s.options s.entry = .ok bundle)
    (hstore : store host.files s.bundle bundle.text = (.ok (), files)) :
    ∃ outcome p command, run launch host s = .ok outcome p ∧
      p.started = [(command, files)] ∧
      command.program = s.program ∧
      command.args = s.backend.flags ++ ["-o", s.binaryPath.display] ++ bundle.libraries
        ++ [s.bundle.display] ∧
      ((∀ kind, files.entryAt? s.bundle ≠ some (.device kind)) →
        files.contents s.bundle = .ok bundle.text) ∧
      ((∀ word ∈ command.words, 0 ∉ word) → (outcome, p.files)
        = s.afterStart files (launch ⟨files, host.environment⟩ command.words)) ∧
      ((∃ word ∈ command.words, 0 ∈ word) → (outcome, p.files)
        = s.afterStart files (.error .nulInArgument)) ∧
      ∀ feeds : List Feed, feeds.flatMap Feed.names = bundle.libraries →
        ((CommandDraft.begin s.program s.backend.flags s.binaryPath).feed feeds).finish
          s.bundle = command := by
  -- the two cases below differ only in the answer to the start
  have hanswer := s.outcome_compile launch files host.environment bundle.libraries
  refine ⟨_, _, s.command bundle.libraries, run_of_store_ok hbundle hstore rfl rfl, rfl,
    s.program_command _, s.args_command _, ?_, ?_, ?_, ?_⟩
  · intro hplain
    refine (contents_of_store hstore).resolve_right ?_
    rintro ⟨kind, hdevice⟩
    exact hplain kind hdevice
  · intro hclean
    rw [start_of_no_nul hclean] at hanswer
    exact hanswer
  · intro hnul
    rw [start_of_nul hnul] at hanswer
    exact hanswer
  · intro feeds hfeeds
    exact s.command_of_feeds hfeeds

/-- A file that loads one library. -/
def loadText (name : String) : Bytes := Utf8.encode ("1#load \"" ++ name ++ "\";;")

/-- That file as `a`, beside the null device. -/
def loading (name : String) : FileSystem :=
  ⟨[([Utf8.encode "a"], .file (loadText name) false),
    ([Utf8.encode "dev"], .directory),
    ([Utf8.encode "dev", Utf8.encode "null"], .device .null)], [], none⟩

/-- The bundle of a file that the scanner finds one load in, behind its first byte. -/
theorem bundleFile_loading {name : String} {stop : Nat}
    (hscan : scan (loadText name) = [⟨.link, name, 1, stop, 1⟩])
    (hfront : (loadText name).take 1 = [0x31]) (hback : (loadText name).drop stop = []) :
    bundleFile (loading name) onePass (Path.ofText "/a") = .ok ⟨[0x31], [name]⟩ := by
  have hopen : (loading name).openFile (Path.ofText "/a")
      = .ok ([Utf8.encode "a"], loadText name) := by
    cbv
  have hlink : resolve (loading name) onePass [[Utf8.encode "a"]] ⟨.link, name, 1, stop, 1⟩
      = .ok ([], [name]) :=
    resolve_link rfl
  have hexpand := expand_cons_of_ok hlink (expand_nil _)
  rw [← hscan] at hexpand
  rw [bundleFile_of_expand hopen hexpand]
  simp [BundleOptions.settle, onePass, Expansion.bundle, Expansion.cons, splice, hfront, hback]

/-- A library with a blank in its name is one word, and the compiler finds the bundle. -/
theorem run_starts_spacedLibrary : ∃ outcome p command files,
    Build.run idle ⟨loading "g h", ⟨[]⟩⟩ (bundleAt (Path.ofText "/c")) = .ok outcome p ∧
    p.started = [(command, files)] ∧
    command.args = ["-custom", "-o", "/x", "g h", "/c"] ∧
    files.contents (Path.ofText "/c") = .ok [0x31] ∧
    outcome = .success (Path.ofText "/x") := by
  have hscan : scan (loadText "g h") = [⟨.link, "g h", 1, 14, 1⟩] := by
    decide +kernel
  have hbundle := bundleFile_loading hscan (by decide +kernel) (by decide +kernel)
  have hlocate : (loading "g h").locate .create (Path.ofText "/c") = .ok [Utf8.encode "c"] := by
    cbv
  have hparent : directoryOf? (Path.ofText "/c") = some (Path.ofText "/") := by
    decide +kernel
  have hdirectory : (loading "g h").isDirectory (Path.ofText "/") = true := by
    cbv
  have hstore : store (loading "g h") (Path.ofText "/c") [0x31]
      = (.ok (), (loading "g h").insert [Utf8.encode "c"] (.file [0x31] false)) :=
    store_of_written hparent hdirectory hlocate (.created rfl (fits_of_no_limit rfl _))
  obtain ⟨outcome, p, command, hrun, hstarted, -, hargs, hholds, hclean, -, hfeeds⟩ :=
    Build.run_starts idle ⟨loading "g h", ⟨[]⟩⟩ (bundleAt (Path.ofText "/c"))
      hbundle hstore
  -- fed by itself, the library makes the draft that the build makes of the list
  obtain rfl := hfeeds [.one "g h"] rfl
  have hfile : ((loading "g h").insert [Utf8.encode "c"] (.file [0x31] false)).entryAt?
      (Path.ofText "/c") = some (.file [0x31] false) := by
    cbv
  refine ⟨outcome, p, _, _, hrun, hstarted, ?_, hholds ?_, ?_⟩
  · rw [hargs]
    decide +kernel
  · intro kind hdevice
    cases hfile.symm.trans hdevice
  · exact congrArg Prod.fst (hclean (by decide +kernel))

/-- With a NUL for a library the bundle is made and stored, but no process is started,
    though the launcher would start whatever it is given.  Nor does the null device,
    which the bundle was stored into, hold it. -/
theorem run_nulLibrary : ∃ outcome p command files,
    bundleFile (loading "\x00") onePass (Path.ofText "/a") = .ok ⟨[0x31], ["\x00"]⟩ ∧
    store (loading "\x00") (Path.ofText "/dev/null") [0x31] = (.ok (), files) ∧
    Build.run idle ⟨loading "\x00", ⟨[]⟩⟩ (bundleAt (Path.ofText "/dev/null"))
      = .ok outcome p ∧
    p.started = [(command, files)] ∧
    start idle ⟨files, ⟨[]⟩⟩ command = .error .nulInArgument ∧
    outcome = .failure (.notLaunched "cc" .nulInArgument) ∧
    files.contents (Path.ofText "/dev/null") ≠ .ok [0x31] := by
  have hscan : scan (loadText "\x00") = [⟨.link, "\x00", 1, 12, 1⟩] := by
    decide +kernel
  have hbundle := bundleFile_loading hscan (by decide +kernel) (by decide +kernel)
  have hlocate : (loading "\x00").locate .create (Path.ofText "/dev/null")
      = .ok [Utf8.encode "dev", Utf8.encode "null"] := by
    cbv
  have hnull : (loading "\x00").entryOf? [Utf8.encode "dev", Utf8.encode "null"]
      = some (.device .null) := by
    decide +kernel
  have hdevice : (loading "\x00").entryAt? (Path.ofText "/dev/null") = some (.device .null) := by
    cbv
  have hparent : directoryOf? (Path.ofText "/dev/null") = some (Path.ofText "/dev") := by
    decide +kernel
  have hdirectory : (loading "\x00").isDirectory (Path.ofText "/dev") = true := by
    cbv
  have hstore : store (loading "\x00") (Path.ofText "/dev/null") [0x31]
      = (.ok (), loading "\x00") :=
    store_of_written hparent hdirectory hlocate (.swallowed hnull rfl)
  have hnul : start idle ⟨loading "\x00", ⟨[]⟩⟩
      ((bundleAt (Path.ofText "/dev/null")).command ["\x00"]) = .error .nulInArgument :=
    start_of_nul ⟨[0], by decide +kernel, by decide⟩
  have hcompile : compile idle ⟨loading "\x00", ⟨[]⟩⟩
      ((bundleAt (Path.ofText "/dev/null")).command ["\x00"])
      = (.notLaunched "cc" .nulInArgument, loading "\x00") := by
    unfold compile
    rw [hnul]
    rfl
  refine ⟨_, _, _, _, hbundle, hstore,
    Build.run_of_store_ok hbundle hstore rfl hcompile, rfl, hnul, rfl, ?_⟩
  rw [contents_of_device hdevice]
  decide

end SourceBundle
