import SourceBundle.Proofs.BuildCourses
import SourceBundle.Proofs.StoredBundles

/-! # The second build — what a build comes to on what it left

    A bundle depends on no more than the files it is made from: on a file system
    where all paths still lead where they led and these files hold what they
    held, the bundle is the same (`bundleFile_agrees`).

    Storing a bundle keeps all paths and changes one file.  So a second build
    does what the first did, unless the bundle was stored over a file that it is
    made from (`Build.run_again`); then the second bundle is made from the first
    (`run_over_include`). -/

namespace SourceBundle

variable {fs fs' : FileSystem} {o : BundleOptions}

/-! ## What a bundle is made from -/

/-- The bundle of an entry is made from the file at `F`: the entry, a file that it
    includes or, in recursive mode, a file included at any depth. -/
def MadeFrom (fs : FileSystem) (o : BundleOptions) (entry : Path) (F : Location) : Prop :=
  ∃ root, fs.locate .reach entry = .ok root ∧
    (F = root ∨ Includes fs o root F ∨
      o.mode = .recursive ∧ Relation.ReflTransGen (Includes fs o) root F)

/-- A file that holds what it held is opened as it was. -/
theorem openFile_agrees (hkeeps : Keeps fs fs') {p : Path} {place : Location} {content : Bytes}
    (hopen : fs.openFile p = .ok (place, content))
    (hsame : fs'.contentAt? place = fs.contentAt? place) :
    fs'.openFile p = .ok (place, content) := by
  obtain ⟨hlocate, hcontent⟩ := openFile_eq_ok_iff.mp hopen
  exact openFile_eq_ok_iff.mpr ⟨locate_keeps hkeeps hlocate, hsame.trans hcontent⟩

/-- **FOOTPRINT**: directives expand to the same where the files of `reads` hold the
    same, if these are all the files read. -/
theorem expand_agrees {reads : Location → Prop} (hkeeps : Keeps fs fs')
    (hagree : ∀ F, reads F → fs'.contentAt? F = fs.contentAt? F)
    (hclosed : o.mode = .recursive → ∀ F G, reads F → Includes fs o F G → reads G)
    {trail : List Location} {ds : List Directive} {e : Expansion}
    (h : expand fs o trail ds = .ok e)
    (hds : ∀ d ∈ ds, d.kind = .inline →
      ∀ G, fs.locate .reach (o.includePath d) = .ok G → reads G) :
    expand fs' o trail ds = .ok e := by
  rw [expand_eq_ok_iff] at h ⊢
  induction h with
  | nil => exact .nil
  | @link _ d _ _ hkind _ ih =>
      exact .link hkind (ih fun d' hd' => hds d' (List.mem_cons_of_mem d hd'))
  | @single _ d _ place _ _ hkind hopen hmode _ ih =>
      have hread := hds d List.mem_cons_self hkind place (openFile_eq_ok_iff.mp hopen).1
      exact .single hkind (openFile_agrees hkeeps hopen (hagree place hread)) hmode
        (ih fun d' hd' => hds d' (List.mem_cons_of_mem d hd'))
  | @nested _ d _ place content _ _ hkind hopen hmode hnew _ _ ihinner ih =>
      obtain ⟨hlocate, hcontent⟩ := openFile_eq_ok_iff.mp hopen
      have hread := hds d List.mem_cons_self hkind place hlocate
      -- the directives of a file that is read lead to files that are read
      have hinner := ihinner fun d' hd' hkind' G hG =>
        hclosed hmode place G hread ⟨d', ⟨content, hcontent, hd', hkind'⟩, hG⟩
      exact .nested hkind (openFile_agrees hkeeps hopen (hagree place hread)) hmode hnew
        hinner (ih fun d' hd' => hds d' (List.mem_cons_of_mem d hd'))

/-- **FOOTPRINT** of an entry: its bundle depends on the files that it is made from. -/
theorem bundleFile_agrees {entry : Path} {bundle : Bundle} (hkeeps : Keeps fs fs')
    (h : bundleFile fs o entry = .ok bundle)
    (hagree : ∀ F, MadeFrom fs o entry F → fs'.contentAt? F = fs.contentAt? F) :
    bundleFile fs' o entry = .ok bundle := by
  obtain ⟨root, content, e, hopen, hexpand, rfl⟩ := bundleFile_eq_ok h
  obtain ⟨hlocate, hcontent⟩ := openFile_eq_ok_iff.mp hopen
  have hopen' := openFile_agrees hkeeps hopen (hagree root ⟨root, hlocate, .inl rfl⟩)
  refine bundleFile_of_expand hopen' (expand_agrees hkeeps hagree ?_ hexpand ?_)
  · rintro hmode F G ⟨root', hlocate', hF⟩ hedge
    refine ⟨root', hlocate', .inr (.inr ⟨hmode, ?_⟩)⟩
    rcases hF with rfl | hincludes | ⟨-, hpath⟩
    · exact .single hedge
    · exact .tail (.single hincludes) hedge
    · exact .tail hpath hedge
  · intro d hd hkind G hG
    exact ⟨root, hlocate, .inr (.inl ⟨d, ⟨content, hcontent, hd, hkind⟩, hG⟩)⟩

/-- A bundle that is stored apart from all it is made from is made again from what is
    left. -/
theorem bundleFile_of_store {entry destination : Path} {bundle : Bundle}
    (hbundle : bundleFile fs o entry = .ok bundle)
    (hstore : store fs destination bundle.text = (.ok (), fs'))
    (hapart : ∀ F, MadeFrom fs o entry F → fs'.locate .reach destination = .ok F →
      fs'.contentAt? F = fs.contentAt? F) :
    bundleFile fs' o entry = .ok bundle := by
  refine bundleFile_agrees (store_keeps hstore) hbundle ?_
  intro F hF
  by_cases hover : fs'.locate .reach destination = .ok F
  · exact hapart F hF hover
  · exact contentAt?_of_store hstore hover

/-! ## Two builds -/

/-- Whatever is started leaves all files as they are. -/
def ChangesNoFile (launch : Launcher) : Prop :=
  ∀ host words child, launch host words = .ok child → child.files = host.files

/-- Such a compiler leaves the files that it was started on. -/
theorem compile_of_changesNoFile {launch : Launcher} (hquiet : ChangesNoFile launch)
    (host : Host) (command : Command) :
    ∃ compilation, compile launch host command = (compilation, host.files) := by
  unfold compile
  split
  · next child hchild =>
      dsimp only [start] at hchild
      split at hchild
      · cases hchild
      · exact ⟨.ofChild child, by rw [hquiet _ _ _ hchild]⟩
  · exact ⟨_, rfl⟩

namespace Build

/-- With such a compiler, a build that stores its bundle leaves the file system that the
    compiler found. -/
theorem run_of_changesNoFile {launch : Launcher} (host : Host) (s : BuildSettings)
    {bundle : Bundle} {files : FileSystem} (hquiet : ChangesNoFile launch)
    (hbundle : bundleFile host.files s.options s.entry = .ok bundle)
    (hstore : store host.files s.bundle bundle.text = (.ok (), files)) :
    ∃ outcome p, run launch host s = .ok outcome p ∧ p.files = files ∧
      p.started = [(s.command bundle.libraries, files)] := by
  obtain ⟨compilation, hcompile⟩ := compile_of_changesNoFile hquiet
    ⟨files, host.environment⟩ (s.command bundle.libraries)
  exact ⟨_, _, run_of_store_ok hbundle hstore rfl hcompile, rfl, rfl⟩

/-- **TWICE IS ONCE**: on the file system that a build left, the same build bundles and
    stores again, starts the same command on the same file system, and leaves the
    same, the bundle's file with the bytes that the first one wrote, if it is no device.

    That is, if whatever the bundle is made from still holds after the storing what
    it held before: a bundle may be stored over its own sources. -/
theorem run_again {launch launch' : Launcher} {host : Host} {s : BuildSettings}
    {outcome : Outcome} {p : Progress}
    (hquiet : ChangesNoFile launch) (hquiet' : ChangesNoFile launch')
    (hrun : run launch host s = .ok outcome p)
    (hapart : ∀ F, MadeFrom host.files s.options s.entry F →
      p.files.locate .reach s.bundle = .ok F →
      p.files.contentAt? F = host.files.contentAt? F) :
    ∃ bundle outcome' p', bundleFile host.files s.options s.entry = .ok bundle ∧
      bundleFile p.files s.options s.entry = .ok bundle ∧
      run launch' ⟨p.files, host.environment⟩ s = .ok outcome' p' ∧
      p'.started = p.started ∧ p'.files = p.files ∧
      (p'.files.contents s.bundle = .ok bundle.text ∨
        ∃ kind, p'.files.entryAt? s.bundle = some (.device kind)) := by
  obtain ⟨bundle, files, compilation, hbundle, hstore, hstarted, hcompile, -⟩ :=
    stored_of_run hrun
  obtain ⟨kept, hkept⟩ := compile_of_changesNoFile hquiet ⟨files, host.environment⟩
    (s.command bundle.libraries)
  obtain rfl : files = p.files := (Prod.mk.inj (hkept.symm.trans hcompile)).2
  -- the second build finds what the first one stored, and nothing is left to change
  have hbundle' := bundleFile_of_store hbundle hstore hapart
  have hstore' := store_again hstore
  obtain ⟨outcome', p', hrun', hfiles', hstarted'⟩ := run_of_changesNoFile
    ⟨p.files, host.environment⟩ s hquiet' hbundle' hstore'
  refine ⟨bundle, outcome', p', hbundle, hbundle', hrun', hstarted'.trans hstarted.symm,
    hfiles', ?_⟩
  rw [hfiles']
  exact contents_of_store hstore

end Build

/-! ## Beside a source and over it -/

/-- A file `a` that includes a file `b`. -/
def includesB (content : Bytes) : FileSystem :=
  ⟨[([Utf8.encode "b"], .file content false),
    ([Utf8.encode "a"], .file (Utf8.encode "1#use \"b\";;") false)], [], none⟩

/-- A single pass with paths seen from the root. -/
def onePass : BundleOptions := ⟨Path.ofText "/", .single, none⟩

/-- A build of the file `a`. -/
def bundleAt (destination : Path) : BuildSettings :=
  { entry := Path.ofText "/a", bundle := destination, binDir := Path.ofText "/",
    binary := "x", program := "cc", backend := .bytecode, options := onePass }

/-- A compiler that succeeds and does nothing. -/
def idle : Launcher := fun host _ => .ok ⟨.code 0, [], [], host.files⟩

theorem changesNoFile_idle : ChangesNoFile idle := by
  intro host words child h
  obtain rfl := Except.ok.inj h
  rfl

theorem scan_includesB :
    scan (Utf8.encode "1#use \"b\";;") = [⟨.inline, "b", 1, 11, 1⟩] := by
  decide +kernel

theorem openFile_includesB (content : Bytes) :
    (includesB content).openFile (Path.ofText "/a")
        = .ok ([Utf8.encode "a"], Utf8.encode "1#use \"b\";;") ∧
      (includesB content).openFile (onePass.includePath ⟨.inline, "b", 1, 11, 1⟩)
        = .ok ([Utf8.encode "b"], content) := by
  constructor
  · cbv
  · cbv

/-- The bundle is made from both files and from nothing else. -/
theorem madeFrom_includesB {content : Bytes} {F : Location}
    (h : MadeFrom (includesB content) onePass (Path.ofText "/a") F) :
    F = [Utf8.encode "a"] ∨ F = [Utf8.encode "b"] := by
  obtain ⟨hopenA, hopenB⟩ := openFile_includesB content
  obtain ⟨root, hroot, hF⟩ := h
  obtain ⟨hlocateA, hcontentA⟩ := openFile_eq_ok_iff.mp hopenA
  obtain rfl := Except.ok.inj (hlocateA.symm.trans hroot)
  rcases hF with rfl | ⟨d, ⟨content', hcontent', hd, -⟩, hlocate⟩ | ⟨hmode, -⟩
  · exact .inl rfl
  · obtain rfl := Option.some.inj (hcontentA.symm.trans hcontent')
    rw [scan_includesB] at hd
    obtain rfl := List.mem_singleton.mp hd
    exact .inr (Except.ok.inj (hlocate.symm.trans (openFile_eq_ok_iff.mp hopenB).1))
  · cases hmode

/-- The content of `b` stands behind what `a` has in front. -/
theorem bundleFile_includesB (content : Bytes) :
    bundleFile (includesB content) onePass (Path.ofText "/a")
      = .ok ⟨0x31 :: content, []⟩ := by
  obtain ⟨hopenA, hopenB⟩ := openFile_includesB content
  have hfront : (Utf8.encode "1#use \"b\";;").take 1 = [0x31] := by decide +kernel
  have hback : (Utf8.encode "1#use \"b\";;").drop 11 = [] := by decide +kernel
  have hexpand := expand_cons_of_ok (resolve_single rfl hopenB rfl)
    (expand_nil [[Utf8.encode "a"]])
  rw [← scan_includesB] at hexpand
  rw [bundleFile_of_expand hopenA hexpand]
  simp [BundleOptions.settle, onePass, Expansion.bundle, Expansion.cons, splice, hfront, hback]

theorem isDirectory_includesB (content : Bytes) :
    (includesB content).isDirectory (Path.ofText "/") = true := by
  cbv

/-- A bundle is stored in the root under a name that is free. -/
theorem store_beside (content text : Bytes) {destination : Path} {place : Location}
    (hparent : directoryOf? destination = some (Path.ofText "/"))
    (hlocate : (includesB content).locate .create destination = .ok place)
    (hnone : (includesB content).entryOf? place = none) :
    store (includesB content) destination text
      = (.ok (), (includesB content).insert place (.file text false)) :=
  store_of_written hparent (isDirectory_includesB content) hlocate
    (.created hnone (fits_of_no_limit rfl text))

/-- A bundle beside its sources is the same after every build. -/
theorem run_again_beside : ∃ outcome p outcome' p',
    Build.run idle ⟨includesB [0x32], ⟨[]⟩⟩ (bundleAt (Path.ofText "/c")) = .ok outcome p ∧
    Build.run idle ⟨p.files, ⟨[]⟩⟩ (bundleAt (Path.ofText "/c")) = .ok outcome' p' ∧
    p'.started = p.started ∧ p'.files = p.files ∧
    p'.files.contents (Path.ofText "/c") = .ok [0x31, 0x32] := by
  have hlocate : (includesB [0x32]).locate .create (Path.ofText "/c")
      = .ok [Utf8.encode "c"] := by
    cbv
  have hstore := store_beside [0x32] [0x31, 0x32] (by decide +kernel) hlocate rfl
  obtain ⟨outcome, p, hrun, hfiles, -⟩ := Build.run_of_changesNoFile
    ⟨includesB [0x32], ⟨[]⟩⟩ (bundleAt (Path.ofText "/c")) changesNoFile_idle
    (bundleFile_includesB [0x32]) hstore
  have hapart : ∀ F, MadeFrom (includesB [0x32]) onePass (Path.ofText "/a") F →
      p.files.locate .reach (Path.ofText "/c") = .ok F →
      p.files.contentAt? F = (includesB [0x32]).contentAt? F := by
    intro F hF hover
    rw [hfiles] at hover
    have hwritten : Written (includesB [0x32]) [Utf8.encode "c"] [0x31, 0x32] _ :=
      .created rfl (fits_of_no_limit rfl _)
    obtain rfl := Except.ok.inj ((locate_of_written hlocate hwritten).symm.trans hover)
    rcases madeFrom_includesB hF with hsource | hsource
    · exact absurd hsource (by decide +kernel)
    · exact absurd hsource (by decide +kernel)
  obtain ⟨bundle, outcome', p', -, -, hrun', hstarted, hsame, -⟩ :=
    Build.run_again changesNoFile_idle changesNoFile_idle hrun hapart
  refine ⟨outcome, p, outcome', p', hrun, hrun', hstarted, hsame, ?_⟩
  rw [hsame, hfiles]
  cbv

/-- A bundle over an included file has that file in it, so each build stores another. -/
theorem run_over_include : ChangesNoFile idle ∧
    ∃ outcome p outcome' p',
      Build.run idle ⟨includesB [0x32], ⟨[]⟩⟩ (bundleAt (Path.ofText "/b")) = .ok outcome p ∧
      Build.run idle ⟨p.files, ⟨[]⟩⟩ (bundleAt (Path.ofText "/b")) = .ok outcome' p' ∧
      p.files.contents (Path.ofText "/b") = .ok [0x31, 0x32] ∧
      p'.files.contents (Path.ofText "/b") = .ok [0x31, 0x31, 0x32] := by
  have hstore : ∀ content text,
      store (includesB content) (Path.ofText "/b") text = (.ok (), includesB text) := by
    intro content text
    have hlocate : (includesB content).locate .create (Path.ofText "/b")
        = .ok [Utf8.encode "b"] := by
      cbv
    exact store_of_written (by decide +kernel) (isDirectory_includesB content) hlocate
      (.replaced rfl (fits_of_no_limit rfl text))
  have hrun : ∀ content, ∃ outcome p,
      Build.run idle ⟨includesB content, ⟨[]⟩⟩ (bundleAt (Path.ofText "/b")) = .ok outcome p ∧
      p.files = includesB (0x31 :: content) := by
    intro content
    obtain ⟨outcome, p, hrun, hfiles, -⟩ := Build.run_of_changesNoFile
      ⟨includesB content, ⟨[]⟩⟩ (bundleAt (Path.ofText "/b")) changesNoFile_idle
      (bundleFile_includesB content) (hstore content (0x31 :: content))
    exact ⟨outcome, p, hrun, hfiles⟩
  obtain ⟨outcome, p, hfirst, hfiles⟩ := hrun [0x32]
  obtain ⟨outcome', p', hsecond, hfiles'⟩ := hrun [0x31, 0x32]
  refine ⟨changesNoFile_idle, outcome, p, outcome', p', hfirst, ?_, ?_, ?_⟩
  · rw [hfiles]
    exact hsecond
  · rw [hfiles]
    cbv
  · rw [hfiles']
    cbv

end SourceBundle
