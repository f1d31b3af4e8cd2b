import SourceBundle.Proofs.EntryPoints
import SourceBundle.Proofs.LibraryOrder
import SourceBundle.Proofs.SinglePass

/-! # Inline modes — they agree where nothing is nested

    A source is flat if no file that it uses has a directive.  In recursive mode
    such a file goes on the trail and comes off it again with nothing done, so
    each directive of a flat source is resolved as in single mode
    (`resolve_flat`).

    What is left of the difference is that the libraries are named once each
    (`inlineModes_agree`).  A file that is included twice, or under two names, is
    no cycle. -/

namespace SourceBundle

variable {fs : FileSystem} {o : BundleOptions}

/-- The options with another mode. -/
def BundleOptions.inMode (o : BundleOptions) (mode : InlineMode) : BundleOptions :=
  { o with mode := mode }

/-- No file that the source uses has a directive. -/
def Flat (fs : FileSystem) (o : BundleOptions) (source : Bytes) : Prop :=
  ∀ d ∈ scan source, d.kind = .inline →
    ∀ content, fs.contents (o.includePath d) = .ok content → scan content = []

/-- A bundle with each library named once, where it is named first. -/
def Bundle.namingOnce (bundle : Bundle) : Bundle :=
  { bundle with libraries := withoutRepetitions bundle.libraries }

/-! ## Directives -/

/-- A directive whose file has none, and is not on the trail, is resolved to the
    same in both modes. -/
theorem resolve_flat {trail : List Location} {d : Directive}
    (hflat : d.kind = .inline → ∀ place content,
      fs.openFile (o.includePath d) = .ok (place, content) →
      scan content = [] ∧ place ∉ trail) :
    resolve fs (o.inMode .recursive) trail d = resolve fs (o.inMode .single) trail d := by
  cases hkind : d.kind with
  | link =>
      rw [resolve_link hkind, resolve_link hkind]
      rfl
  | inline =>
      cases hopen : fs.openFile (o.includePath d) with
      | error cause =>
          rw [resolve_unreadable (o := o.inMode .recursive) hkind hopen,
            resolve_unreadable (o := o.inMode .single) hkind hopen]
          rfl
      | ok opened =>
          obtain ⟨place, content⟩ := opened
          obtain ⟨hscan, hnew⟩ := hflat hkind place content hopen
          rw [resolve_single (o := o.inMode .single) hkind hopen rfl,
            resolve_nested (o := o.inMode .recursive) hkind hopen rfl hnew, hscan, expand_nil]
          rfl

/-- Where no included file has directives, the modes expand alike. -/
theorem expand_flat {trail : List Location} {ds : List Directive}
    (hflat : ∀ d ∈ ds, d.kind = .inline → ∀ place content,
      fs.openFile (o.includePath d) = .ok (place, content) →
      scan content = [] ∧ place ∉ trail) :
    expand fs (o.inMode .recursive) trail ds = expand fs (o.inMode .single) trail ds := by
  induction ds with
  | nil => rw [expand_nil, expand_nil]
  | cons d ds ih =>
      rw [expand_cons, expand_cons, resolve_flat (hflat d List.mem_cons_self),
        ih fun d' hd' => hflat d' (List.mem_cons_of_mem _ hd')]

/-! ## Bundles -/

/-- On a trail that has none of its files, a flat source comes to what it comes to
    in single mode, with each library named once. -/
theorem bundleFrom_flat {trail : List Location} {source : Bytes} (hflat : Flat fs o source)
    (htrail : ∀ d ∈ scan source, d.kind = .inline → ∀ place content,
      fs.openFile (o.includePath d) = .ok (place, content) → place ∉ trail) :
    bundleFrom fs (o.inMode .recursive) trail source
      = (bundleSource fs (o.inMode .single) source).map Bundle.namingOnce := by
  have hexpand : expand fs (o.inMode .recursive) trail (scan source)
      = expand fs (o.inMode .single) trail (scan source) := by
    refine expand_flat ?_
    intro d hd hkind place content hopen
    exact ⟨hflat d hd hkind content (contents_eq_ok_iff.mpr ⟨place, hopen⟩),
      htrail d hd hkind place content hopen⟩
  rw [bundleSource, bundleFrom_eq_map, bundleFrom_eq_map, hexpand,
    expand_single_trail rfl trail []]
  cases expand fs (o.inMode .single) [] (scan source) with
  | error cause => rfl
  | ok e =>
      refine congrArg Except.ok ?_
      simp only [BundleOptions.settle, BundleOptions.inMode, Bundle.namingOnce,
        firstOccurrences_eq_withoutRepetitions]

/-- A file that a flat source includes is another file than the one with that source. -/
theorem ne_of_flat {root place : Location} {source content : Bytes} {d : Directive}
    (hflat : Flat fs o source) (hroot : fs.contentAt? root = some source)
    (hd : d ∈ scan source) (hkind : d.kind = .inline)
    (hopen : fs.openFile (o.includePath d) = .ok (place, content)) : place ≠ root := by
  rintro rfl
  obtain rfl : source = content :=
    Option.some.inj (hroot.symm.trans (openFile_eq_ok_iff.mp hopen).2)
  -- the source would have no directive, but `d` is one of it
  rw [hflat d hd hkind source (contents_eq_ok_iff.mpr ⟨place, hopen⟩)] at hd
  exact List.not_mem_nil hd

/-! ## Single mode -/

/-- The file of a `#use` that is resolved can be read. -/
theorem readable_of_resolve {trail : List Location} {d : Directive}
    {out : Bytes × List String} (hkind : d.kind = .inline)
    (h : resolve fs o trail d = .ok out) : fs.Readable (o.includePath d) := by
  cases hopen : fs.openFile (o.includePath d) with
  | error cause =>
      rw [resolve_unreadable hkind hopen] at h
      exact nomatch h
  | ok opened => exact readable_iff.mpr ⟨opened.1, opened.2, hopen⟩

/-- In single mode a source has a bundle exactly if the files that it uses can be read. -/
theorem bundleSource_single_isOk_iff {source : Bytes} (hmode : o.mode = .single) :
    (∃ bundle, bundleSource fs o source = .ok bundle) ↔
      ∀ d ∈ scan source, d.kind = .inline → fs.Readable (o.includePath d) := by
  constructor
  · rintro ⟨bundle, hbundle⟩ d hd hkind
    obtain ⟨e, he, -⟩ := bundleSource_eq_ok hbundle
    obtain ⟨out, hout⟩ := expand_isOk_iff.mp ⟨e, he⟩ d hd
    exact readable_of_resolve hkind hout
  · intro hread
    obtain ⟨e, he, -⟩ := expand_single [] hmode hread
    exact ⟨_, bundleSource_of_expand he⟩

/-- In single mode a failure is that of a `#use` directive of the source. -/
theorem unreadable_of_single {source : Bytes} {cause : BundleError} (hmode : o.mode = .single)
    (h : bundleSource fs o source = .error cause) :
    ∃ d ∈ scan source, d.kind = .inline ∧ ∃ why,
      fs.openFile (o.includePath d) = .error why ∧
      cause = .unreadableInclude (o.includePath d) d.line why := by
  obtain ⟨before, m, after, hwalk, -, hrefused⟩ := bundleFrom_eq_error_iff.mp h
  have hm : m ∈ (scan source).map (Meeting.mk source []) := by
    rw [← meetings_single hmode, hwalk]
    exact List.mem_append_right _ List.mem_cons_self
  obtain ⟨d, hd, rfl⟩ := List.mem_map.mp hm
  obtain ⟨-, -, -, -, -, -, -, hline⟩ := (reads_scan source).stands d hd
  cases hrefused with
  | unreadable hkind hopen =>
      refine ⟨d, hd, hkind, _, hopen, ?_⟩
      rw [hline]
  | cycle hrecursive => exact nomatch hmode.symm.trans hrecursive

/-! ## Agreement -/

/-- What the two modes come to for a flat source. -/
structure ModesAgree (fs : FileSystem) (o : BundleOptions) (source : Bytes)
    (single recursive : Except BundleError Bundle) : Prop where
  /-- The same text or the same error, and each library once. -/
  same : recursive = single.map Bundle.namingOnce
  /-- Both succeed exactly if all files used can be read. -/
  succeeds : (∃ bundle, recursive = .ok bundle) ↔
    ∀ d ∈ scan source, d.kind = .inline → fs.Readable (o.includePath d)
  /-- Where they fail, a file used cannot be read. -/
  unreadable : ∀ cause, recursive = .error cause →
    ∃ d ∈ scan source, d.kind = .inline ∧ ∃ why,
      fs.openFile (o.includePath d) = .error why ∧
      cause = .unreadableInclude (o.includePath d) d.line why
  noCycle : ∀ chain, recursive ≠ .error (.includeCycle chain)

/-- Agreement is a matter of the results. -/
theorem ModesAgree.of_same {source : Bytes} {recursive : Except BundleError Bundle}
    (h : recursive = (bundleSource fs (o.inMode .single) source).map Bundle.namingOnce) :
    ModesAgree fs o source (bundleSource fs (o.inMode .single) source) recursive := by
  have hsucceeds : (∃ bundle, bundleSource fs (o.inMode .single) source = .ok bundle) ↔
      ∀ d ∈ scan source, d.kind = .inline → fs.Readable (o.includePath d) :=
    bundleSource_single_isOk_iff rfl
  cases hsingle : bundleSource fs (o.inMode .single) source with
  | ok bundle =>
      rw [hsingle] at h hsucceeds
      subst h
      refine ⟨rfl, ⟨fun _ => hsucceeds.mp ⟨bundle, rfl⟩, fun _ => ⟨_, rfl⟩⟩, ?_, ?_⟩
      · intro cause hcause
        exact nomatch hcause
      · intro chain hchain
        exact nomatch hchain
  | error cause =>
      obtain ⟨d, hd, hkind, why, hopen, rfl⟩ := unreadable_of_single rfl hsingle
      rw [hsingle] at h hsucceeds
      subst h
      refine ⟨rfl, ⟨?_, fun hread => ?_⟩, ?_, ?_⟩
      · rintro ⟨bundle, hbundle⟩
        exact nomatch hbundle
      · obtain ⟨bundle, hbundle⟩ := hsucceeds.mpr hread
        exact nomatch hbundle
      · intro cause hcause
        obtain rfl := Except.error.inj hcause
        exact ⟨d, hd, hkind, why, hopen, rfl⟩
      · intro chain hchain
        exact nomatch Except.error.inj hchain

/-- **THE MODES AGREE**: a flat source, and the file that it is the content of, come to
    the same text in both modes or to the same error, that of a file which cannot be
    read; the libraries of recursive mode are those of single mode without
    repetitions.  Recursive mode reports no cycle, however often and under however
    many names a file is included. -/
theorem inlineModes_agree {source : Bytes} (hflat : Flat fs o source) :
    ModesAgree fs o source (bundleSource fs (o.inMode .single) source)
      (bundleSource fs (o.inMode .recursive) source) ∧
    ∀ entry, fs.contents entry = .ok source →
      ModesAgree fs o source (bundleFile fs (o.inMode .single) entry)
        (bundleFile fs (o.inMode .recursive) entry) := by
  constructor
  · refine .of_same (bundleFrom_flat hflat ?_)
    intro d hd hkind place content hopen
    exact List.not_mem_nil
  · intro entry hread
    -- single mode never asks the trail, so the entry is bundled as its source is
    obtain ⟨root, hopen⟩ := contents_eq_ok_iff.mp hread
    have hroot := (openFile_eq_ok_iff.mp hopen).2
    have hsingle : bundleFile fs (o.inMode .single) entry
        = bundleSource fs (o.inMode .single) source := by
      rw [bundleFile_of_open hopen, bundleSource, bundleFrom_eq_map, bundleFrom_eq_map,
        expand_single_trail rfl [root] []]
    rw [hsingle, bundleFile_of_open hopen]
    refine .of_same (bundleFrom_flat hflat ?_)
    intro d hd hkind place content hused hmem
    exact ne_of_flat hflat hroot hd hkind hused (List.mem_singleton.mp hmem)

/-- A source that uses one file under two names, and asks twice for one library. -/
def usesTwice : Bytes :=
  Utf8.encode "#use \"a\";;#use \"b\";;#load \"l\";;#load \"l\";;"

/-- The file `a`, a link `b` to it, and a file `m` with that source. -/
def underTwoNames : FileSystem :=
  ⟨[([Utf8.encode "a"], .file (Utf8.encode "2") false),
    ([Utf8.encode "b"], .link (Path.ofText "a")),
    ([Utf8.encode "m"], .file usesTwice false)], [], none⟩

theorem scan_usesTwice : scan usesTwice
    = [⟨.inline, "a", 0, 10, 1⟩, ⟨.inline, "b", 10, 20, 1⟩, ⟨.link, "l", 20, 31, 1⟩,
      ⟨.link, "l", 31, 42, 1⟩] := by
  decide +kernel

theorem openFile_underTwoNames :
    underTwoNames.openFile (fromRoot.includePath ⟨.inline, "a", 0, 10, 1⟩)
        = .ok ([Utf8.encode "a"], Utf8.encode "2") ∧
      underTwoNames.openFile (fromRoot.includePath ⟨.inline, "b", 10, 20, 1⟩)
        = .ok ([Utf8.encode "a"], Utf8.encode "2") := by
  constructor
  · cbv
  · cbv

/-- Neither name leads to a file with directives. -/
theorem flat_usesTwice : Flat underTwoNames fromRoot usesTwice := by
  obtain ⟨hopenA, hopenB⟩ := openFile_underTwoNames
  have hscan : scan (Utf8.encode "2") = [] := by
    decide +kernel
  intro d hd hkind content hread
  obtain ⟨place, hopen⟩ := contents_eq_ok_iff.mp hread
  rw [scan_usesTwice] at hd
  rcases List.mem_cons.mp hd with rfl | hd
  · obtain ⟨-, rfl⟩ := Prod.mk.inj (Except.ok.inj (hopen.symm.trans hopenA))
    exact hscan
  · rcases List.mem_cons.mp hd with rfl | hd
    · obtain ⟨-, rfl⟩ := Prod.mk.inj (Except.ok.inj (hopen.symm.trans hopenB))
      exact hscan
    · rcases List.mem_cons.mp hd with rfl | hd
      · cases hkind
      · obtain rfl := List.mem_singleton.mp hd
        cases hkind

theorem bundleSource_usesTwice :
    bundleSource underTwoNames (fromRoot.inMode .single) usesTwice
      = .ok ⟨Utf8.encode "22", ["l", "l"]⟩ := by
  obtain ⟨hopenA, hopenB⟩ := openFile_underTwoNames
  have hinlineA : resolve underTwoNames (fromRoot.inMode .single) [] ⟨.inline, "a", 0, 10, 1⟩
      = .ok (Utf8.encode "2", []) :=
    resolve_single rfl hopenA rfl
  have hinlineB : resolve underTwoNames (fromRoot.inMode .single) [] ⟨.inline, "b", 10, 20, 1⟩
      = .ok (Utf8.encode "2", []) :=
    resolve_single rfl hopenB rfl
  have hlink : ∀ start stop, resolve underTwoNames (fromRoot.inMode .single) []
      ⟨.link, "l", start, stop, 1⟩ = .ok ([], ["l"]) :=
    fun _ _ => resolve_link rfl
  have hexpand := expand_cons_of_ok hinlineA (expand_cons_of_ok hinlineB
    (expand_cons_of_ok (hlink 20 31) (expand_cons_of_ok (hlink 31 42) (expand_nil _))))
  rw [← scan_usesTwice] at hexpand
  rw [bundleSource_of_expand hexpand]
  decide +kernel

/-- The file goes on the trail twice and is no cycle; the library is named once. -/
theorem inlineModes_agree_twoNames :
    Flat underTwoNames fromRoot usesTwice ∧
    underTwoNames.contents (Path.ofText "/m") = .ok usesTwice ∧
    bundleSource underTwoNames (fromRoot.inMode .recursive) usesTwice
      = .ok ⟨Utf8.encode "22", ["l"]⟩ ∧
    ∃ bundle, bundleFile underTwoNames (fromRoot.inMode .recursive) (Path.ofText "/m")
      = .ok bundle := by
  have hread : underTwoNames.contents (Path.ofText "/m") = .ok usesTwice := by
    cbv
  obtain ⟨hsource, hfile⟩ := inlineModes_agree flat_usesTwice
  have hsame := hsource.same
  rw [bundleSource_usesTwice] at hsame
  refine ⟨flat_usesTwice, hread, hsame.trans (by decide +kernel), ?_⟩
  -- the files used can be read, whichever way the source is come by
  exact (hfile _ hread).succeeds.mpr (hsource.succeeds.mp ⟨_, hsame⟩)

end SourceBundle
