import SourceBundle.Proofs.LibraryOrder

/-! # Backends — one bundle, with other library names

    A change of library names reaches nothing but the names: the expansion with
    the change is the one without it, its libraries renamed (`expand_swapping`).
    So the two backends get the same text or the same error.

    The libraries of a bundle are renamed one by one.  In recursive mode they are
    named once only after that, and two names may become one; but leaving out
    repetitions before the renaming as well changes nothing
    (`settle_renamed`), so that the libraries for the native compiler can still
    be read off those for the bytecode compiler (`backends_agree`). -/

namespace SourceBundle

variable {fs : FileSystem} {o : BundleOptions}

/-- The options with another change of library names. -/
def BundleOptions.swapping (o : BundleOptions) (swap : Option SuffixSwap) : BundleOptions :=
  { o with swap := swap }

/-- An expansion with its libraries renamed. -/
def Expansion.renamed (f : String → String) (e : Expansion) : Expansion :=
  { e with libraries := e.libraries.map f }

/-- A bundle with its libraries renamed; in recursive mode each name is left once. -/
def Bundle.renamed (mode : InlineMode) (f : String → String) (bundle : Bundle) : Bundle :=
  match mode with
  | .single => { bundle with libraries := bundle.libraries.map f }
  | .recursive =>
      { bundle with libraries := withoutRepetitions (bundle.libraries.map f) }

/-! ## Expansions -/

/-- The libraries that a directive leaves are put in front of the others, renamed or not. -/
theorem renamed_cons (f : String → String) (d : Directive) (replacement : Bytes)
    (libraries : List String) (rest : Expansion) :
    (rest.cons d replacement libraries).renamed f
      = (rest.renamed f).cons d replacement (libraries.map f) := by
  simp only [Expansion.renamed, Expansion.cons, List.map_append]

/-- Where the first directive and the rest are renamed, the whole list is. -/
theorem expand_cons_renamed {o' : BundleOptions} {f : String → String}
    {trail : List Location} {d : Directive} {ds : List Directive}
    (hfirst : resolve fs o' trail d
      = (resolve fs o trail d).map fun out => (out.1, out.2.map f))
    (hrest : expand fs o' trail ds = (expand fs o trail ds).map (Expansion.renamed f)) :
    expand fs o' trail (d :: ds) = (expand fs o trail (d :: ds)).map (Expansion.renamed f) := by
  rw [expand_cons, expand_cons, hfirst, hrest]
  cases resolve fs o trail d with
  | error cause => rfl
  | ok out =>
      cases expand fs o trail ds with
      | error cause => rfl
      | ok rest => exact congrArg Except.ok (renamed_cons f d out.1 out.2 rest).symm

/-- **RENAMING**: an expansion with a change of library names is the one without it,
    its libraries renamed. -/
theorem expand_swapping (r : SuffixSwap) (trail : List Location) (ds : List Directive) :
    expand fs (o.swapping (some r)) trail ds
      = (expand fs (o.swapping none) trail ds).map (Expansion.renamed r.apply) := by
  induction trail, ds using expand.induct fs (o.swapping none) with
  | case1 trail =>
      rw [expand_nil, expand_nil]
      rfl
  | case2 trail d ds hkind ih =>
      refine expand_cons_renamed ?_ ih
      rw [resolve_link hkind, resolve_link hkind]
      rfl
  | case3 trail d ds hkind cause hopen =>
      rw [expand_cons, expand_cons,
        resolve_unreadable (o := o.swapping (some r)) hkind hopen,
        resolve_unreadable hkind hopen]
      rfl
  | case4 trail d ds hkind place content hopen hmode ih =>
      refine expand_cons_renamed ?_ ih
      rw [resolve_single (o := o.swapping (some r)) hkind hopen hmode,
        resolve_single hkind hopen hmode]
      rfl
  | case5 trail d ds hkind place content hopen hmode hmem =>
      rw [expand_cons, expand_cons,
        resolve_cycle (o := o.swapping (some r)) hkind hopen hmode hmem,
        resolve_cycle hkind hopen hmode hmem]
      rfl
  | case6 trail d ds hkind place content hopen hmode hnew ihinner ih =>
      refine expand_cons_renamed ?_ ih
      -- what is inlined is a text, and its libraries are renamed with it
      rw [resolve_nested (o := o.swapping (some r)) hkind hopen hmode hnew,
        resolve_nested hkind hopen hmode hnew, ihinner]
      cases expand fs (o.swapping none) (trail ++ [place]) (scan content) <;> rfl

/-! ## Bundles -/

/-- Settling and renaming can be exchanged. -/
theorem settle_renamed (o : BundleOptions) (f : String → String) (source : Bytes)
    (e : Expansion) :
    o.settle ((e.renamed f).bundle source)
      = (o.settle (e.bundle source)).renamed o.mode f := by
  unfold BundleOptions.settle Bundle.renamed
  cases o.mode with
  | single => rfl
  | recursive =>
      have honce : firstOccurrences [] ((firstOccurrences [] e.libraries).map f)
          = firstOccurrences [] (e.libraries.map f) :=
        firstOccurrences_map (List.forall_mem_nil _)
      simp only [Expansion.bundle, Expansion.renamed,
        ← firstOccurrences_eq_withoutRepetitions, honce]

/-- Swapping suffixes renames the libraries of the bundle, whatever the trail. -/
theorem bundleFrom_swapping (r : SuffixSwap) (trail : List Location) (source : Bytes) :
    bundleFrom fs (o.swapping (some r)) trail source
      = (bundleFrom fs (o.swapping none) trail source).map (Bundle.renamed o.mode r.apply) := by
  rw [bundleFrom_eq_map, bundleFrom_eq_map, expand_swapping]
  cases expand fs (o.swapping none) trail (scan source) with
  | error cause => rfl
  | ok e => exact congrArg Except.ok (settle_renamed (o.swapping none) r.apply source e)

/-- Swapping suffixes renames the libraries of an entry's bundle. -/
theorem bundleFile_swapping (r : SuffixSwap) (entry : Path) :
    bundleFile fs (o.swapping (some r)) entry
      = (bundleFile fs (o.swapping none) entry).map (Bundle.renamed o.mode r.apply) := by
  unfold bundleFile
  cases fs.openFile entry with
  | error cause => rfl
  | ok opened => exact bundleFrom_swapping r [opened.1] opened.2

/-- What is left in a renamed bundle are new names. -/
theorem exists_of_mem_renamed {mode : InlineMode} {f : String → String} {bundle : Bundle}
    {library : String} (h : library ∈ (bundle.renamed mode f).libraries) :
    ∃ name ∈ bundle.libraries, f name = library := by
  cases mode with
  | single => exact List.mem_map.mp h
  | recursive =>
      simp only [Bundle.renamed, ← firstOccurrences_eq_withoutRepetitions,
        mem_firstOccurrences] at h
      exact List.mem_map.mp h.1

/-! ## Native names -/

/-- The change made to library names for the native compiler. -/
def nativeSwap : SuffixSwap := ⟨".cma", ".cmxa"⟩

/-- No name that is changed for the native compiler is that of a bytecode archive. -/
theorem not_bytecode_apply (name : String) :
    ¬ ".cma".toList <:+ (nativeSwap.apply name).toList := by
  by_cases hsuffix : ".cma".toList <:+ name.toList
  · obtain ⟨front, hfront⟩ := hsuffix
    have hname : name = String.ofList front ++ nativeSwap.old := by
      rw [← String.toList_inj, String.toList_append, String.toList_ofList]
      exact hfront.symm
    rw [hname, SuffixSwap.apply_append]
    exact not_bytecode_of_native _
  · rw [SuffixSwap.apply_of_not_suffix hsuffix]
    exact hsuffix

/-- What the two backends get. -/
structure BackendsAgree (mode : InlineMode) (native bytecode : Except BundleError Bundle) :
    Prop where
  /-- The same text or the same error, and the libraries renamed. -/
  same : native = bytecode.map (Bundle.renamed mode nativeSwap.apply)
  /-- The native compiler is given no bytecode archive. -/
  noBytecode : ∀ bundle, native = .ok bundle →
    ∀ library ∈ bundle.libraries, ¬ ".cma".toList <:+ library.toList

/-- The backends agree where one bundle is the other with its libraries renamed. -/
theorem BackendsAgree.of_same {mode : InlineMode} {native bytecode : Except BundleError Bundle}
    (h : native = bytecode.map (Bundle.renamed mode nativeSwap.apply)) :
    BackendsAgree mode native bytecode := by
  refine ⟨h, ?_⟩
  rintro bundle rfl library hlibrary
  cases bytecode with
  | error cause => exact nomatch h
  | ok plain =>
      obtain rfl : bundle = plain.renamed mode nativeSwap.apply := Except.ok.inj h
      obtain ⟨name, -, rfl⟩ := exists_of_mem_renamed hlibrary
      exact not_bytecode_apply name

/-- **THE BACKENDS AGREE**: a source, and a file, come to the same text for both
    compilers or to the same error.  The libraries for the native compiler are
    those for the bytecode compiler renamed, in recursive mode without the
    repetitions that this makes, and none is a bytecode archive. -/
theorem backends_agree (fs : FileSystem) (o : BundleOptions) :
    (∀ source, BackendsAgree o.mode
      (bundleSource fs (o.swapping Backend.native.librarySwap) source)
      (bundleSource fs (o.swapping Backend.bytecode.librarySwap) source)) ∧
    ∀ entry, BackendsAgree o.mode
      (bundleFile fs (o.swapping Backend.native.librarySwap) entry)
      (bundleFile fs (o.swapping Backend.bytecode.librarySwap) entry) := by
  constructor
  · intro source
    exact .of_same (bundleFrom_swapping nativeSwap [] source)
  · intro entry
    exact .of_same (bundleFile_swapping nativeSwap entry)

/-- A source that asks for both archives of one library, and for another one. -/
def bothArchives : Bytes := Utf8.encode "#load \"x.cma\";;#load \"x.cmxa\";;#load \"y.cma\";;"

theorem bundleSource_bothArchives :
    bundleSource ⟨[], [], none⟩ (fromRoot.swapping none) bothArchives
      = .ok ⟨[], ["x.cma", "x.cmxa", "y.cma"]⟩ := by
  have hscan : scan bothArchives = [⟨.link, "x.cma", 0, 15, 1⟩, ⟨.link, "x.cmxa", 15, 31, 1⟩,
      ⟨.link, "y.cma", 31, 46, 1⟩] := by
    decide +kernel
  have hlink : ∀ name start stop, resolve ⟨[], [], none⟩ (fromRoot.swapping none) []
      ⟨.link, name, start, stop, 1⟩ = .ok ([], [name]) :=
    fun _ _ _ => resolve_link rfl
  have hexpand := expand_cons_of_ok (hlink "x.cma" 0 15) (expand_cons_of_ok
    (hlink "x.cmxa" 15 31) (expand_cons_of_ok (hlink "y.cma" 31 46) (expand_nil _)))
  rw [← hscan] at hexpand
  rw [bundleSource_of_expand hexpand]
  decide +kernel

/-- Three libraries for the bytecode compiler are two for the native one. -/
theorem backends_agree_bothArchives : fromRoot.mode = .recursive ∧
    bundleSource ⟨[], [], none⟩ (fromRoot.swapping Backend.native.librarySwap) bothArchives
      = .ok ⟨[], ["x.cmxa", "y.cmxa"]⟩ := by
  obtain ⟨hsource, -⟩ := backends_agree ⟨[], [], none⟩ fromRoot
  have hsame := (hsource bothArchives).same
  rw [show Backend.bytecode.librarySwap = none from rfl, bundleSource_bothArchives] at hsame
  exact ⟨rfl, hsame.trans (by decide +kernel)⟩

end SourceBundle
