import SourceBundle.Proofs.DirectiveForms
import SourceBundle.Proofs.IncludeGraph

/-! # Depth first — the directive that is refused first

    `meetings` lists the directives below a source in the order of a depth-first
    walk of its include tree: each with the bytes it stands in and the files that
    lead there, and before its successor everything met in its own file.  The walk
    refuses nothing; it only does not go into a file twice on one path.

    A meeting is refused if its file cannot be read, or is one of the files that
    lead there.  An expansion fails as the first refused meeting of its walk says,
    and only if there is one (`refusalOf_expand`, `bundleSource_first_refused`). -/

namespace SourceBundle

variable {fs : FileSystem} {o : BundleOptions} {α β γ : Type}

/-! ## The walk -/

/-- A directive where it is met. -/
structure Meeting where
  /-- The bytes it stands in. -/
  source : Bytes
  /-- The files that lead there, outermost first. -/
  trail : List Location
  directive : Directive
  deriving DecidableEq, Repr

/-- The file that the walk goes into at a directive: that of a `#use`, in recursive
    mode, if it can be read and is not on the trail. -/
def descent? (fs : FileSystem) (o : BundleOptions) (trail : List Location)
    (d : Directive) : Option (Location × Bytes) :=
  if o.mode = .recursive ∧ d.kind = .inline then
    match fs.openFile (o.includePath d) with
    | .ok (place, content) => if place ∈ trail then none else some (place, content)
    | .error _ => none
  else none

/-- A walk goes down where a file that is not on the trail is included recursively. -/
theorem descent?_eq_some_iff {trail : List Location} {d : Directive}
    {place : Location} {content : Bytes} :
    descent? fs o trail d = some (place, content) ↔
      o.mode = .recursive ∧ d.kind = .inline ∧
        fs.openFile (o.includePath d) = .ok (place, content) ∧ place ∉ trail := by
  unfold descent?
  constructor
  · intro h
    split at h
    · next hguard =>
        split at h
        · next hopen =>
            split at h
            · cases h
            · next hnew =>
                obtain ⟨rfl, rfl⟩ := Prod.mk.inj (Option.some.inj h)
                exact ⟨hguard.1, hguard.2, hopen, hnew⟩
        · cases h
    · cases h
  · rintro ⟨hmode, hkind, hopen, hnew⟩
    rw [if_pos ⟨hmode, hkind⟩, hopen]
    exact if_neg hnew

/-- Each step down leaves fewer files that can still be opened. -/
theorem length_unopened_descent {trail : List Location} {d : Directive}
    {place : Location} {content : Bytes}
    (h : descent? fs o trail d = some (place, content)) :
    (unopened fs (trail ++ [place])).length < (unopened fs trail).length := by
  obtain ⟨-, -, hopen, hnew⟩ := descent?_eq_some_iff.mp h
  exact length_unopened_lt (fs.mem_filePlaces_of_openFile hopen) hnew

/-- The directives met from some directives of a source on, depth first. -/
def meetings (fs : FileSystem) (o : BundleOptions) (source : Bytes)
    (trail : List Location) : List Directive → List Meeting
  | [] => []
  | d :: ds =>
      ⟨source, trail, d⟩ :: ((match _h : descent? fs o trail d with
        | some (place, content) =>
            meetings fs o content (trail ++ [place]) (scan content)
        | none => [])
        ++ meetings fs o source trail ds)
termination_by ds => ((unopened fs trail).length, ds.length)
decreasing_by
  · exact Prod.Lex.left _ _ (length_unopened_descent _h)
  · exact Prod.Lex.right _ (Nat.lt_succ_self _)

theorem meetings_nil (source : Bytes) (trail : List Location) :
    meetings fs o source trail [] = [] := by
  rw [meetings]

/-- A directive of whose file the walk meets nothing. -/
theorem meetings_cons_of_none {source : Bytes} {trail : List Location} {d : Directive}
    (h : descent? fs o trail d = none) (ds : List Directive) :
    meetings fs o source trail (d :: ds)
      = ⟨source, trail, d⟩ :: meetings fs o source trail ds := by
  rw [meetings]
  split
  · next hsome => exact nomatch h.symm.trans hsome
  · rfl

/-- Between a directive and the next one the walk meets those of its file. -/
theorem meetings_cons_of_some {source content : Bytes} {trail : List Location}
    {d : Directive} {place : Location}
    (h : descent? fs o trail d = some (place, content)) (ds : List Directive) :
    meetings fs o source trail (d :: ds)
      = ⟨source, trail, d⟩ :: (meetings fs o content (trail ++ [place]) (scan content)
        ++ meetings fs o source trail ds) := by
  rw [meetings]
  split
  · next hsome =>
      obtain ⟨rfl, rfl⟩ := Prod.mk.inj (Option.some.inj (h.symm.trans hsome))
      rfl
  · next hnone => exact nomatch h.symm.trans hnone

/-! ## Refusals -/

/-- A meeting is refused: its file cannot be read, or is one of those that lead
    there.  The line of a directive counts in the bytes it stands in. -/
inductive Meeting.Refused (fs : FileSystem) (o : BundleOptions) (m : Meeting) :
    BundleError → Prop where
  | unreadable {cause : OsError} :
      m.directive.kind = .inline →
      fs.openFile (o.includePath m.directive) = .error cause →
      m.Refused fs o (.unreadableInclude (o.includePath m.directive)
        (1 + (m.source.take m.directive.start).count lineFeed) cause)
  | cycle {place : Location} {content : Bytes} :
      o.mode = .recursive → m.directive.kind = .inline →
      fs.openFile (o.includePath m.directive) = .ok (place, content) →
      place ∈ m.trail →
      m.Refused fs o (.includeCycle ((m.trail ++ [place]).map Path.ofLocation))

/-- Why a meeting is refused, if it is. -/
def Meeting.refusal? (fs : FileSystem) (o : BundleOptions) (m : Meeting) :
    Option BundleError :=
  match m.directive.kind with
  | .link => none
  | .inline =>
      match fs.openFile (o.includePath m.directive) with
      | .error cause => some (.unreadableInclude (o.includePath m.directive)
          (1 + (m.source.take m.directive.start).count lineFeed) cause)
      | .ok (place, _) =>
          if o.mode = .recursive ∧ place ∈ m.trail then
            some (.includeCycle ((m.trail ++ [place]).map Path.ofLocation))
          else none

/-- The refusal of a meeting is the one cause that it is refused for. -/
theorem Meeting.refusal?_eq_some_iff {m : Meeting} {cause : BundleError} :
    m.refusal? fs o = some cause ↔ m.Refused fs o cause := by
  unfold Meeting.refusal?
  constructor
  · intro h
    split at h
    · cases h
    · next hkind =>
        split at h
        · next hopen =>
            obtain rfl := Option.some.inj h
            exact .unreadable hkind hopen
        · next hopen =>
            split at h
            · next hcycle =>
                obtain rfl := Option.some.inj h
                exact .cycle hcycle.1 hkind hopen hcycle.2
            · cases h
  · intro h
    cases h with
    | unreadable hkind hopen => simp only [hkind, hopen]
    | cycle hmode hkind hopen hmem =>
        simp only [hkind, hopen, if_pos (And.intro hmode hmem)]

/-- A meeting without a refusal is refused for no cause. -/
theorem Meeting.refusal?_eq_none_iff {m : Meeting} :
    m.refusal? fs o = none ↔ ∀ cause, ¬ m.Refused fs o cause := by
  rw [Option.eq_none_iff_forall_ne_some]
  constructor
  · intro h cause hrefused
    exact h cause (refusal?_eq_some_iff.mpr hrefused)
  · intro h cause hsome
    exact h cause (refusal?_eq_some_iff.mp hsome)

/-! ## The first refusal -/

/-- Why there is no result. -/
def refusalOf : Except BundleError α → Option BundleError
  | .ok _ => none
  | .error cause => some cause

@[simp] theorem refusalOf_map (f : α → β) (result : Except BundleError α) :
    refusalOf (result.map f) = refusalOf result := by
  cases result <;> rfl

/-- Of two parts the first one that fails is why both do. -/
theorem refusalOf_both (first : Except BundleError α) (second : Except BundleError β)
    (f : α → β → γ) :
    refusalOf (first.bind fun a => second.map (f a))
      = (refusalOf first).or (refusalOf second) := by
  cases first with
  | ok a => exact refusalOf_map _ _
  | error cause => rfl

theorem refusalOf_eq_some_iff {result : Except BundleError α} {cause : BundleError} :
    refusalOf result = some cause ↔ result = .error cause := by
  cases result with
  | ok a => simp [refusalOf]
  | error cause' => simp [refusalOf]

/-- A directive whose file the walk does not go into fails if its meeting is refused. -/
theorem refusalOf_resolve_of_none {source : Bytes} {trail : List Location} {d : Directive}
    (hline : d.line = 1 + (source.take d.start).count lineFeed)
    (h : descent? fs o trail d = none) :
    refusalOf (resolve fs o trail d) = (Meeting.mk source trail d).refusal? fs o := by
  unfold Meeting.refusal?
  cases hkind : d.kind with
  | link =>
      rw [resolve_link hkind]
      rfl
  | inline =>
      cases hopen : fs.openFile (o.includePath d) with
      | error cause =>
          rw [resolve_unreadable hkind hopen, hline]
          rfl
      | ok opened =>
          obtain ⟨place, content⟩ := opened
          cases hmode : o.mode with
          | single =>
              rw [resolve_single hkind hopen hmode]
              rfl
          | recursive =>
              by_cases hmem : place ∈ trail
              · rw [resolve_cycle hkind hopen hmode hmem]
                exact (if_pos ⟨rfl, hmem⟩).symm
              · have hsome := descent?_eq_some_iff.mpr ⟨hmode, hkind, hopen, hmem⟩
                exact nomatch h.symm.trans hsome

/-- The meeting of a directive whose file the walk goes into is not refused. -/
theorem refusal?_of_descent {source content : Bytes} {trail : List Location}
    {d : Directive} {place : Location}
    (h : descent? fs o trail d = some (place, content)) :
    (Meeting.mk source trail d).refusal? fs o = none := by
  obtain ⟨-, hkind, hopen, hnew⟩ := descent?_eq_some_iff.mp h
  simp only [Meeting.refusal?, hkind, hopen, hnew, and_false, if_false]

/-- **FIRST REFUSAL**: an expansion fails exactly as the first refused meeting of the
    walk, and succeeds if there is none. -/
theorem refusalOf_expand {source : Bytes} {trail : List Location} {ds : List Directive}
    (hds : ∀ d ∈ ds, d ∈ scan source) :
    refusalOf (expand fs o trail ds)
      = (meetings fs o source trail ds).findSome? (Meeting.refusal? fs o) := by
  induction source, trail, ds using meetings.induct fs o with
  | case1 source trail =>
      rw [expand_nil, meetings_nil]
      rfl
  | case2 source trail d ds ihinner ih =>
      obtain ⟨-, -, -, -, -, -, -, hline⟩ :=
        (reads_scan source).stands d (hds d List.mem_cons_self)
      have hrest := ih fun d' hd' => hds d' (List.mem_cons_of_mem _ hd')
      rw [expand_cons, refusalOf_both, hrest]
      cases hdescent : descent? fs o trail d with
      | none =>
          rw [meetings_cons_of_none hdescent, refusalOf_resolve_of_none hline hdescent,
            List.findSome?_cons]
          cases (Meeting.mk source trail d).refusal? fs o <;> rfl
      | some opened =>
          obtain ⟨place, content⟩ := opened
          obtain ⟨hmode, hkind, hopen, hnew⟩ := descent?_eq_some_iff.mp hdescent
          have hinner := ihinner place content hdescent fun _ hd' => hd'
          rw [meetings_cons_of_some hdescent, List.findSome?_cons,
            refusal?_of_descent hdescent, List.findSome?_append,
            resolve_nested hkind hopen hmode hnew, refusalOf_map, hinner]

/-! ## The files that lead to a meeting -/

/-- Each file of the trail includes the next, none comes twice, and the bytes are those
    of the last. -/
structure IncludePath (fs : FileSystem) (o : BundleOptions) (trail : List Location)
    (source : Bytes) : Prop where
  chain : trail.IsChain (Includes fs o)
  distinct : trail.Nodup
  holds : ∀ place ∈ trail.getLast?, fs.contentAt? place = some source

namespace IncludePath

theorem nil (source : Bytes) : IncludePath fs o [] source :=
  ⟨.nil, List.nodup_nil, by simp⟩

theorem single {place : Location} {content : Bytes}
    (h : fs.contentAt? place = some content) : IncludePath fs o [place] content :=
  ⟨.singleton _, List.nodup_singleton _, by simpa using h⟩

/-- A directive of the bytes leads one file further. -/
theorem extend {trail : List Location} {source content : Bytes} {d : Directive}
    {place : Location} (h : IncludePath fs o trail source) (hd : d ∈ scan source)
    (hkind : d.kind = .inline)
    (hopen : fs.openFile (o.includePath d) = .ok (place, content)) :
    (trail ++ [place]).IsChain (Includes fs o) := by
  refine List.isChain_append.mpr ⟨h.chain, .singleton _, ?_⟩
  intro last hlast next hnext
  obtain rfl : place = next := by simpa using hnext
  exact ⟨d, ⟨source, h.holds last hlast, hd, hkind⟩, (openFile_eq_ok_iff.mp hopen).1⟩

/-- **ONE STEP**: the walk goes on along an include path. -/
theorem descend {trail : List Location} {source content : Bytes} {d : Directive}
    {place : Location} (h : IncludePath fs o trail source) (hd : d ∈ scan source)
    (hdescent : descent? fs o trail d = some (place, content)) :
    IncludePath fs o (trail ++ [place]) content := by
  obtain ⟨-, hkind, hopen, hnew⟩ := descent?_eq_some_iff.mp hdescent
  refine ⟨h.extend hd hkind hopen, ?_, ?_⟩
  · exact List.nodup_append_comm.mp (List.nodup_cons.mpr ⟨hnew, h.distinct⟩)
  · intro last hlast
    obtain rfl : place = last := by simpa using hlast
    exact (openFile_eq_ok_iff.mp hopen).2

end IncludePath

/-- **THE WALK STAYS ON INCLUDE PATHS**: a meeting is with a directive of the file that
    its trail ends at, and its trail goes on from where the walk began. -/
theorem path_of_meeting {source : Bytes} {trail : List Location} {ds : List Directive}
    (hpath : IncludePath fs o trail source) (hds : ∀ d ∈ ds, d ∈ scan source) {m : Meeting}
    (hm : m ∈ meetings fs o source trail ds) :
    m.directive ∈ scan m.source ∧ IncludePath fs o m.trail m.source ∧
      trail <+: m.trail ∧ (m.trail = trail → m.source = source) := by
  induction source, trail, ds using meetings.induct fs o with
  | case1 source trail =>
      rw [meetings_nil] at hm
      cases hm
  | case2 source trail d ds ihinner ih =>
      have hd := hds d List.mem_cons_self
      have hrest := ih hpath fun d' hd' => hds d' (List.mem_cons_of_mem _ hd')
      cases hdescent : descent? fs o trail d with
      | none =>
          rw [meetings_cons_of_none hdescent] at hm
          rcases List.mem_cons.mp hm with rfl | hm
          · exact ⟨hd, hpath, List.prefix_rfl, fun _ => rfl⟩
          · exact hrest hm
      | some opened =>
          obtain ⟨place, content⟩ := opened
          rw [meetings_cons_of_some hdescent] at hm
          rcases List.mem_cons.mp hm with rfl | hm
          · exact ⟨hd, hpath, List.prefix_rfl, fun _ => rfl⟩
          · rcases List.mem_append.mp hm with hm | hm
            · obtain ⟨hmeets, hdeeper, hgoes, -⟩ := ihinner place content hdescent
                (hpath.descend hd hdescent) (fun _ hd' => hd') hm
              refine ⟨hmeets, hdeeper, (List.prefix_append _ _).trans hgoes, ?_⟩
              -- a deeper trail is longer
              intro hsame
              have hlen := hgoes.length_le
              rw [hsame, List.length_append, List.length_singleton] at hlen
              omega
            · exact hrest hm

/-! ## Sources -/

/-- **DEPTH FIRST**: bundling fails with the first refusal that the walk meets. -/
theorem refusalOf_bundleFrom (trail : List Location) (source : Bytes) :
    refusalOf (bundleFrom fs o trail source)
      = (meetings fs o source trail (scan source)).findSome? (Meeting.refusal? fs o) := by
  rw [bundleFrom_eq_map, refusalOf_map, refusalOf_expand fun _ hd => hd]

/-- A bundling fails as its first refused meeting. -/
theorem bundleFrom_eq_error_iff {trail : List Location} {source : Bytes}
    {cause : BundleError} :
    bundleFrom fs o trail source = .error cause ↔
      ∃ before m after, meetings fs o source trail (scan source) = before ++ m :: after ∧
        (∀ m' ∈ before, ∀ cause', ¬ m'.Refused fs o cause') ∧ m.Refused fs o cause := by
  rw [← refusalOf_eq_some_iff, refusalOf_bundleFrom, List.findSome?_eq_some_iff]
  simp only [Meeting.refusal?_eq_some_iff, Meeting.refusal?_eq_none_iff]
  constructor
  · rintro ⟨before, m, after, hwalk, hrefused, hfirst⟩
    exact ⟨before, m, after, hwalk, hfirst, hrefused⟩
  · rintro ⟨before, m, after, hwalk, hfirst, hrefused⟩
    exact ⟨before, m, after, hwalk, hrefused, hfirst⟩

/-- In single mode the walk meets the directives of the source. -/
theorem meetings_single {source : Bytes} {trail : List Location} (hmode : o.mode = .single)
    (ds : List Directive) :
    meetings fs o source trail ds = ds.map (Meeting.mk source trail) := by
  induction ds with
  | nil => exact meetings_nil _ _
  | cons d ds ih =>
      have hnone : descent? fs o trail d = none := by
        unfold descent?
        rw [hmode, if_neg]
        exact fun h => nomatch h.1
      rw [meetings_cons_of_none hnone, ih, List.map_cons]

/-- In single mode a directive is refused if its file cannot be read. -/
theorem refused_single_iff {source : Bytes} {d : Directive} (hmode : o.mode = .single) :
    (∃ cause, (Meeting.mk source [] d).Refused fs o cause) ↔
      d.kind = .inline ∧ ¬ fs.Readable (o.includePath d) := by
  constructor
  · rintro ⟨cause, hrefused⟩
    cases hrefused with
    | unreadable hkind hopen =>
        refine ⟨hkind, fun hread => ?_⟩
        obtain ⟨place, content, hopen'⟩ := readable_iff.mp hread
        exact nomatch hopen.symm.trans hopen'
    | cycle hrecursive => exact nomatch hmode.symm.trans hrecursive
  · rintro ⟨hkind, hread⟩
    cases hopen : fs.openFile (o.includePath d) with
    | error cause => exact ⟨_, .unreadable hkind hopen⟩
    | ok opened => exact absurd (readable_iff.mpr ⟨opened.1, opened.2, hopen⟩) hread

/-- Bundling fails exactly if the walk meets something that is refused. -/
theorem bundleFrom_fails_iff {trail : List Location} {source : Bytes} :
    (∃ cause, bundleFrom fs o trail source = .error cause) ↔
      ∃ m ∈ meetings fs o source trail (scan source), ∃ cause, m.Refused fs o cause := by
  simp only [← refusalOf_eq_some_iff, ← Meeting.refusal?_eq_some_iff,
    ← Option.isSome_iff_exists, refusalOf_bundleFrom, List.findSome?_isSome_iff]

/-- **THE FIRST ONE IS REPORTED**: the bundling of a source fails exactly as the first
    refused meeting of its depth-first walk.  A meeting is with a directive of the
    source or of the file that its trail leads to, and it is in those bytes that a
    refusal counts its line.  In single mode these are the directives of the source,
    and the bundling fails exactly if the file of a `#use` cannot be read. -/
theorem bundleSource_first_refused (fs : FileSystem) (o : BundleOptions)
    (source : Bytes) :
    (∀ cause, bundleSource fs o source = .error cause ↔
      ∃ before m after, meetings fs o source [] (scan source) = before ++ m :: after ∧
        (∀ m' ∈ before, ∀ cause', ¬ m'.Refused fs o cause') ∧ m.Refused fs o cause) ∧
    (∀ m ∈ meetings fs o source [] (scan source),
      m.directive ∈ scan m.source ∧ IncludePath fs o m.trail m.source ∧
        (m.trail = [] → m.source = source)) ∧
    (o.mode = .single →
      meetings fs o source [] (scan source) = (scan source).map (Meeting.mk source []) ∧
      ((∃ cause, bundleSource fs o source = .error cause) ↔
        ∃ d ∈ scan source, d.kind = .inline ∧ ¬ fs.Readable (o.includePath d))) := by
  refine ⟨fun cause => bundleFrom_eq_error_iff, ?_, ?_⟩
  · intro m hm
    obtain ⟨hmeets, hpath, -, hsource⟩ := path_of_meeting (.nil source) (fun _ hd => hd) hm
    exact ⟨hmeets, hpath, hsource⟩
  · intro hmode
    have hwalk : meetings fs o source [] (scan source)
        = (scan source).map (Meeting.mk source []) := meetings_single hmode _
    refine ⟨hwalk, ?_⟩
    unfold bundleSource
    rw [bundleFrom_fails_iff, hwalk]
    constructor
    · rintro ⟨m, hm, hrefused⟩
      obtain ⟨d, hd, rfl⟩ := List.mem_map.mp hm
      exact ⟨d, hd, (refused_single_iff hmode).mp hrefused⟩
    · rintro ⟨d, hd, hunread⟩
      exact ⟨_, List.mem_map_of_mem hd, (refused_single_iff hmode).mpr hunread⟩

/-- A file `a` that includes a missing file `z` on its second line. -/
def missingBelow : FileSystem :=
  ⟨[([Utf8.encode "a"], .file (Utf8.encode "\n#use \"z\";;") false)], [], none⟩

/-- A missing library, the file `a`, and behind it a missing file. -/
def usesMissing : Bytes := Utf8.encode "#load \"l\";;#use \"a\";;#use \"y\";;"

/-- A single pass with paths seen from the root. -/
def onceFromRoot : BundleOptions := ⟨Path.ofText "/", .single, none⟩

/-- In recursive mode the file missing below `a` is reported, with its line in `a`; in
    single mode only the one that the source itself uses is missed. -/
theorem bundleSource_usesMissing :
    bundleSource missingBelow fromRoot usesMissing
      = .error (.unreadableInclude (Path.ofText "/z") 2 .noSuchFile) ∧
    onceFromRoot.mode = .single ∧
    ∃ cause, bundleSource missingBelow onceFromRoot usesMissing = .error cause := by
  have hscan : scan usesMissing = [⟨.link, "l", 0, 11, 1⟩, ⟨.inline, "a", 11, 21, 1⟩,
      ⟨.inline, "y", 21, 31, 1⟩] := by
    decide +kernel
  have hscanA : scan (Utf8.encode "\n#use \"z\";;") = [⟨.inline, "z", 1, 11, 2⟩] := by
    decide +kernel
  have hopenA : missingBelow.openFile (fromRoot.includePath ⟨.inline, "a", 11, 21, 1⟩)
      = .ok ([Utf8.encode "a"], Utf8.encode "\n#use \"z\";;") := by
    cbv
  have hopenY : missingBelow.openFile (onceFromRoot.includePath ⟨.inline, "y", 21, 31, 1⟩)
      = .error .noSuchFile := by
    cbv
  have hopenZ : missingBelow.openFile (fromRoot.includePath ⟨.inline, "z", 1, 11, 2⟩)
      = .error .noSuchFile := by
    cbv
  have hdescent := descent?_eq_some_iff.mpr
    ⟨(rfl : fromRoot.mode = .recursive), rfl, hopenA, List.not_mem_nil⟩
  obtain ⟨hreports, -, -⟩ := bundleSource_first_refused missingBelow fromRoot usesMissing
  obtain ⟨-, -, hsingle⟩ := bundleSource_first_refused missingBelow onceFromRoot usesMissing
  refine ⟨?_, rfl, ?_⟩
  · refine (hreports _).mpr ⟨[⟨usesMissing, [], ⟨.link, "l", 0, 11, 1⟩⟩,
        ⟨usesMissing, [], ⟨.inline, "a", 11, 21, 1⟩⟩],
      ⟨Utf8.encode "\n#use \"z\";;", [[Utf8.encode "a"]], ⟨.inline, "z", 1, 11, 2⟩⟩,
      meetings missingBelow fromRoot usesMissing [] [⟨.inline, "y", 21, 31, 1⟩], ?_, ?_,
      .unreadable rfl hopenZ⟩
    · rw [hscan, meetings_cons_of_none rfl, meetings_cons_of_some hdescent, hscanA,
        meetings_cons_of_none (by rw [descent?, hopenZ]; rfl), meetings_nil]
      rfl
    · refine List.forall_mem_cons.mpr ⟨?_, List.forall_mem_singleton.mpr ?_⟩
      · exact Meeting.refusal?_eq_none_iff.mp rfl
      · exact Meeting.refusal?_eq_none_iff.mp (refusal?_of_descent hdescent)
  · obtain ⟨-, hfails⟩ := hsingle rfl
    refine hfails.mpr ⟨⟨.inline, "y", 21, 31, 1⟩, ?_, rfl, ?_⟩
    · rw [hscan]
      decide
    · rintro ⟨content, hread⟩
      rw [FileSystem.contents, hopenY] at hread
      cases hread

end SourceBundle
