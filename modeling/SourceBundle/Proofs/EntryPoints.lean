import SourceBundle.Proofs.IncludeCycles

/-! # Entry points — a file, or its bytes

    The bundling of a file starts with the file on the trail, that of its bytes with
    an empty trail.  A longer trail only forbids more: an expansion on it comes to
    the same or is refused for a cycle (`outcome_expand_longer`).

    If the file is refused for a cycle below itself, so is every expansion that goes
    into it, one round later.  Then it makes no difference to any outcome whether the
    file is on the trail from the start (`outcome_expand_behind`).  So the two agree
    but for the chain of a cycle (`entryPoints_agree`). -/

namespace SourceBundle

variable {fs : FileSystem} {o : BundleOptions} {α β γ : Type}

/-! ## Outcomes -/

/-- An error, without the chain of a cycle. -/
def BundleError.withoutChain : BundleError → BundleError
  | .includeCycle _ => .includeCycle []
  | cause => cause

/-- A result up to the chain of a cycle. -/
def outcome (result : Except BundleError α) : Except BundleError α :=
  result.mapError BundleError.withoutChain

/-- The outcome of a refusal for a cycle. -/
def cyclic : Except BundleError α := .error (.includeCycle [])

/-- Looking at the outcome leaves the value alone. -/
theorem outcome_map (f : α → β) (result : Except BundleError α) :
    outcome (result.map f) = (outcome result).map f := by
  cases result <;> rfl

theorem outcome_both (first : Except BundleError α) (second : Except BundleError β)
    (f : α → β → γ) :
    outcome (first.bind fun a => second.map (f a))
      = (outcome first).bind fun a => (outcome second).map (f a) := by
  cases first with
  | ok a => exact outcome_map _ _
  | error cause => rfl

/-- Results are their own outcomes. -/
theorem outcome_eq_ok_iff {result : Except BundleError α} {a : α} :
    outcome result = .ok a ↔ result = .ok a := by
  cases result with
  | ok b => exact Iff.rfl
  | error cause =>
      constructor
      · intro h
        exact nomatch h
      · intro h
        exact nomatch h

/-- The outcome of a cycle does not tell its chain. -/
theorem outcome_eq_cyclic_iff {result : Except BundleError α} :
    outcome result = cyclic ↔ ∃ chain, result = .error (.includeCycle chain) := by
  constructor
  · intro h
    cases result with
    | ok a => exact nomatch h
    | error cause =>
        have hcause : cause.withoutChain = .includeCycle [] := Except.error.inj h
        cases cause with
        | includeCycle chain => exact ⟨chain, rfl⟩
        | unreadableEntry p why => exact nomatch hcause
        | unreadableInclude p line why => exact nomatch hcause
  · rintro ⟨chain, rfl⟩
    rfl

/-- An unreadable include keeps its path, line and cause. -/
theorem outcome_eq_unreadable_iff {result : Except BundleError α} {p : Path} {line : Nat}
    {why : OsError} :
    outcome result = .error (.unreadableInclude p line why) ↔
      result = .error (.unreadableInclude p line why) := by
  constructor
  · intro h
    cases result with
    | ok a => exact nomatch h
    | error cause =>
        have hcause : cause.withoutChain = .unreadableInclude p line why :=
          Except.error.inj h
        cases cause with
        | includeCycle chain => exact nomatch hcause
        | unreadableEntry p' why' => exact nomatch hcause
        | unreadableInclude p' line' why' => exact congrArg Except.error hcause
  · rintro rfl
    rfl

/-- The outcome of a list is that of its first directive, then that of the rest. -/
theorem outcome_expand_cons (trail : List Location) (d : Directive) (ds : List Directive) :
    outcome (expand fs o trail (d :: ds))
      = (outcome (resolve fs o trail d)).bind fun out =>
          (outcome (expand fs o trail ds)).map fun rest => rest.cons d out.1 out.2 := by
  rw [expand_cons, outcome_both]

/-- An include of a file that is on the trail is cyclic. -/
theorem outcome_resolve_cycle {trail : List Location} {d : Directive} {place : Location}
    {content : Bytes} (hkind : d.kind = .inline)
    (hopen : fs.openFile (o.includePath d) = .ok (place, content))
    (hmode : o.mode = .recursive) (hmem : place ∈ trail) :
    outcome (resolve fs o trail d) = cyclic := by
  rw [resolve_cycle hkind hopen hmode hmem]
  rfl

/-! ## Longer trails -/

/-- Where a part is refused for a cycle or comes to the same, the whole does. -/
theorem cyclic_or_both {first first' : Except BundleError α}
    {second second' : Except BundleError β} (f : α → β → γ)
    (hfirst : first' = cyclic ∨ first' = first)
    (hsecond : second' = cyclic ∨ second' = second) :
    (first'.bind fun a => second'.map (f a)) = cyclic ∨
    (first'.bind fun a => second'.map (f a)) = first.bind fun a => second.map (f a) := by
  rcases hfirst with rfl | rfl
  · exact .inl rfl
  · rcases hsecond with rfl | rfl
    · -- a second part is not reached behind a first one that fails
      cases first' with
      | ok a => exact .inl rfl
      | error cause => exact .inr rfl
    · exact .inr rfl

/-- **LONGER TRAILS**: with more files on its trail an expansion comes to the same or
    is refused for a cycle. -/
theorem outcome_expand_longer {trail trail' : List Location} {ds : List Directive}
    (hsub : trail ⊆ trail') :
    outcome (expand fs o trail' ds) = cyclic ∨
    outcome (expand fs o trail' ds) = outcome (expand fs o trail ds) := by
  induction trail, ds using expand.induct fs o generalizing trail' with
  | case1 trail =>
      rw [expand_nil, expand_nil]
      exact .inr rfl
  | case2 trail d ds hkind ih =>
      rw [outcome_expand_cons, outcome_expand_cons, resolve_link hkind, resolve_link hkind]
      exact cyclic_or_both _ (.inr rfl) (ih hsub)
  | case3 trail d ds hkind cause hopen =>
      rw [expand_cons, expand_cons, resolve_unreadable hkind hopen,
        resolve_unreadable hkind hopen]
      exact .inr rfl
  | case4 trail d ds hkind place content hopen hmode ih =>
      rw [outcome_expand_cons, outcome_expand_cons, resolve_single hkind hopen hmode,
        resolve_single hkind hopen hmode]
      exact cyclic_or_both _ (.inr rfl) (ih hsub)
  | case5 trail d ds hkind place content hopen hmode hmem =>
      rw [outcome_expand_cons, outcome_resolve_cycle hkind hopen hmode (hsub hmem)]
      exact .inl rfl
  | case6 trail d ds hkind place content hopen hmode hnew ihinner ih =>
      rw [outcome_expand_cons, outcome_expand_cons]
      refine cyclic_or_both _ ?_ (ih hsub)
      by_cases hmem : place ∈ trail'
      · exact .inl (outcome_resolve_cycle hkind hopen hmode hmem)
      · have hsub' : trail ++ [place] ⊆ trail' ++ [place] :=
          List.append_subset.mpr ⟨List.subset_append_of_subset_left _ hsub,
            List.subset_append_right _ _⟩
        rw [resolve_nested hkind hopen hmode hmem, resolve_nested hkind hopen hmode hnew,
          outcome_map, outcome_map]
        rcases ihinner hsub' with hinner | hinner
        · rw [hinner]
          exact .inl rfl
        · rw [hinner]
          exact .inr rfl

/-! ## A file that is on a cycle -/

/-- **ONE ROUND LATER**: behind a file that is refused for a cycle below itself, every
    expansion comes to what it comes to without that file on the trail. -/
theorem outcome_expand_behind {root : Location} {source : Bytes}
    (hroot : fs.contentAt? root = some source)
    (hcycle : outcome (expand fs o [root] (scan source)) = cyclic)
    (trail : List Location) (ds : List Directive) :
    outcome (expand fs o (root :: trail) ds) = outcome (expand fs o trail ds) := by
  induction trail, ds using expand.induct fs o with
  | case1 trail => rw [expand_nil, expand_nil]
  | case2 trail d ds hkind ih =>
      rw [outcome_expand_cons, outcome_expand_cons, resolve_link hkind, resolve_link hkind, ih]
  | case3 trail d ds hkind cause hopen =>
      rw [expand_cons, expand_cons, resolve_unreadable hkind hopen,
        resolve_unreadable hkind hopen]
      rfl
  | case4 trail d ds hkind place content hopen hmode ih =>
      rw [outcome_expand_cons, outcome_expand_cons, resolve_single hkind hopen hmode,
        resolve_single hkind hopen hmode, ih]
  | case5 trail d ds hkind place content hopen hmode hmem =>
      rw [outcome_expand_cons, outcome_expand_cons,
        outcome_resolve_cycle hkind hopen hmode hmem,
        outcome_resolve_cycle hkind hopen hmode (List.mem_cons_of_mem _ hmem)]
      rfl
  | case6 trail d ds hkind place content hopen hmode hnew ihinner ih =>
      rw [outcome_expand_cons, outcome_expand_cons, ih, resolve_nested hkind hopen hmode hnew,
        outcome_map]
      by_cases hsame : place = root
      · -- the walk is back at the file: the longer trail says so, the other one lets it in
        subst hsame
        obtain rfl : content = source :=
          Option.some.inj ((openFile_eq_ok_iff.mp hopen).2.symm.trans hroot)
        have hinner : outcome (expand fs o (trail ++ [place]) (scan content)) = cyclic := by
          rcases outcome_expand_longer (List.subset_append_right trail [place]) with h | h
          · exact h
          · exact h.trans hcycle
        rw [outcome_resolve_cycle hkind hopen hmode List.mem_cons_self, hinner]
        rfl
      · have hnew' : place ∉ root :: trail := by
          intro hmem
          rcases List.mem_cons.mp hmem with hback | hmem
          · exact hsame hback
          · exact hnew hmem
        rw [resolve_nested hkind hopen hmode hnew', outcome_map, List.cons_append, ihinner]

/-- A file comes to the same outcome whether or not it is on the trail from the start. -/
theorem outcome_expand_root {root : Location} {source : Bytes}
    (hroot : fs.contentAt? root = some source) :
    outcome (expand fs o [root] (scan source)) = outcome (expand fs o [] (scan source)) := by
  rcases outcome_expand_longer (List.nil_subset [root]) with hcycle | hsame
  · exact outcome_expand_behind hroot hcycle [] (scan source)
  · exact hsame

/-! ## Bundles -/

/-- In single mode no trail matters. -/
theorem expand_single_trail (hmode : o.mode = .single) (trail trail' : List Location)
    (ds : List Directive) : expand fs o trail ds = expand fs o trail' ds := by
  induction ds with
  | nil => rw [expand_nil, expand_nil]
  | cons d ds ih =>
      have hresolve : resolve fs o trail d = resolve fs o trail' d := by
        simp only [resolve, hmode]
      rw [expand_cons, expand_cons, hresolve, ih]

/-- **THE ENTRY POINTS AGREE**: the file at a path is bundled as its bytes are.  In
    single mode the two results are equal; in recursive mode they are up to the chain
    of a cycle, which without the file on the trail can go one round further. -/
theorem entryPoints_agree {entry : Path} {source : Bytes}
    (hread : fs.contents entry = .ok source) :
    (o.mode = .single → bundleFile fs o entry = bundleSource fs o source) ∧
    (o.mode = .recursive →
      (∀ bundle, bundleFile fs o entry = .ok bundle ↔
        bundleSource fs o source = .ok bundle) ∧
      (∀ p line why, bundleFile fs o entry = .error (.unreadableInclude p line why) ↔
        bundleSource fs o source = .error (.unreadableInclude p line why)) ∧
      ((∃ chain, bundleFile fs o entry = .error (.includeCycle chain)) ↔
        ∃ chain, bundleSource fs o source = .error (.includeCycle chain))) := by
  obtain ⟨root, hopen⟩ := contents_eq_ok_iff.mp hread
  have hroot := (openFile_eq_ok_iff.mp hopen).2
  rw [bundleFile_of_open hopen, bundleSource]
  refine ⟨fun hmode => ?_, fun _ => ?_⟩
  · rw [bundleFrom_eq_map, bundleFrom_eq_map, expand_single_trail hmode]
  · have hsame : outcome (bundleFrom fs o [root] source)
        = outcome (bundleFrom fs o [] source) := by
      rw [bundleFrom_eq_map, bundleFrom_eq_map, outcome_map, outcome_map,
        outcome_expand_root hroot]
    refine ⟨fun bundle => ?_, fun p line why => ?_, ?_⟩
    · rw [← outcome_eq_ok_iff, hsame, outcome_eq_ok_iff]
    · rw [← outcome_eq_unreadable_iff, hsame, outcome_eq_unreadable_iff]
    · rw [← outcome_eq_cyclic_iff, hsame, outcome_eq_cyclic_iff]

theorem bundleSource_roundTrip :
    bundleSource roundTrip fromRoot usesBoth
      = .error (.includeCycle [Path.ofText "/b", Path.ofText "/m", Path.ofText "/b"]) := by
  have hdescent : descent? roundTrip fromRoot [] ⟨.inline, "b", 10, 20, 1⟩
      = some ([Utf8.encode "b"], Utf8.encode "#use \"m\";;") := by
    cbv
  have hdeeper : descent? roundTrip fromRoot [[Utf8.encode "b"]] ⟨.inline, "m", 0, 10, 1⟩
      = some ([Utf8.encode "m"], usesBoth) := by
    cbv
  have hnew : [Utf8.encode "a"] ∉ [[Utf8.encode "b"], [Utf8.encode "m"]] := by
    decide
  have hback : descent? roundTrip fromRoot [[Utf8.encode "b"], [Utf8.encode "m"]]
      ⟨.inline, "b", 10, 20, 1⟩ = none := by
    cbv
  rw [bundleSource, ← refusalOf_eq_some_iff, refusalOf_bundleFrom,
    meetings_usesBoth List.not_mem_nil, meetings_cons_of_some hdescent, scan_usesM,
    List.nil_append, meetings_cons_of_some hdeeper, List.singleton_append,
    meetings_usesBoth hnew, meetings_cons_of_none hback, meetings_nil, meetings_nil,
    meetings_nil]
  cbv

/-- Both bundlings of `m` fail for a cycle, each with its own chain; a single pass does
    not see it. -/
theorem entryPoints_agree_roundTrip :
    roundTrip.contents (Path.ofText "/m") = .ok usesBoth ∧
    bundleFile roundTrip onceFromRoot (Path.ofText "/m")
      = bundleSource roundTrip onceFromRoot usesBoth ∧
    (∃ chain, bundleFile roundTrip fromRoot (Path.ofText "/m")
      = .error (.includeCycle chain)) ∧
    bundleFile roundTrip fromRoot (Path.ofText "/m")
      ≠ bundleSource roundTrip fromRoot usesBoth := by
  have hread : roundTrip.contents (Path.ofText "/m") = .ok usesBoth := by
    cbv
  obtain ⟨honce, -⟩ := entryPoints_agree hread (o := onceFromRoot)
  obtain ⟨-, hrecursive⟩ := entryPoints_agree hread (o := fromRoot)
  obtain ⟨-, -, hcycles⟩ := hrecursive rfl
  refine ⟨hread, honce rfl, hcycles.mpr ⟨_, bundleSource_roundTrip⟩, ?_⟩
  rw [bundleFile_roundTrip, bundleSource_roundTrip]
  decide

end SourceBundle
