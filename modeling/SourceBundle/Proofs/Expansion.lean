import Mathlib
import SourceBundle.Bundle.Expand

/-! # Expansion — one directive at a time

    `resolve` is what a single directive comes to on a trail, its failures
    included.  Expanding a list is resolving its directives in order
    (`expand_cons`), so everything about a run follows from what `resolve` can
    do; the five cases of it are the equations below.  `Expanded` is the relation
    of the successful runs, and what holds of all of them goes by induction on it.

    A trail only ever forbids: what expands on a trail expands to the same on
    any part of it (`expand_mono`). -/

namespace SourceBundle

variable {fs : FileSystem} {o : BundleOptions}

/-- Recursive bundling with paths seen from the root. -/
def fromRoot : BundleOptions := ⟨Path.ofText "/", .recursive, none⟩

/-- What a directive met on a trail leaves in the text, and its libraries. -/
def resolve (fs : FileSystem) (o : BundleOptions) (trail : List Location)
    (d : Directive) : Except BundleError (Bytes × List String) :=
  match d.kind with
  | .link => .ok ([], [o.library d])
  | .inline =>
      match fs.openFile (o.includePath d) with
      | .error cause => .error (.unreadableInclude (o.includePath d) d.line cause)
      | .ok (place, content) =>
          match o.mode with
          | .single => .ok (content, [])
          | .recursive =>
              if trail.contains place then
                .error (.includeCycle ((trail ++ [place]).map Path.ofLocation))
              else
                (expand fs o (trail ++ [place]) (scan content)).map fun nested =>
                  ((nested.bundle content).text, nested.libraries)

/-! ## The cases of a directive -/

/-- A library is noted and leaves no text. -/
theorem resolve_link {trail : List Location} {d : Directive}
    (hkind : d.kind = .link) :
    resolve fs o trail d = .ok ([], [o.library d]) := by
  simp only [resolve, hkind]

/-- An include that cannot be opened is refused with its path and line. -/
theorem resolve_unreadable {trail : List Location} {d : Directive}
    {cause : OsError} (hkind : d.kind = .inline)
    (hopen : fs.openFile (o.includePath d) = .error cause) :
    resolve fs o trail d
      = .error (.unreadableInclude (o.includePath d) d.line cause) := by
  simp only [resolve, hkind, hopen]

/-- In a single pass an include leaves its content as it is. -/
theorem resolve_single {trail : List Location} {d : Directive}
    {place : Location} {content : Bytes} (hkind : d.kind = .inline)
    (hopen : fs.openFile (o.includePath d) = .ok (place, content))
    (hmode : o.mode = .single) :
    resolve fs o trail d = .ok (content, []) := by
  simp only [resolve, hkind, hopen, hmode]

/-- An include of a file on the trail is a cycle. -/
theorem resolve_cycle {trail : List Location} {d : Directive}
    {place : Location} {content : Bytes} (hkind : d.kind = .inline)
    (hopen : fs.openFile (o.includePath d) = .ok (place, content))
    (hmode : o.mode = .recursive) (hmem : place ∈ trail) :
    resolve fs o trail d
      = .error (.includeCycle ((trail ++ [place]).map Path.ofLocation)) := by
  simp only [resolve, hkind, hopen, hmode, if_pos (List.contains_iff_mem.mpr hmem)]

/-- Any other include leaves its own bundle, with itself on the trail. -/
theorem resolve_nested {trail : List Location} {d : Directive}
    {place : Location} {content : Bytes} (hkind : d.kind = .inline)
    (hopen : fs.openFile (o.includePath d) = .ok (place, content))
    (hmode : o.mode = .recursive) (hnew : place ∉ trail) :
    resolve fs o trail d
      = (expand fs o (trail ++ [place]) (scan content)).map fun nested =>
          ((nested.bundle content).text, nested.libraries) := by
  have hfree : ¬ trail.contains place := fun h => hnew (List.contains_iff_mem.mp h)
  simp only [resolve, hkind, hopen, hmode, if_neg hfree]

/-- **INVERSION** for recursive mode: a directive is resolved as a library, or
    as a readable file off the trail that expands with itself on it. -/
theorem resolve_recursive_eq_ok {trail : List Location} {d : Directive}
    {out : Bytes × List String} (hmode : o.mode = .recursive)
    (h : resolve fs o trail d = .ok out) :
    (d.kind = .link ∧ out = ([], [o.library d])) ∨
    (d.kind = .inline ∧ ∃ place content nested,
      fs.openFile (o.includePath d) = .ok (place, content) ∧ place ∉ trail ∧
      expand fs o (trail ++ [place]) (scan content) = .ok nested ∧
      out = ((nested.bundle content).text, nested.libraries)) := by
  cases hkind : d.kind with
  | link =>
      rw [resolve_link hkind] at h
      exact .inl ⟨rfl, (Except.ok.inj h).symm⟩
  | inline =>
      refine .inr ⟨rfl, ?_⟩
      cases hopen : fs.openFile (o.includePath d) with
      | error cause =>
          rw [resolve_unreadable hkind hopen] at h
          exact nomatch h
      | ok opened =>
          obtain ⟨place, content⟩ := opened
          by_cases hmem : place ∈ trail
          · rw [resolve_cycle hkind hopen hmode hmem] at h
            exact nomatch h
          · rw [resolve_nested hkind hopen hmode hmem] at h
            cases hnested : expand fs o (trail ++ [place]) (scan content) with
            | error e =>
                rw [hnested] at h
                exact nomatch h
            | ok nested =>
                rw [hnested] at h
                exact ⟨place, content, nested, rfl, hmem, hnested,
                  (Except.ok.inj h).symm⟩

/-! ## A list of directives -/

theorem expand_nil (trail : List Location) :
    expand fs o trail [] = .ok ⟨[], []⟩ := by
  rw [expand.eq_def]

/-- Expanding a list resolves its first directive and expands the rest. -/
theorem expand_cons (trail : List Location) (d : Directive)
    (ds : List Directive) :
    expand fs o trail (d :: ds)
      = (resolve fs o trail d).bind fun out =>
          (expand fs o trail ds).map fun rest => rest.cons d out.1 out.2 := by
  rw [expand.eq_def]
  simp only
  cases hkind : d.kind with
  | link =>
      rw [resolve_link hkind]
      rfl
  | inline =>
      simp only
      split
      · next cause hopen =>
          rw [resolve_unreadable hkind hopen]
          rfl
      · next place content hopen =>
          cases hmode : o.mode with
          | single =>
              rw [resolve_single hkind hopen hmode]
              rfl
          | recursive =>
              simp only
              by_cases hmem : place ∈ trail
              · rw [dif_pos hmem, resolve_cycle hkind hopen hmode hmem]
                rfl
              · rw [dif_neg hmem, resolve_nested hkind hopen hmode hmem]
                cases expand fs o (trail ++ [place]) (scan content) <;> rfl

/-- **INVERSION** for a list: its first directive is resolved and the rest expands. -/
theorem expand_cons_eq_ok {trail : List Location} {d : Directive}
    {ds : List Directive} {e : Expansion}
    (h : expand fs o trail (d :: ds) = .ok e) :
    ∃ out rest, resolve fs o trail d = .ok out ∧
      expand fs o trail ds = .ok rest ∧ e = rest.cons d out.1 out.2 := by
  rw [expand_cons] at h
  cases hout : resolve fs o trail d with
  | error cause =>
      rw [hout] at h
      exact nomatch h
  | ok out =>
      cases hrest : expand fs o trail ds with
      | error cause =>
          rw [hout, hrest] at h
          exact nomatch h
      | ok rest =>
          rw [hout, hrest] at h
          exact ⟨out, rest, rfl, rfl, (Except.ok.inj h).symm⟩

theorem expand_cons_of_ok {trail : List Location} {d : Directive}
    {ds : List Directive} {out : Bytes × List String} {rest : Expansion}
    (hout : resolve fs o trail d = .ok out)
    (hrest : expand fs o trail ds = .ok rest) :
    expand fs o trail (d :: ds) = .ok (rest.cons d out.1 out.2) := by
  rw [expand_cons, hout, hrest]
  rfl

/-- A list of directives expands to `e`: one constructor for the empty list, and
    one for each way its first directive can be resolved. -/
inductive Expanded (fs : FileSystem) (o : BundleOptions) :
    List Location → List Directive → Expansion → Prop where
  | nil {trail : List Location} : Expanded fs o trail [] ⟨[], []⟩
  | link {trail : List Location} {d : Directive} {ds : List Directive}
      {rest : Expansion} :
      d.kind = .link → Expanded fs o trail ds rest →
      Expanded fs o trail (d :: ds) (rest.cons d [] [o.library d])
  | single {trail : List Location} {d : Directive} {ds : List Directive}
      {place : Location} {content : Bytes} {rest : Expansion} :
      d.kind = .inline → fs.openFile (o.includePath d) = .ok (place, content) →
      o.mode = .single → Expanded fs o trail ds rest →
      Expanded fs o trail (d :: ds) (rest.cons d content [])
  | nested {trail : List Location} {d : Directive} {ds : List Directive}
      {place : Location} {content : Bytes} {inner rest : Expansion} :
      d.kind = .inline → fs.openFile (o.includePath d) = .ok (place, content) →
      o.mode = .recursive → place ∉ trail →
      Expanded fs o (trail ++ [place]) (scan content) inner →
      Expanded fs o trail ds rest →
      Expanded fs o trail (d :: ds)
        (rest.cons d (inner.bundle content).text inner.libraries)

/-- What expanding gives is an expansion. -/
theorem expanded_of_expand {trail : List Location} {ds : List Directive}
    {e : Expansion} (h : expand fs o trail ds = .ok e) : Expanded fs o trail ds e := by
  induction trail, ds using expand.induct fs o generalizing e with
  | case1 trail =>
      rw [expand_nil] at h
      obtain rfl := Except.ok.inj h
      exact .nil
  | case2 trail d ds hkind ih =>
      obtain ⟨out, rest, hout, hrest, rfl⟩ := expand_cons_eq_ok h
      rw [resolve_link hkind] at hout
      obtain rfl := Except.ok.inj hout
      exact .link hkind (ih hrest)
  | case3 trail d ds hkind cause hopen =>
      obtain ⟨out, rest, hout, -, -⟩ := expand_cons_eq_ok h
      rw [resolve_unreadable hkind hopen] at hout
      exact nomatch hout
  | case4 trail d ds hkind place content hopen hmode ih =>
      obtain ⟨out, rest, hout, hrest, rfl⟩ := expand_cons_eq_ok h
      rw [resolve_single hkind hopen hmode] at hout
      obtain rfl := Except.ok.inj hout
      exact .single hkind hopen hmode (ih hrest)
  | case5 trail d ds hkind place content hopen hmode hmem =>
      obtain ⟨out, rest, hout, -, -⟩ := expand_cons_eq_ok h
      rw [resolve_cycle hkind hopen hmode hmem] at hout
      exact nomatch hout
  | case6 trail d ds hkind place content hopen hmode hnew ihinner ih =>
      obtain ⟨out, rest, hout, hrest, rfl⟩ := expand_cons_eq_ok h
      rw [resolve_nested hkind hopen hmode hnew] at hout
      cases hinner : expand fs o (trail ++ [place]) (scan content) with
      | error cause =>
          rw [hinner] at hout
          exact nomatch hout
      | ok inner =>
          rw [hinner] at hout
          obtain rfl := Except.ok.inj hout
          exact .nested hkind hopen hmode hnew (ihinner hinner) (ih hrest)

/-- There is no other expansion. -/
theorem expand_of_expanded {trail : List Location} {ds : List Directive}
    {e : Expansion} (h : Expanded fs o trail ds e) : expand fs o trail ds = .ok e := by
  induction h with
  | nil => exact expand_nil _
  | link hkind _ ih => exact expand_cons_of_ok (resolve_link hkind) ih
  | single hkind hopen hmode _ ih =>
      exact expand_cons_of_ok (resolve_single hkind hopen hmode) ih
  | @nested trail d ds place content inner rest hkind hopen hmode hnew _ _ ihinner ih =>
      have hout : resolve fs o trail d
          = .ok ((inner.bundle content).text, inner.libraries) := by
        rw [resolve_nested hkind hopen hmode hnew, ihinner]
        rfl
      exact expand_cons_of_ok hout ih

/-- **SUCCESS**: expanding succeeds in these ways and no other, so what holds of all
    expansions is shown by induction on them. -/
theorem expand_eq_ok_iff {trail : List Location} {ds : List Directive}
    {e : Expansion} : expand fs o trail ds = .ok e ↔ Expanded fs o trail ds e :=
  ⟨expanded_of_expand, expand_of_expanded⟩

/-- A list expands exactly when each of its directives is resolved. -/
theorem expand_isOk_iff {trail : List Location} {ds : List Directive} :
    (∃ e, expand fs o trail ds = .ok e) ↔
      ∀ d ∈ ds, ∃ out, resolve fs o trail d = .ok out := by
  induction ds with
  | nil =>
      constructor
      · intro _ d hd
        exact nomatch hd
      · intro _
        exact ⟨_, expand_nil trail⟩
  | cons d ds ih =>
      constructor
      · rintro ⟨e, h⟩
        obtain ⟨out, rest, hout, hrest, -⟩ := expand_cons_eq_ok h
        intro d' hd'
        rcases List.mem_cons.mp hd' with rfl | hd'
        · exact ⟨out, hout⟩
        · exact ih.mp ⟨rest, hrest⟩ d' hd'
      · intro h
        obtain ⟨out, hout⟩ := h d List.mem_cons_self
        obtain ⟨rest, hrest⟩ :=
          ih.mpr fun d' hd' => h d' (List.mem_cons_of_mem _ hd')
        exact ⟨_, expand_cons_of_ok hout hrest⟩

/-- What a directive leaves in the text; nothing if it cannot be resolved. -/
def replacementOf (fs : FileSystem) (o : BundleOptions) (trail : List Location)
    (d : Directive) : Bytes :=
  match resolve fs o trail d with
  | .ok out => out.1
  | .error _ => []

/-- The edits of an expansion are the spans of the directives, each with what
    it is resolved to. -/
theorem edits_of_expand {trail : List Location} {ds : List Directive}
    {e : Expansion} (h : expand fs o trail ds = .ok e) :
    e.edits = ds.map fun d => ⟨d.start, d.stop, replacementOf fs o trail d⟩ := by
  induction ds generalizing e with
  | nil =>
      rw [expand_nil] at h
      obtain rfl := Except.ok.inj h
      rfl
  | cons d ds ih =>
      obtain ⟨out, rest, hout, hrest, rfl⟩ := expand_cons_eq_ok h
      show (⟨d.start, d.stop, out.1⟩ : Edit) :: rest.edits = _
      rw [ih hrest, List.map_cons, replacementOf, hout]

/-- The libraries a directive asks for; none if it cannot be resolved. -/
def librariesOf (fs : FileSystem) (o : BundleOptions) (trail : List Location)
    (d : Directive) : List String :=
  match resolve fs o trail d with
  | .ok out => out.2
  | .error _ => []

/-- The libraries of an expansion are those of its directives, in their order. -/
theorem libraries_of_expand {trail : List Location} {ds : List Directive}
    {e : Expansion} (h : expand fs o trail ds = .ok e) :
    e.libraries = ds.flatMap (librariesOf fs o trail) := by
  induction ds generalizing e with
  | nil =>
      rw [expand_nil] at h
      obtain rfl := Except.ok.inj h
      rfl
  | cons d ds ih =>
      obtain ⟨out, rest, hout, hrest, rfl⟩ := expand_cons_eq_ok h
      show out.2 ++ rest.libraries = _
      rw [ih hrest, List.flatMap_cons, librariesOf, hout]

/-- What a directive is resolved to depends on its kind and its path; where it
    stands shows in errors alone. -/
theorem resolve_eq_ok_congr {trail : List Location} {d d' : Directive}
    {out : Bytes × List String} (hkind : d'.kind = d.kind) (hpath : d'.path = d.path) :
    resolve fs o trail d' = .ok out ↔ resolve fs o trail d = .ok out := by
  have hinclude : o.includePath d' = o.includePath d := by
    rw [BundleOptions.includePath, BundleOptions.includePath, hpath]
  have hlibrary : o.library d' = o.library d := by
    rw [BundleOptions.library, BundleOptions.library, hpath]
  unfold resolve
  rw [hkind, hinclude, hlibrary]
  cases d.kind with
  | link => exact Iff.rfl
  | inline =>
      cases fs.openFile (o.includePath d) with
      | error cause =>
          constructor
          · intro h
            exact nomatch h
          · intro h
            exact nomatch h
      | ok opened => exact Iff.rfl

/-! ## The trail only forbids -/

/-- **MONOTONICITY**: what expands on a trail expands to the same on a part of
    it. -/
theorem expand_mono {trail trail' : List Location} {ds : List Directive}
    {e : Expansion} (h : expand fs o trail ds = .ok e) (hsub : trail' ⊆ trail) :
    expand fs o trail' ds = .ok e := by
  rw [expand_eq_ok_iff] at h ⊢
  induction h generalizing trail' with
  | nil => exact .nil
  | link hkind _ ih => exact .link hkind (ih hsub)
  | single hkind hopen hmode _ ih => exact .single hkind hopen hmode (ih hsub)
  | @nested trail d ds place content inner rest hkind hopen hmode hnew _ _ ihinner ih =>
      have hsub' : trail' ++ [place] ⊆ trail ++ [place] :=
        List.append_subset.mpr ⟨List.subset_append_of_subset_left _ hsub,
          List.subset_append_right _ _⟩
      exact .nested hkind hopen hmode (fun hmem => hnew (hsub hmem)) (ihinner hsub')
        (ih hsub)

/-! ## Bundles are settled expansions -/

/-- Bundling is expanding the directives of the source and settling. -/
theorem bundleFrom_eq_map (trail : List Location) (source : Bytes) :
    bundleFrom fs o trail source
      = (expand fs o trail (scan source)).map fun e => o.settle (e.bundle source) := by
  unfold bundleFrom
  cases expand fs o trail (scan source) <;> rfl

/-- A file that can be opened is bundled with itself on the trail. -/
theorem bundleFile_of_open {entry : Path} {place : Location} {content : Bytes}
    (hopen : fs.openFile entry = .ok (place, content)) :
    bundleFile fs o entry = bundleFrom fs o [place] content := by
  unfold bundleFile
  rw [hopen]

/-- **INVERSION** for a source: its bundle is settled from an expansion. -/
theorem bundleSource_eq_ok {source : Bytes} {bundle : Bundle}
    (h : bundleSource fs o source = .ok bundle) :
    ∃ e, expand fs o [] (scan source) = .ok e ∧
      bundle = o.settle (e.bundle source) := by
  unfold bundleSource bundleFrom at h
  cases he : expand fs o [] (scan source) with
  | error cause =>
      rw [he] at h
      cases h
  | ok e =>
      rw [he] at h
      exact ⟨e, rfl, (Except.ok.inj h).symm⟩

theorem bundleSource_of_expand {source : Bytes} {e : Expansion}
    (h : expand fs o [] (scan source) = .ok e) :
    bundleSource fs o source = .ok (o.settle (e.bundle source)) := by
  unfold bundleSource bundleFrom
  rw [h]
  rfl

/-- A source without directives is its own bundle. -/
theorem bundleSource_of_scan_nil {source : Bytes} (h : scan source = []) :
    bundleSource fs o source = .ok ⟨source, []⟩ := by
  have hexpand : expand fs o [] (scan source) = .ok ⟨[], []⟩ := by
    rw [h, expand_nil]
  rw [bundleSource_of_expand hexpand, BundleOptions.settle]
  cases o.mode <;> rfl

/-- **INVERSION** for an entry: it is opened and expands with itself on the trail. -/
theorem bundleFile_eq_ok {entry : Path} {bundle : Bundle}
    (h : bundleFile fs o entry = .ok bundle) :
    ∃ place content e, fs.openFile entry = .ok (place, content) ∧
      expand fs o [place] (scan content) = .ok e ∧
      bundle = o.settle (e.bundle content) := by
  unfold bundleFile bundleFrom at h
  cases hopen : fs.openFile entry with
  | error cause =>
      rw [hopen] at h
      cases h
  | ok opened =>
      obtain ⟨place, content⟩ := opened
      simp only [hopen] at h
      cases he : expand fs o [place] (scan content) with
      | error cause =>
          rw [he] at h
          cases h
      | ok e =>
          rw [he] at h
          exact ⟨place, content, e, rfl, he, (Except.ok.inj h).symm⟩

theorem bundleFile_of_expand {entry : Path} {place : Location} {content : Bytes}
    {e : Expansion} (hopen : fs.openFile entry = .ok (place, content))
    (he : expand fs o [place] (scan content) = .ok e) :
    bundleFile fs o entry = .ok (o.settle (e.bundle content)) := by
  unfold bundleFile bundleFrom
  rw [hopen]
  simp only [he]
  rfl

end SourceBundle
