import SourceBundle.Proofs.Composition
import SourceBundle.Proofs.IncludeGraph

/-! # A single pass — inlined files stay as they are written

    In single mode the text of a bundle is its source with the raw bytes of a
    file for each `#use` and nothing for each `#load`; no file is scanned.

    `spliceSlices?` makes the edits of an expansion by slicing the source at
    their positions, as a program with a cursor does, and refuses a slice that
    is reversed or goes past the end.  On the edits of a scan none is refused
    (`spliceSlices?_of_expand`), in either mode. -/

namespace SourceBundle

variable {fs : FileSystem} {o : BundleOptions}

/-! ## Slices -/

/-- The bytes from one position up to another; nothing if the positions are
    reversed or the second is past the end. -/
def slice? (source : Bytes) (i j : Nat) : Option Bytes :=
  if i ≤ j ∧ j ≤ source.length then some ((source.take j).drop i) else none

/-- A source from the cursor on with its edits made; nothing if a slice between
    two edits cannot be taken. -/
def spliceSlices? (source : Bytes) (cursor : Nat) : List Edit → Option Bytes
  | [] => slice? source cursor source.length
  | edit :: edits => do
      let gap ← slice? source cursor edit.start
      let rest ← spliceSlices? source edit.stop edits
      return gap ++ edit.replacement ++ rest

/-- A slice in range is cut from the source. -/
theorem slice?_eq {source : Bytes} {i j : Nat} (hij : i ≤ j)
    (hj : j ≤ source.length) :
    slice? source i j = some ((source.drop i).take (j - i)) := by
  rw [slice?, if_pos ⟨hij, hj⟩, List.drop_take]

/-- The slices between the directives of a reading can all be taken. -/
theorem spliceSlices?_of_reads {source : Bytes} {p : Nat} {ds : List Directive}
    (replacement : Directive → Bytes) (hp : p ≤ source.length)
    (h : Reads source p ds) :
    spliceSlices? source p (ds.map fun d => ⟨d.start, d.stop, replacement d⟩)
      = some (splice p (source.drop p)
          (ds.map fun d => ⟨d.start, d.stop, replacement d⟩)) := by
  induction ds generalizing p with
  | nil =>
      rw [List.map_nil, spliceSlices?, splice, slice?_eq hp le_rfl,
        ← List.length_drop, List.take_length]
  | cons d ds ih =>
      obtain ⟨hstart, hspan, hstop⟩ := h.inside d List.mem_cons_self
      -- the cursor moves to the end of the span, which is inside the source
      have hgap := slice?_eq hstart (hspan.le.trans hstop)
      have hrest := ih hstop h.tail
      have hdrop : (source.drop p).drop (d.stop - p) = source.drop d.stop := by
        rw [List.drop_drop, Nat.add_sub_cancel' (hstart.trans hspan.le)]
      simp only [List.map_cons, spliceSlices?, splice, hdrop, hgap, hrest]
      rfl

/-- No slice of a source that is expanded is out of range or reversed. -/
theorem spliceSlices?_of_expand {trail : List Location} {source : Bytes}
    {e : Expansion} (h : expand fs o trail (scan source) = .ok e) :
    spliceSlices? source 0 e.edits = some (e.bundle source).text := by
  rw [Expansion.bundle, edits_of_expand h]
  exact spliceSlices?_of_reads _ (Nat.zero_le _) (reads_scan source)

/-- What a text gains over its source it gains in the replacements, and what it
    loses in the spans. -/
theorem Spliced.length {replacement : Directive → Bytes} {p : Nat}
    {source text : Bytes} {ds : List Directive}
    (h : Spliced replacement p source ds text) :
    text.length + (ds.map fun d => d.stop - d.start).sum
      = source.length + (ds.map fun d => (replacement d).length).sum := by
  induction h with
  | rest p source => rfl
  | span hgap hspan hrest ih =>
      simp only [List.map_cons, List.sum_cons, List.length_append]
      omega

/-! ## Single mode -/

/-- The libraries of directives, one for each `#load` in their order. -/
def BundleOptions.loads (o : BundleOptions) (ds : List Directive) : List String :=
  (ds.filter fun d => d.kind = .link).map o.library

theorem loads_cons_link {d : Directive} (hkind : d.kind = .link)
    (ds : List Directive) : o.loads (d :: ds) = o.library d :: o.loads ds := by
  rw [BundleOptions.loads, List.filter_cons_of_pos (by simp [hkind]), List.map_cons]
  rfl

theorem loads_cons_inline {d : Directive} (hkind : d.kind = .inline)
    (ds : List Directive) : o.loads (d :: ds) = o.loads ds := by
  rw [BundleOptions.loads, List.filter_cons_of_neg (by simp [hkind])]
  rfl

/-- In single mode a directive is resolved without looking into its file. -/
theorem resolve_single_eq {trail : List Location} {d : Directive}
    {content : Bytes} (hmode : o.mode = .single) (hkind : d.kind = .inline)
    (hread : fs.contents (o.includePath d) = .ok content) :
    resolve fs o trail d = .ok (content, []) := by
  obtain ⟨place, content', hopen⟩ := readable_iff.mp ⟨content, hread⟩
  rw [resolve_single hkind hopen hmode]
  rw [FileSystem.contents, hopen] at hread
  obtain rfl : content' = content := Except.ok.inj hread
  rfl

/-- While the files of all `#use` directives can be read, a list of directives
    expands, and its libraries are those of its own `#load` directives. -/
theorem expand_single (trail : List Location) {ds : List Directive}
    (hmode : o.mode = .single)
    (hread : ∀ d ∈ ds, d.kind = .inline → fs.Readable (o.includePath d)) :
    ∃ e, expand fs o trail ds = .ok e ∧ e.libraries = o.loads ds := by
  induction ds with
  | nil => exact ⟨_, expand_nil trail, rfl⟩
  | cons d ds ih =>
      obtain ⟨rest, hrest, hlibraries⟩ :=
        ih fun d' hd' => hread d' (List.mem_cons_of_mem _ hd')
      cases hkind : d.kind with
      | link =>
          refine ⟨_, expand_cons_of_ok (resolve_link hkind) hrest, ?_⟩
          rw [loads_cons_link hkind, ← hlibraries]
          rfl
      | inline =>
          obtain ⟨content, hcontent⟩ := hread d List.mem_cons_self hkind
          refine ⟨_, expand_cons_of_ok (resolve_single_eq hmode hkind hcontent) hrest, ?_⟩
          rw [loads_cons_inline hkind, ← hlibraries]
          rfl

/-- Only the `#use` directives add to the length. -/
theorem sum_length_inlined {replacement : Directive → Bytes} {ds : List Directive}
    (hlink : ∀ d ∈ ds, d.kind = .link → replacement d = []) :
    (ds.map fun d => (replacement d).length).sum
      = ((ds.filter fun d => d.kind = .inline).map fun d =>
          (replacement d).length).sum := by
  induction ds with
  | nil => rfl
  | cons d ds ih =>
      have hrest := ih fun d' hd' => hlink d' (List.mem_cons_of_mem _ hd')
      cases hkind : d.kind with
      | link =>
          rw [List.filter_cons_of_neg (by simp [hkind]), ← hrest, List.map_cons,
            List.sum_cons, hlink d List.mem_cons_self hkind, List.length_nil, Nat.zero_add]
      | inline =>
          rw [List.filter_cons_of_pos (by simp [hkind]), List.map_cons, List.map_cons,
            List.sum_cons, List.sum_cons, hrest]

/-- **EXACT SPLICING**: while the files of all `#use` directives can be read, the
    bundle in single mode exists; its text is the source with the raw bytes of
    the file for each `#use` and nothing for each `#load`, made by slices that
    are all in range, and its libraries are those of the `#load` directives, one
    for each. -/
theorem bundleSource_single (fs : FileSystem) (o : BundleOptions) (source : Bytes)
    (hmode : o.mode = .single)
    (hread : ∀ d ∈ scan source, d.kind = .inline → fs.Readable (o.includePath d)) :
    ∃ (e : Expansion) (text : Bytes) (replacement : Directive → Bytes),
      expand fs o [] (scan source) = .ok e ∧
      bundleSource fs o source = .ok ⟨text, o.loads (scan source)⟩ ∧
      (∀ d ∈ scan source,
        (d.kind = .link → replacement d = []) ∧
        (d.kind = .inline → fs.contents (o.includePath d) = .ok (replacement d))) ∧
      Spliced replacement 0 source (scan source) text ∧
      e.edits = (scan source).map (fun d => ⟨d.start, d.stop, replacement d⟩) ∧
      spliceSlices? source 0 e.edits = some text ∧
      text.length + ((scan source).map fun d => d.stop - d.start).sum
        = source.length + (((scan source).filter fun d => d.kind = .inline).map
            fun d => (replacement d).length).sum ∧
      (scan source = [] → text = source ∧ o.loads (scan source) = []) := by
  obtain ⟨e, hexpand, hlibraries⟩ := expand_single [] hmode hread
  have hspliced := spliced_of_expand hexpand
  have hlink : ∀ d ∈ scan source, d.kind = .link → replacementOf fs o [] d = [] :=
    fun d _ hkind => replacementOf_link hkind
  refine ⟨e, (e.bundle source).text, replacementOf fs o [], hexpand, ?_, ?_, hspliced,
    edits_of_expand hexpand, spliceSlices?_of_expand hexpand, ?_, ?_⟩
  · rw [bundleSource_of_expand hexpand, BundleOptions.settle, hmode, ← hlibraries]
    rfl
  · intro d hd
    refine ⟨hlink d hd, ?_⟩
    intro hkind
    obtain ⟨content, hcontent⟩ := hread d hd hkind
    rw [replacementOf, resolve_single_eq hmode hkind hcontent]
    exact hcontent
  · rw [hspliced.length, sum_length_inlined hlink]
  · intro hnone
    rw [hnone] at hspliced ⊢
    exact ⟨hspliced.eq_source, rfl⟩

/-- The source of a use, and of a library asked for twice right behind it. -/
def repeatedLoad : Bytes :=
  Utf8.encode "0#use \"a\";;#load \"g.cma\";;#load \"g.cma\";;"

/-- A single pass with paths seen from the root, for a native build. -/
def nativeFromRoot : BundleOptions :=
  ⟨Path.ofText "/", .single, some ⟨".cma", ".cmxa"⟩⟩

/-- The directive that stands in the file `a` stays, and the library is named
    twice. -/
theorem bundleSource_single_repeatedLoad : nativeFromRoot.mode = .single ∧
    (∀ d ∈ scan repeatedLoad, d.kind = .inline →
      twoFiles.Readable (nativeFromRoot.includePath d)) ∧
    bundleSource twoFiles nativeFromRoot repeatedLoad
      = .ok ⟨Utf8.encode "01#use \"b\";;", ["g.cmxa", "g.cmxa"]⟩ := by
  have hscan : scan repeatedLoad
      = [⟨.inline, "a", 1, 11, 1⟩, ⟨.link, "g.cma", 11, 26, 1⟩,
        ⟨.link, "g.cma", 26, 41, 1⟩] := by
    decide +kernel
  have hopen : twoFiles.contents (nativeFromRoot.includePath ⟨.inline, "a", 1, 11, 1⟩)
      = .ok (Utf8.encode "1#use \"b\";;") := by
    cbv
  have hread : ∀ d ∈ scan repeatedLoad, d.kind = .inline →
      twoFiles.Readable (nativeFromRoot.includePath d) := by
    rw [hscan]
    intro d hd hkind
    rcases List.mem_cons.mp hd with rfl | hd
    · exact ⟨_, hopen⟩
    · rcases List.mem_cons.mp hd with rfl | hd
      · cases hkind
      · obtain rfl := List.mem_singleton.mp hd
        cases hkind
  refine ⟨rfl, hread, ?_⟩
  obtain ⟨e, text, replacement, -, hbundle, hfiles, -, hedits, hslices, -⟩ :=
    bundleSource_single twoFiles nativeFromRoot repeatedLoad rfl hread
  have hfile : replacement ⟨.inline, "a", 1, 11, 1⟩ = Utf8.encode "1#use \"b\";;" := by
    have hcontents := (hfiles ⟨.inline, "a", 1, 11, 1⟩ (by simp [hscan])).2 rfl
    exact Except.ok.inj (hcontents.symm.trans hopen)
  have hdropped : ∀ start stop, ⟨.link, "g.cma", start, stop, 1⟩ ∈ scan repeatedLoad →
      replacement ⟨.link, "g.cma", start, stop, 1⟩ = [] :=
    fun start stop hd => (hfiles _ hd).1 rfl
  have htext : text = Utf8.encode "01#use \"b\";;" := by
    rw [hedits, hscan] at hslices
    simp only [List.map_cons, List.map_nil, hfile, hdropped 11 26 (by simp [hscan]),
      hdropped 26 41 (by simp [hscan])] at hslices
    exact Option.some.inj (hslices.symm.trans (by decide +kernel))
  rw [hbundle, htext, hscan]
  rfl

end SourceBundle
