import SourceBundle.Proofs.Composition
import SourceBundle.Proofs.LibraryOrder

/-! # Lines — what stands on one is read by itself

    A form has no line feed in it.  A text cut at a line feed is therefore read
    in two halves that know nothing of each other: whatever the first half
    leaves open at its end stays open, and whatever the second begins with
    closes nothing (`scan_append_lineFeed`).

    Bundles follow: what a directive is resolved to does not depend on where it
    stands, and the texts of the halves are spliced side by side
    (`bundleSource_append_lineFeed`). -/

namespace SourceBundle

variable {fs : FileSystem} {o : BundleOptions}

/-! ## A form on one side of a line feed -/

/-- Bytes without a line feed end before the first one. -/
theorem prefix_of_prefix_line {form front back : Bytes} (hline : lineFeed ∉ form)
    (h : form <+: front ++ lineFeed :: back) : form <+: front := by
  have hfront : front <+: front ++ lineFeed :: back := List.prefix_append _ _
  by_cases hlen : form.length ≤ front.length
  · exact List.prefix_of_prefix_length_le h hfront hlen
  · -- a longer one would go over the line feed
    have hfeed : front ++ [lineFeed] <+: front ++ lineFeed :: back :=
      ⟨back, by simp⟩
    have hover : front ++ [lineFeed] <+: form := by
      refine List.prefix_of_prefix_length_le hfeed h ?_
      rw [List.length_append, List.length_singleton]
      omega
    exact absurd (hover.subset (List.mem_append_right _ List.mem_cons_self)) hline

/-- Before the line feed the forms are those of the first text. -/
theorem formAt_front_iff {front back : Bytes} {p : Nat} {kind : DirectiveKind}
    {path : Bytes} (hp : p ≤ front.length) :
    FormAt (front ++ lineFeed :: back) p kind path ↔ FormAt front p kind path := by
  unfold FormAt
  rw [List.drop_append_of_le_length hp]
  constructor
  · rintro ⟨form, hform, hsits⟩
    exact ⟨form, hform, prefix_of_prefix_line hform.lineFeed_not_mem hsits⟩
  · rintro ⟨form, hform, hsits⟩
    exact ⟨form, hform, hsits.trans (List.prefix_append _ _)⟩

/-- Behind the first text and its line feed stands the second. -/
theorem drop_behind_line (front back : Bytes) (p : Nat) :
    (front ++ lineFeed :: back).drop (p + (front.length + 1)) = back.drop p := by
  have hcut : (front ++ lineFeed :: back).drop (front.length + 1) = back := by
    rw [List.append_cons]
    exact List.drop_left' List.length_append
  rw [Nat.add_comm p, ← List.drop_drop, hcut]

/-- Behind it they are those of the second. -/
theorem formAt_behind_iff {front back : Bytes} {p : Nat} {kind : DirectiveKind}
    {path : Bytes} :
    FormAt (front ++ lineFeed :: back) (p + (front.length + 1)) kind path
      ↔ FormAt back p kind path := by
  unfold FormAt
  rw [drop_behind_line]

/-! ## The directives of two texts -/

/-- A directive of a text that `front` and a line feed stand before. -/
def Directive.behind (front : Bytes) (d : Directive) : Directive :=
  { d with
    start := d.start + (front.length + 1),
    stop := d.stop + (front.length + 1),
    line := d.line + (1 + front.count lineFeed) }

/-- A directive of the first text stands in the whole as it stands there. -/
theorem StandsIn.front {front : Bytes} {d : Directive} (back : Bytes)
    (hstart : d.start ≤ front.length) (h : StandsIn front d) :
    StandsIn (front ++ lineFeed :: back) d := by
  obtain ⟨path, form, hform, hsits, hstop, hleast, hpath, hline⟩ := h
  refine ⟨path, form, hform, ?_, hstop, ?_, hpath, ?_⟩
  · rw [List.drop_append_of_le_length hstart]
    exact hsits.trans (List.prefix_append _ _)
  · intro kind' path' hat
    exact hleast kind' path' ((formAt_front_iff hstart).mp hat)
  · rw [List.take_append_of_le_length hstart]
    exact hline

/-- A directive of the second text stands as far behind as the first one is long. -/
theorem StandsIn.behind {back : Bytes} {d : Directive} (front : Bytes)
    (h : StandsIn back d) :
    StandsIn (front ++ lineFeed :: back) (d.behind front) := by
  obtain ⟨path, form, hform, hsits, hstop, hleast, hpath, hline⟩ := h
  refine ⟨path, form, hform, ?_, ?_, ?_, hpath, ?_⟩
  · show form <+: (front ++ lineFeed :: back).drop (d.start + (front.length + 1))
    rw [drop_behind_line]
    exact hsits
  · show d.stop + (front.length + 1) = d.start + (front.length + 1) + form.length
    omega
  · intro kind' path' hat
    exact hleast kind' path' (formAt_behind_iff.mp hat)
  · show d.line + (1 + front.count lineFeed)
      = 1 + ((front ++ lineFeed :: back).take (d.start + (front.length + 1))).count lineFeed
    -- the lines of the first text, its line feed, and the lines of the second
    have htake : (front ++ lineFeed :: back).take (d.start + (front.length + 1))
        = front ++ lineFeed :: back.take d.start := by
      rw [List.take_append, List.take_of_length_le (by omega),
        show d.start + (front.length + 1) - front.length = d.start + 1 by omega,
        List.take_succ_cons]
    rw [htake, List.count_append, List.count_cons_self, hline]
    omega

/-- **TWO READINGS**, one behind the other, read the two texts. -/
theorem Reads.append_lineFeed {front back : Bytes} {ds es : List Directive}
    (hds : Reads front 0 ds) (hes : Reads back 0 es) :
    Reads (front ++ lineFeed :: back) 0 (ds ++ es.map (Directive.behind front)) := by
  have hlen : (front ++ lineFeed :: back).length
      = front.length + 1 + back.length := by
    rw [List.length_append, List.length_cons]
    omega
  refine ⟨?_, ?_, ?_, ?_⟩
  · refine List.pairwise_append.mpr ⟨hds.ordered, ?_, ?_⟩
    · refine List.pairwise_map.mpr (hes.ordered.imp ?_)
      intro d e hde
      exact Nat.add_le_add_right hde _
    · intro d hd e' he'
      obtain ⟨e, -, rfl⟩ := List.mem_map.mp he'
      have hstop := (hds.inside d hd).2.2
      show d.stop ≤ e.start + (front.length + 1)
      omega
  · intro d hd
    rcases List.mem_append.mp hd with hd | hd
    · obtain ⟨hstart, hspan, hstop⟩ := hds.inside d hd
      exact ⟨hstart, hspan, by omega⟩
    · obtain ⟨e, he, rfl⟩ := List.mem_map.mp hd
      obtain ⟨-, hspan, hstop⟩ := hes.inside e he
      refine ⟨Nat.zero_le _, Nat.add_lt_add_right hspan _, ?_⟩
      show e.stop + (front.length + 1) ≤ _
      omega
  · intro d hd
    rcases List.mem_append.mp hd with hd | hd
    · obtain ⟨-, hspan, hstop⟩ := hds.inside d hd
      exact (hds.stands d hd).front back (hspan.le.trans hstop)
    · obtain ⟨e, he, rfl⟩ := List.mem_map.mp hd
      exact (hes.stands e he).behind front
  · intro p kind path hp hat
    by_cases hside : p ≤ front.length
    · obtain ⟨d, hd, hcover⟩ := hds.complete p kind path hp ((formAt_front_iff hside).mp hat)
      exact ⟨d, List.mem_append_left _ hd, hcover⟩
    · obtain ⟨q, rfl⟩ : ∃ q, p = q + (front.length + 1) :=
        ⟨p - (front.length + 1), by omega⟩
      obtain ⟨e, he, hstart, hstop⟩ :=
        hes.complete q kind path (Nat.zero_le q) (formAt_behind_iff.mp hat)
      exact ⟨e.behind front, List.mem_append_right _ (List.mem_map_of_mem he),
        Nat.add_le_add_right hstart _, Nat.add_lt_add_right hstop _⟩

/-- **THE SCAN IS LOCAL**: no directive crosses a line feed, and none is found or
    lost because of what stands on the other side. -/
theorem scan_append_lineFeed (front back : Bytes) :
    scan (front ++ lineFeed :: back)
      = scan front ++ (scan back).map (Directive.behind front) := by
  have hreads := (reads_scan front).append_lineFeed (reads_scan back)
  exact (reads_scan _).unique hreads

/-- An opening takes nothing from the next line, nor does a terminator there end
    it. -/
example : scan (Utf8.encode "#use \"a\n\";;#load \"b\";;")
    = [⟨.link, "b", 11, 22, 2⟩] := by
  decide +kernel

/-! ## The bundles of two texts -/

/-- Where a directive stands does not change what it is resolved to. -/
theorem resolve_behind {trail : List Location} {d : Directive}
    {out : Bytes × List String} (front : Bytes) :
    resolve fs o trail (d.behind front) = .ok out ↔ resolve fs o trail d = .ok out :=
  resolve_eq_ok_congr rfl rfl

theorem resolved_behind {trail : List Location} (front : Bytes) (d : Directive) :
    replacementOf fs o trail (d.behind front) = replacementOf fs o trail d ∧
      librariesOf fs o trail (d.behind front) = librariesOf fs o trail d := by
  unfold replacementOf librariesOf
  cases hd : resolve fs o trail d with
  | ok out =>
      rw [(resolve_behind front).mpr hd]
      exact ⟨rfl, rfl⟩
  | error cause =>
      cases hd' : resolve fs o trail (d.behind front) with
      | ok out => exact nomatch hd.symm.trans ((resolve_behind front).mp hd')
      | error cause' => exact ⟨rfl, rfl⟩

/-- Two texts expand together exactly when both do by themselves. -/
theorem expand_append_lineFeed_isOk_iff {trail : List Location} (front back : Bytes) :
    (∃ e, expand fs o trail (scan (front ++ lineFeed :: back)) = .ok e) ↔
      (∃ e, expand fs o trail (scan front) = .ok e) ∧
        ∃ e, expand fs o trail (scan back) = .ok e := by
  rw [scan_append_lineFeed]
  simp only [expand_isOk_iff, List.forall_mem_append, List.forall_mem_map, resolve_behind]

/-- Expanded together, they give the text of one, a line feed, and the text of
    the other, and the libraries of both. -/
theorem bundle_append_lineFeed {trail : List Location} {front back : Bytes}
    {e e₁ e₂ : Expansion}
    (h : expand fs o trail (scan (front ++ lineFeed :: back)) = .ok e)
    (h₁ : expand fs o trail (scan front) = .ok e₁)
    (h₂ : expand fs o trail (scan back) = .ok e₂) :
    e.bundle (front ++ lineFeed :: back)
      = ⟨(e₁.bundle front).text ++ lineFeed :: (e₂.bundle back).text,
          e₁.libraries ++ e₂.libraries⟩ := by
  have htext := spliced_of_expand h
  have hlibraries := libraries_of_expand h
  rw [scan_append_lineFeed] at htext hlibraries
  have hmoved := (spliced_of_expand h₂).moved (Directive.behind front)
    (fun _ => rfl) (fun _ => rfl) fun d => (resolved_behind front d).1
  have hbehind : Spliced (replacementOf fs o trail) (0 + front.length)
      ([lineFeed] ++ back) ((scan back).map (Directive.behind front))
      ([lineFeed] ++ (e₂.bundle back).text) := by
    refine Spliced.gap [lineFeed] ?_
    rwa [Nat.add_assoc, List.length_singleton]
  have hjoined := htext.unique ((spliced_of_expand h₁).append hbehind)
  rw [List.flatMap_append, List.flatMap_map, ← libraries_of_expand h₁] at hlibraries
  simp only [resolved_behind] at hlibraries
  rw [← libraries_of_expand h₂] at hlibraries
  rw [← hlibraries]
  exact congrArg (Bundle.mk · e.libraries) hjoined

/-- The libraries of two bundles, as they are named in one. -/
def BundleOptions.joinLibraries (o : BundleOptions) (front back : List String) :
    List String :=
  match o.mode with
  | .single => front ++ back
  | .recursive => withoutRepetitions (front ++ back)

/-- Two settled bundles joined are the joined bundle settled. -/
theorem settle_append (front back : Bundle) :
    o.settle ⟨front.text ++ lineFeed :: back.text, front.libraries ++ back.libraries⟩
      = ⟨(o.settle front).text ++ lineFeed :: (o.settle back).text,
          o.joinLibraries (o.settle front).libraries (o.settle back).libraries⟩ := by
  simp only [BundleOptions.joinLibraries, BundleOptions.settle]
  cases o.mode with
  | single => rfl
  | recursive =>
      simp only [firstOccurrences_eq_withoutRepetitions, withoutRepetitions_append]

/-- **LINES ARE BUNDLED BY THEMSELVES**: a source cut at a line feed is scanned in
    two halves, the directives of the second as far behind as the first is long.
    It has a bundle exactly when both halves have one, and then its text is
    theirs with the line feed between, and its libraries are theirs, in
    recursive mode without repetitions. -/
theorem bundleSource_append_lineFeed (fs : FileSystem) (o : BundleOptions)
    (front back : Bytes) :
    scan (front ++ lineFeed :: back)
        = scan front ++ (scan back).map (Directive.behind front) ∧
      ∀ bundle, bundleSource fs o (front ++ lineFeed :: back) = .ok bundle ↔
        ∃ b₁ b₂, bundleSource fs o front = .ok b₁ ∧ bundleSource fs o back = .ok b₂ ∧
          bundle = ⟨b₁.text ++ lineFeed :: b₂.text,
            o.joinLibraries b₁.libraries b₂.libraries⟩ := by
  refine ⟨scan_append_lineFeed front back, fun bundle => ?_⟩
  constructor
  · intro h
    obtain ⟨e, he, rfl⟩ := bundleSource_eq_ok h
    obtain ⟨⟨e₁, h₁⟩, e₂, h₂⟩ := (expand_append_lineFeed_isOk_iff front back).mp ⟨e, he⟩
    refine ⟨_, _, bundleSource_of_expand h₁, bundleSource_of_expand h₂, ?_⟩
    rw [bundle_append_lineFeed he h₁ h₂]
    exact settle_append (e₁.bundle front) (e₂.bundle back)
  · rintro ⟨b₁, b₂, h₁, h₂, rfl⟩
    obtain ⟨e₁, he₁, rfl⟩ := bundleSource_eq_ok h₁
    obtain ⟨e₂, he₂, rfl⟩ := bundleSource_eq_ok h₂
    obtain ⟨e, he⟩ :=
      (expand_append_lineFeed_isOk_iff front back).mpr ⟨⟨e₁, he₁⟩, e₂, he₂⟩
    rw [bundleSource_of_expand he, bundle_append_lineFeed he he₁ he₂]
    exact congrArg Except.ok (settle_append (e₁.bundle front) (e₂.bundle back))

end SourceBundle
