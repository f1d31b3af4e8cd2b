import SourceBundle.Proofs.IncludeGraph
import SourceBundle.Proofs.Composition

/-! # Resolved texts — nothing is left to bundle

    A text without forms is its own bundle.  Putting one text behind another
    can only make a form across the seam, from the last line of the first to
    the first line of the second.  A form begins with `#` and ends with a
    semicolon, so there is none where one of these lines is padding
    (`Formless.append`).

    A directive that stands alone on its line has padding at both its seams.
    Where all of them do, the recursive bundle therefore has no form, however
    deep the includes go and whatever the files begin and end with
    (`bundleFile_resolved`). -/

namespace SourceBundle

variable {fs : FileSystem} {o : BundleOptions}

/-! ## Texts without forms -/

/-- No form stands anywhere in the bytes. -/
def Formless (bytes : Bytes) : Prop :=
  ∀ kind path form, IsForm kind path form → ¬ form <:+: bytes

/-- A form starts with `#` and ends with a semicolon. -/
theorem IsForm.ends {kind : DirectiveKind} {path form : Bytes}
    (h : IsForm kind path form) :
    ∃ middle : Bytes, form = 0x23 :: middle ∧ form.getLast? = some 0x3B := by
  obtain ⟨-, -, keyword, -, rfl⟩ := h
  refine ⟨keyword ++ [0x20, 0x22] ++ path ++ [0x22, 0x3B, 0x3B], by simp, ?_⟩
  rw [List.getLast?_append]
  rfl

theorem formless_nil : Formless [] := by
  intro kind path form hform hsits
  obtain ⟨middle, rfl, -⟩ := hform.ends
  cases List.infix_nil.mp hsits

/-- A form somewhere behind a byte sits at a byte from there on. -/
theorem FormAt.of_infix {source form : Bytes} {p : Nat} {kind : DirectiveKind}
    {path : Bytes} (hform : IsForm kind path form) {gap rest : Bytes}
    (hdrop : source.drop p = gap ++ rest) (hsits : form <:+: gap) :
    ∃ q, p ≤ q ∧ q + form.length ≤ p + gap.length ∧
      FormAt source q kind path := by
  obtain ⟨before, behind, rfl⟩ := hsits
  refine ⟨p + before.length, Nat.le_add_right _ _, ?_, form, hform, ?_⟩
  · simp only [List.length_append]
    omega
  · rw [← List.drop_drop, hdrop]
    exact ⟨behind ++ rest, by simp⟩

/-- Nothing is scanned exactly where no form stands. -/
theorem scan_eq_nil_iff {source : Bytes} : scan source = [] ↔ Formless source := by
  have hreads := reads_scan source
  constructor
  · intro hnone kind path form hform hsits
    obtain ⟨q, -, -, hq⟩ :=
      FormAt.of_infix (p := 0) hform (List.append_nil source).symm hsits
    obtain ⟨d, hd, -⟩ := hreads.complete q kind path (Nat.zero_le q) hq
    rw [hnone] at hd
    cases hd
  · intro hformless
    refine List.eq_nil_iff_forall_not_mem.mpr fun d hd => ?_
    obtain ⟨path, form, hform, hsits, -⟩ := hreads.stands d hd
    exact hformless _ _ _ hform (hsits.isInfix.trans (List.drop_suffix _ _).isInfix)

/-! ## Seams -/

/-- Space, tab and carriage return. -/
def padding : Bytes := [0x20, 0x09, 0x0D]

/-- The line that bytes begin with. -/
def firstLine (bytes : Bytes) : Bytes := bytes.takeWhile (· ≠ lineFeed)

/-- The line that bytes end with. -/
def lastLine (bytes : Bytes) : Bytes := bytes.rtakeWhile (· ≠ lineFeed)

/-- What has no line feed and stands in front is in the first line. -/
theorem subset_firstLine {front bytes : Bytes} (h : front <+: bytes)
    (hline : lineFeed ∉ front) : front ⊆ firstLine bytes := by
  obtain ⟨behind, rfl⟩ := h
  have hall : ∀ b ∈ front, decide (b ≠ lineFeed) = true := by
    intro b hb
    exact decide_eq_true fun heq => hline (heq ▸ hb)
  rw [firstLine, List.takeWhile_append_of_pos hall]
  exact List.subset_append_left _ _

/-- What has no line feed and stands at the end is in the last line. -/
theorem subset_lastLine {back bytes : Bytes} (h : back <:+ bytes)
    (hline : lineFeed ∉ back) : back ⊆ lastLine bytes := by
  have hfirst := subset_firstLine (List.reverse_prefix.mpr h)
    (mt List.mem_reverse.mp hline)
  intro b hb
  exact List.mem_reverse.mpr (hfirst (List.mem_reverse.mpr hb))

/-- What stands behind a line feed is not on the first line. -/
theorem firstLine_append_of_mem {gap : Bytes} (h : lineFeed ∈ gap) (bytes : Bytes) :
    firstLine (gap ++ bytes) = firstLine gap := by
  rw [firstLine, List.takeWhile_append, if_neg]
  · rfl
  · intro hlen
    have hall := List.takeWhile_eq_self_iff.mp
      ((List.takeWhile_prefix _).eq_of_length hlen) lineFeed h
    exact of_decide_eq_true hall rfl

/-- **SEAMS**: two texts without forms have none together if the last line of
    the first or the first line of the second is padding. -/
theorem Formless.append {front back : Bytes} (hfront : Formless front)
    (hback : Formless back)
    (hseam : lastLine front ⊆ padding ∨ firstLine back ⊆ padding) :
    Formless (front ++ back) := by
  intro kind path form hform hsits
  obtain ⟨middle, hfirst, hlast⟩ := hform.ends
  have hline := hform.lineFeed_not_mem
  rcases List.infix_append_iff.mp hsits with h | h | ⟨left, right, rfl, hleft, hright⟩
  · exact hfront _ _ _ hform h
  · exact hback _ _ _ hform h
  · obtain ⟨hlineLeft, hlineRight⟩ := not_or.mp (mt List.mem_append.mpr hline)
    rcases hseam with hpad | hpad
    · -- a part of the form on the padded line begins with `#`, so there is none
      cases left with
      | nil => exact hback _ _ _ hform hright.isInfix
      | cons b left =>
          obtain ⟨rfl, -⟩ := List.cons.inj hfirst
          have := hpad (subset_lastLine hleft hlineLeft List.mem_cons_self)
          exact absurd this (by decide)
    · -- and one behind the seam ends with a semicolon
      rcases List.eq_nil_or_concat' right with rfl | ⟨right, b, rfl⟩
      · rw [List.append_nil] at hform
        exact hfront _ _ _ hform hleft.isInfix
      · obtain rfl : b = 0x3B := by simpa using hlast
        have := hpad (subset_firstLine hright hlineRight (List.mem_concat_self ..))
        exact absurd this (by decide)

/-! ## Directives that stand alone -/

/-- On its line a directive has only padding before and behind it. -/
def StandsAlone (source : Bytes) (d : Directive) : Prop :=
  lastLine (source.take d.start) ⊆ padding ∧
    firstLine (source.drop d.stop) ⊆ padding

instance (source : Bytes) (d : Directive) : Decidable (StandsAlone source d) :=
  inferInstanceAs (Decidable (_ ∧ _))

/-- **ALONE ON THEIR LINES**, directives leave no form when texts without forms
    come in their place.  What stood behind padding still does. -/
theorem formless_of_spliced {replacement : Directive → Bytes} {p : Nat}
    {source text : Bytes} {ds : List Directive} (hreads : Reads source p ds)
    (halone : ∀ d ∈ ds, StandsAlone source d)
    (hformless : ∀ d ∈ ds, Formless (replacement d))
    (h : Spliced replacement p (source.drop p) ds text) :
    Formless text ∧
      (firstLine (source.drop p) ⊆ padding → firstLine text ⊆ padding) := by
  induction ds generalizing p text with
  | nil =>
      obtain rfl := h.eq_source
      refine ⟨?_, id⟩
      intro kind path form hform hsits
      obtain ⟨q, hq, -, hat⟩ := FormAt.of_infix hform (List.append_nil _).symm hsits
      obtain ⟨d, hd, -⟩ := hreads.complete q kind path hq hat
      cases hd
  | cons d ds ih =>
      obtain ⟨gap, span, rest, text', hcut, hgap, hspan, hrest, rfl⟩ := h.cons_inv
      obtain ⟨hbefore, hbehind⟩ := halone d List.mem_cons_self
      have hstart : source.drop d.start = span ++ rest := by
        rw [← hgap, ← List.drop_drop, hcut, List.append_assoc, List.drop_left]
      have hstop : source.drop d.stop = rest := by
        rw [← hspan, ← List.drop_drop, hstart, List.drop_left]
      obtain ⟨hrestFormless, hopens⟩ := ih hreads.tail
        (fun e he => halone e (List.mem_cons_of_mem _ he))
        (fun e he => hformless e (List.mem_cons_of_mem _ he)) (hstop ▸ hrest)
      -- the gap ends on the directive's line
      have hgapBack : gap <:+ source.take d.start := by
        rw [← hgap, List.take_add, hcut, List.append_assoc, List.take_left]
        exact List.suffix_append _ _
      have hgapLine : lastLine gap ⊆ padding := by
        have hsuffix : lastLine gap <:+ source.take d.start :=
          (List.rtakeWhile_suffix _ _).trans hgapBack
        have hline : lineFeed ∉ lastLine gap := by
          intro hmem
          simpa using List.mem_rtakeWhile_imp hmem
        exact List.Subset.trans (subset_lastLine hsuffix hline) hbefore
      have hgapFormless : Formless gap := by
        intro kind path form hform hsits
        rw [List.append_assoc] at hcut
        obtain ⟨q, hq, hend, hat⟩ := FormAt.of_infix hform hcut hsits
        have hle := hreads.start_le hq hat
        have hpos : 0 < form.length := by
          rw [hform.length]
          simp [terminator]
        omega
      have hback := (hformless d List.mem_cons_self).append hrestFormless
        (.inr (hopens (hstop ▸ hbehind)))
      constructor
      · rw [List.append_assoc]
        exact hgapFormless.append hback (.inl hgapLine)
      · intro hpad
        -- a first line of padding ends before the directive, which begins with `#`
        have hline : lineFeed ∈ gap := by
          by_contra hnone
          obtain ⟨path, form, hform, hsits, -⟩ := hreads.stands d List.mem_cons_self
          obtain ⟨middle, rfl, -⟩ := hform.ends
          obtain ⟨behind, hbehind⟩ := hsits
          have hprefix : gap ++ [0x23] <+: source.drop p := by
            rw [hcut, List.append_assoc, ← hstart, ← hbehind]
            exact ⟨middle ++ behind, by simp⟩
          have hmem := subset_firstLine hprefix (by simpa [lineFeed] using hnone)
            (List.mem_append_right _ List.mem_cons_self)
          exact absurd (hpad hmem) (by decide)
        rw [hcut, List.append_assoc, firstLine_append_of_mem hline] at hpad
        rw [List.append_assoc, firstLine_append_of_mem hline]
        exact hpad

/-! ## The include tree -/

/-- In the file at `F`, and in every file included from it, the directives stand
    alone on their lines. -/
def AloneFrom (fs : FileSystem) (o : BundleOptions) (F : Location) : Prop :=
  ∀ G content, Relation.ReflTransGen (Includes fs o) F G →
    fs.contentAt? G = some content → ∀ d ∈ scan content, StandsAlone content d

/-- A source whose directives stand alone expands to a text without forms, if
    they are replaced by such texts. -/
theorem formless_bundle {trail : List Location} {source : Bytes} {e : Expansion}
    (h : expand fs o trail (scan source) = .ok e)
    (halone : ∀ d ∈ scan source, StandsAlone source d)
    (hformless : ∀ d ∈ scan source, Formless (replacementOf fs o trail d)) :
    Formless (e.bundle source).text := by
  have hspliced := spliced_of_expand h
  rw [← List.drop_zero (l := source)] at hspliced
  exact (formless_of_spliced (reads_scan source) halone hformless hspliced).1

/-- What a directive leaves in a text has no form, if all files below it have
    their directives alone on their lines. -/
theorem formless_replacementOf {trail : List Location} {ds : List Directive}
    {e : Expansion} (hmode : o.mode = .recursive)
    (h : expand fs o trail ds = .ok e)
    (halone : ∀ d ∈ ds, d.kind = .inline → ∀ F,
      fs.locate .reach (o.includePath d) = .ok F → AloneFrom fs o F) :
    ∀ d ∈ ds, Formless (replacementOf fs o trail d) := by
  rw [expand_eq_ok_iff] at h
  induction h with
  | nil =>
      intro d hd
      cases hd
  | @link _ d _ _ hkind _ ih =>
      refine List.forall_mem_cons.mpr ⟨?_, ih fun d' hd' =>
        halone d' (List.mem_cons_of_mem _ hd')⟩
      rw [replacementOf_link hkind]
      exact formless_nil
  | single _ _ hsingle => cases hmode.symm.trans hsingle
  | @nested _ d _ place content _ _ hkind hopen _ hnew hinner _ ihinner ih =>
      refine List.forall_mem_cons.mpr ⟨?_, ih fun d' hd' =>
        halone d' (List.mem_cons_of_mem _ hd')⟩
      obtain ⟨hlocate, hcontent⟩ := openFile_eq_ok_iff.mp hopen
      have hfile := halone d List.mem_cons_self hkind place hlocate
      have hexpand := expand_of_expanded hinner
      rw [replacementOf, resolve_nested hkind hopen hmode hnew, hexpand]
      refine formless_bundle hexpand (hfile place content .refl hcontent) ?_
      refine ihinner fun d' hd' hkind' F hlocate' => ?_
      -- the file of a nested directive is one edge further
      have hedge : Includes fs o place F :=
        ⟨d', ⟨content, hcontent, hd', hkind'⟩, hlocate'⟩
      intro G content' hpath
      exact hfile G content' (.head hedge hpath)

/-! ## Bundling again -/

/-- **RESOLVED**: if in the entry and in every file reached from it the directives
    stand alone on their lines, no directive is found in the recursive bundle.
    Bundling it again gives the same text and no libraries, on whatever file
    system, in either mode, as a source or as a file. -/
theorem bundleFile_resolved (fs : FileSystem) (o : BundleOptions) (entry : Path)
    (bundle : Bundle) (hmode : o.mode = .recursive)
    (h : bundleFile fs o entry = .ok bundle)
    (halone : ∀ F content, ReachedFrom fs o entry F →
      fs.contentAt? F = some content → ∀ d ∈ scan content, StandsAlone content d) :
    scan bundle.text = [] ∧
    (∀ (fs' : FileSystem) (o' : BundleOptions),
      bundleSource fs' o' bundle.text = .ok ⟨bundle.text, []⟩) ∧
    ∀ (fs' : FileSystem) (o' : BundleOptions) (p : Path),
      fs'.contents p = .ok bundle.text →
      bundleFile fs' o' p = .ok ⟨bundle.text, []⟩ := by
  obtain ⟨root, content, e, hopen, hexpand, rfl⟩ := bundleFile_eq_ok h
  obtain ⟨hlocate, hcontent⟩ := openFile_eq_ok_iff.mp hopen
  have hroot : AloneFrom fs o root := fun G content' hpath =>
    halone G content' ⟨root, hlocate, hpath⟩
  have hnested := formless_replacementOf hmode hexpand fun d hd hkind F hF =>
    fun G content' hpath => hroot G content'
      (.head ⟨d, ⟨content, hcontent, hd, hkind⟩, hF⟩ hpath)
  have hscan : scan (o.settle (e.bundle content)).text = [] := by
    rw [text_settle, scan_eq_nil_iff]
    exact formless_bundle hexpand (hroot root content .refl hcontent) hnested
  exact ⟨hscan, fun _ _ => bundleSource_of_scan_nil hscan,
    fun _ _ _ => bundleFile_of_scan_nil hscan⟩

/-- A file `m` that includes `a`, which includes `b`, with padding around each
    directive; `b` ends in an opening, and `m` has a terminator on the next line. -/
def openEnds : FileSystem :=
  ⟨[([Utf8.encode "m"], .file (Utf8.encode "A\n \t#use \"a\";;\r\n.ml\";;B") false),
    ([Utf8.encode "a"], .file (Utf8.encode "#use \"b\";; \n#load \"x\";;") false),
    ([Utf8.encode "b"], .file (Utf8.encode "#use \"q") false)], [], none⟩

theorem bundleFile_openEnds :
    bundleFile openEnds fromRoot (Path.ofText "/m")
      = .ok ⟨Utf8.encode "A\n \t#use \"q \n\r\n.ml\";;B", ["x"]⟩ := by
  have hopen : openEnds.openFile (Path.ofText "/m")
      = .ok ([Utf8.encode "m"], Utf8.encode "A\n \t#use \"a\";;\r\n.ml\";;B") := by
    cbv
  have hopenA : openEnds.openFile (fromRoot.includePath ⟨.inline, "a", 4, 14, 2⟩)
      = .ok ([Utf8.encode "a"], Utf8.encode "#use \"b\";; \n#load \"x\";;") := by
    cbv
  have hopenB : openEnds.openFile (fromRoot.includePath ⟨.inline, "b", 0, 10, 1⟩)
      = .ok ([Utf8.encode "b"], Utf8.encode "#use \"q") := by
    cbv
  have hscan : scan (Utf8.encode "A\n \t#use \"a\";;\r\n.ml\";;B")
      = [⟨.inline, "a", 4, 14, 2⟩] := by
    decide +kernel
  have hscanA : scan (Utf8.encode "#use \"b\";; \n#load \"x\";;")
      = [⟨.inline, "b", 0, 10, 1⟩, ⟨.link, "x", 12, 23, 2⟩] := by
    decide +kernel
  have hscanB : scan (Utf8.encode "#use \"q") = [] := by
    decide +kernel
  have hb : resolve openEnds fromRoot [[Utf8.encode "m"], [Utf8.encode "a"]]
      ⟨.inline, "b", 0, 10, 1⟩ = .ok (Utf8.encode "#use \"q", []) := by
    rw [resolve_nested rfl hopenB rfl (by decide +kernel), hscanB, expand_nil]
    rfl
  have ha : resolve openEnds fromRoot [[Utf8.encode "m"]] ⟨.inline, "a", 4, 14, 2⟩
      = .ok (Utf8.encode "#use \"q \n", ["x"]) := by
    rw [resolve_nested rfl hopenA rfl (by decide +kernel), hscanA, List.singleton_append,
      expand_cons_of_ok hb (expand_cons_of_ok (resolve_link rfl) (expand_nil _))]
    rfl
  have hexpand := expand_cons_of_ok ha (expand_nil _)
  rw [← hscan] at hexpand
  rw [bundleFile_of_expand hopen hexpand]
  rfl

/-- The opening that ends `b` stays one, with the terminator a line below it. -/
theorem bundleFile_resolved_openEnds : fromRoot.mode = .recursive ∧
    bundleFile openEnds fromRoot (Path.ofText "/m")
      = .ok ⟨Utf8.encode "A\n \t#use \"q \n\r\n.ml\";;B", ["x"]⟩ ∧
    (∀ F content, ReachedFrom openEnds fromRoot (Path.ofText "/m") F →
      openEnds.contentAt? F = some content →
      ∀ d ∈ scan content, StandsAlone content d) ∧
    bundleSource openEnds fromRoot (Utf8.encode "A\n \t#use \"q \n\r\n.ml\";;B")
      = .ok ⟨Utf8.encode "A\n \t#use \"q \n\r\n.ml\";;B", []⟩ := by
  have halone : ∀ F content, ReachedFrom openEnds fromRoot (Path.ofText "/m") F →
      openEnds.contentAt? F = some content →
      ∀ d ∈ scan content, StandsAlone content d := by
    intro F content _ hcontent
    have hall : ∀ F ∈ openEnds.filePlaces, ∀ d ∈ scan ((openEnds.contentAt? F).getD []),
        StandsAlone ((openEnds.contentAt? F).getD []) d := by
      decide +kernel
    have hfile := hall F (FileSystem.mem_filePlaces_of_contentAt? hcontent)
    rw [hcontent] at hfile
    exact hfile
  exact ⟨rfl, bundleFile_openEnds, halone,
    (bundleFile_resolved openEnds fromRoot _ _ rfl bundleFile_openEnds halone).2.1 _ _⟩

end SourceBundle
