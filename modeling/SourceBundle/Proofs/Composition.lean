import SourceBundle.Proofs.Splicing

/-! # Composition — a file is the same text wherever it is included

    A file is expanded on the trail that leads to it, a file bundled by itself
    on an empty one.  Since a trail only forbids, whatever the file comes to
    inside another bundle it comes to on its own, and a recursive bundle is
    its source with the bundles of the included files put in
    (`bundleSource_compositional`). -/

namespace SourceBundle

variable {fs : FileSystem} {o : BundleOptions}

/-- Settling the libraries leaves the text alone. -/
@[simp] theorem text_settle (o : BundleOptions) (bundle : Bundle) :
    (o.settle bundle).text = bundle.text := by
  unfold BundleOptions.settle
  cases o.mode <;> rfl

/-- What a `#use` leaves in a text, on whatever trail, is the bundle of its
    file by itself. -/
theorem replacementOf_inline {trail : List Location} {d : Directive}
    {out : Bytes × List String} (hmode : o.mode = .recursive)
    (hkind : d.kind = .inline) (h : resolve fs o trail d = .ok out) :
    ∃ content nested, fs.contents (o.includePath d) = .ok content ∧
      bundleSource fs o content = .ok nested ∧
      replacementOf fs o trail d = nested.text := by
  rcases resolve_recursive_eq_ok hmode h with ⟨hlink, -⟩ | ⟨-, hnested⟩
  · exact nomatch hkind.symm.trans hlink
  · obtain ⟨place, content, nested, hopen, -, hexpand, hout⟩ := hnested
    -- the file by itself is on the empty trail, which is part of any other
    refine ⟨content, o.settle (nested.bundle content), ?_, ?_, ?_⟩
    · rw [FileSystem.contents, hopen]
      rfl
    · exact bundleSource_of_expand (expand_mono hexpand (List.nil_subset _))
    · rw [replacementOf, h, hout, text_settle]

/-- A library leaves nothing in the text. -/
theorem replacementOf_link {trail : List Location} {d : Directive}
    (hkind : d.kind = .link) : replacementOf fs o trail d = [] := by
  rw [replacementOf, resolve_link hkind]

/-- **COMPOSITION**: in a recursive bundle each `#use` is replaced by the bundle
    of its file by itself, each `#load` by nothing, and nothing else changes. -/
theorem bundleSource_compositional (fs : FileSystem) (o : BundleOptions)
    (source : Bytes) (bundle : Bundle) (hmode : o.mode = .recursive)
    (h : bundleSource fs o source = .ok bundle) :
    ∃ replacement : Directive → Bytes,
      Spliced replacement 0 source (scan source) bundle.text ∧
      ∀ d ∈ scan source,
        (d.kind = .link → replacement d = []) ∧
        (d.kind = .inline → ∃ content nested,
          fs.contents (o.includePath d) = .ok content ∧
          bundleSource fs o content = .ok nested ∧
          replacement d = nested.text) := by
  obtain ⟨e, he, rfl⟩ := bundleSource_eq_ok h
  refine ⟨replacementOf fs o [], ?_, ?_⟩
  · rw [text_settle]
    exact spliced_of_expand he
  · intro d hd
    obtain ⟨out, hout⟩ := expand_isOk_iff.mp ⟨e, he⟩ d hd
    constructor
    · intro hkind
      exact replacementOf_link hkind
    · intro hkind
      exact replacementOf_inline hmode hkind hout

/-- A file `a` that includes a file `b`. -/
def twoFiles : FileSystem :=
  ⟨[([Utf8.encode "a"], .file (Utf8.encode "1#use \"b\";;") false),
    ([Utf8.encode "b"], .file (Utf8.encode "2") false)], [], none⟩

theorem bundleSource_twoFiles :
    bundleSource twoFiles fromRoot (Utf8.encode "0#use \"a\";;")
      = .ok ⟨Utf8.encode "012", []⟩ := by
  have hopenA : twoFiles.openFile (fromRoot.includePath ⟨.inline, "a", 1, 11, 1⟩)
      = .ok ([Utf8.encode "a"], Utf8.encode "1#use \"b\";;") := by
    cbv
  have hopenB : twoFiles.openFile (fromRoot.includePath ⟨.inline, "b", 1, 11, 1⟩)
      = .ok ([Utf8.encode "b"], Utf8.encode "2") := by
    cbv
  have hscan : scan (Utf8.encode "0#use \"a\";;") = [⟨.inline, "a", 1, 11, 1⟩] := by
    decide +kernel
  have hscanA : scan (Utf8.encode "1#use \"b\";;") = [⟨.inline, "b", 1, 11, 1⟩] := by
    decide +kernel
  have hscanB : scan (Utf8.encode "2") = [] := by
    decide +kernel
  have hb : resolve twoFiles fromRoot [[Utf8.encode "a"]] ⟨.inline, "b", 1, 11, 1⟩
      = .ok (Utf8.encode "2", []) := by
    rw [resolve_nested rfl hopenB rfl (by decide +kernel), hscanB, expand_nil]
    rfl
  have ha : resolve twoFiles fromRoot [] ⟨.inline, "a", 1, 11, 1⟩
      = .ok (Utf8.encode "12", []) := by
    rw [resolve_nested rfl hopenA rfl (by decide +kernel), hscanA, List.nil_append,
      expand_cons_of_ok hb (expand_nil _)]
    rfl
  have hexpand := expand_cons_of_ok ha (expand_nil _)
  rw [← hscan] at hexpand
  rw [bundleSource_of_expand hexpand]
  rfl

/-- The text `012` is made of the `0` of the source, and of what `a` comes to by
    itself. -/
theorem bundleSource_compositional_twoFiles :
    ∃ replacement : Directive → Bytes,
      Spliced replacement 0 (Utf8.encode "0#use \"a\";;")
        (scan (Utf8.encode "0#use \"a\";;")) (Utf8.encode "012") ∧
      ∀ d ∈ scan (Utf8.encode "0#use \"a\";;"),
        (d.kind = .link → replacement d = []) ∧
        (d.kind = .inline → ∃ content nested,
          twoFiles.contents (fromRoot.includePath d) = .ok content ∧
          bundleSource twoFiles fromRoot content = .ok nested ∧
          replacement d = nested.text) :=
  bundleSource_compositional twoFiles fromRoot _ _ rfl bundleSource_twoFiles

end SourceBundle
