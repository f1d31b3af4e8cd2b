import SourceBundle.Proofs.DirectiveForms
import SourceBundle.Proofs.Expansion

/-! # Splicing — every byte outside the spans stays

    `Spliced replacement p source ds text` says how a text comes from a source
    that goes on at byte `p`: the source is cut into gaps and the spans of the
    directives, in order, and the text is the same gaps with a replacement for
    each span.  Nothing is sliced there, so nothing can be out of range.

    The program slices by positions; on what the scan finds, the two agree
    (`spliced_splice`). -/

namespace SourceBundle

variable {fs : FileSystem} {o : BundleOptions}

/-- `text` is `source`, which goes on at byte `p`, with a replacement in the
    place of each directive's span. -/
inductive Spliced (replacement : Directive → Bytes) :
    (p : Nat) → (source : Bytes) → List Directive → (text : Bytes) → Prop where
  | rest (p : Nat) (source : Bytes) : Spliced replacement p source [] source
  | span {p : Nat} {gap span source text : Bytes} {d : Directive}
      {ds : List Directive} :
      p + gap.length = d.start → d.start + span.length = d.stop →
      Spliced replacement d.stop source ds text →
      Spliced replacement p (gap ++ span ++ source) (d :: ds)
        (gap ++ replacement d ++ text)

/-- Without directives nothing is replaced. -/
theorem Spliced.eq_source {replacement : Directive → Bytes} {p : Nat}
    {source text : Bytes} (h : Spliced replacement p source [] text) :
    text = source := by
  cases h
  rfl

/-- The first directive is replaced behind the gap in front of it. -/
theorem Spliced.cons_inv {replacement : Directive → Bytes} {p : Nat}
    {source text : Bytes} {d : Directive} {ds : List Directive}
    (h : Spliced replacement p source (d :: ds) text) :
    ∃ gap span rest text', source = gap ++ span ++ rest ∧
      p + gap.length = d.start ∧ d.start + span.length = d.stop ∧
      Spliced replacement d.stop rest ds text' ∧
      text = gap ++ replacement d ++ text' := by
  cases h with
  | span hgap hspan hrest => exact ⟨_, _, _, _, rfl, hgap, hspan, hrest, rfl⟩

/-- The source and its spans tell the text. -/
theorem Spliced.unique {replacement : Directive → Bytes} {p : Nat}
    {source text text' : Bytes} {ds : List Directive}
    (h : Spliced replacement p source ds text)
    (h' : Spliced replacement p source ds text') : text = text' := by
  induction h generalizing text' with
  | rest p source => exact h'.eq_source.symm
  | @span p gap span source text d ds hgap hspan hrest ih =>
      obtain ⟨gap', span', source', tail, hcut, hgap', hspan', hrest', rfl⟩ := h'.cons_inv
      have hgaps : gap.length = gap'.length := by omega
      have hspans : (gap ++ span).length = (gap' ++ span').length := by
        rw [List.length_append, List.length_append]
        omega
      obtain ⟨hfront, rfl⟩ := List.append_inj hcut hspans
      obtain rfl := List.append_inj_left hfront hgaps
      rw [ih hrest']

/-- Bytes in front of a source stay in front of its text. -/
theorem Spliced.gap {replacement : Directive → Bytes} {p : Nat}
    {source text : Bytes} {ds : List Directive} (gap : Bytes)
    (h : Spliced replacement (p + gap.length) source ds text) :
    Spliced replacement p (gap ++ source) ds (gap ++ text) := by
  cases h with
  | rest => exact .rest p _
  | @span _ gap' span source text d ds hgap hspan hrest =>
      have hstart : p + (gap ++ gap').length = d.start := by
        rw [List.length_append, ← Nat.add_assoc]
        exact hgap
      have hspliced := Spliced.span hstart hspan hrest
      simp only [List.append_assoc] at hspliced ⊢
      exact hspliced

/-- A text behind a text: the spans of the second source go on where the first
    ends. -/
theorem Spliced.append {replacement : Directive → Bytes} {p : Nat}
    {front back text text' : Bytes} {ds es : List Directive}
    (h : Spliced replacement p front ds text)
    (h' : Spliced replacement (p + front.length) back es text') :
    Spliced replacement p (front ++ back) (ds ++ es) (text ++ text') := by
  induction h with
  | rest p source => exact h'.gap source
  | @span p gap span source text d ds hgap hspan hrest ih =>
      have hstop : p + (gap ++ span ++ source).length = d.stop + source.length := by
        simp only [List.length_append]
        omega
      have hspliced := Spliced.span hgap hspan (ih (hstop ▸ h'))
      simp only [List.append_assoc, List.cons_append] at hspliced ⊢
      exact hspliced

/-- Spans that are moved together with their source are replaced in it as before. -/
theorem Spliced.moved {replacement : Directive → Bytes} {p n : Nat}
    {source text : Bytes} {ds : List Directive} (move : Directive → Directive)
    (hstart : ∀ d, (move d).start = d.start + n)
    (hstop : ∀ d, (move d).stop = d.stop + n)
    (hsame : ∀ d, replacement (move d) = replacement d)
    (h : Spliced replacement p source ds text) :
    Spliced replacement (p + n) source (ds.map move) text := by
  induction h with
  | rest p source => exact .rest _ _
  | @span p gap span source text d ds hgap hspan hrest ih =>
      have hgap' : p + n + gap.length = (move d).start := by
        rw [hstart]
        omega
      have hspan' : (move d).start + span.length = (move d).stop := by
        rw [hstart, hstop]
        omega
      have hspliced := Spliced.span hgap' hspan' ((hstop d).symm ▸ ih)
      rw [hsame] at hspliced
      exact hspliced

/-- What is left of a source at a later byte, behind a stretch of it. -/
theorem drop_eq_append_drop {source : Bytes} {p q : Nat} (hpq : p ≤ q)
    (hq : q ≤ source.length) :
    ∃ gap : Bytes, p + gap.length = q ∧ source.drop p = gap ++ source.drop q := by
  refine ⟨(source.drop p).take (q - p), ?_, ?_⟩
  · rw [List.length_take, List.length_drop]
    omega
  · have hcut := List.take_append_drop (q - p) (source.drop p)
    rw [List.drop_drop, Nat.add_sub_cancel' hpq] at hcut
    exact hcut.symm

/-- Replacing the spans of what is read cuts the source only where it can be
    cut. -/
theorem spliced_splice {source : Bytes} {p : Nat} {ds : List Directive}
    (replacement : Directive → Bytes) (h : Reads source p ds) :
    Spliced replacement p (source.drop p) ds
      (splice p (source.drop p)
        (ds.map fun d => ⟨d.start, d.stop, replacement d⟩)) := by
  induction ds generalizing p with
  | nil => exact .rest p _
  | cons d ds ih =>
      obtain ⟨hstart, hspan, hstop⟩ := h.inside d List.mem_cons_self
      obtain ⟨gap, hgap, hdropgap⟩ :=
        drop_eq_append_drop hstart (hspan.le.trans hstop)
      obtain ⟨span, hlen, hdropspan⟩ := drop_eq_append_drop hspan.le hstop
      -- what `splice` slices off is the gap, and what it goes on with is behind the span
      have htake : (source.drop p).take (d.start - p) = gap := by
        rw [hdropgap, ← hgap, Nat.add_sub_cancel_left, List.take_left]
      have hdrop : (source.drop p).drop (d.stop - p) = source.drop d.stop := by
        rw [List.drop_drop, Nat.add_sub_cancel' (hstart.trans hspan.le)]
      simp only [List.map_cons, splice, htake, hdrop]
      rw [hdropgap, hdropspan, ← List.append_assoc]
      exact .span hgap hlen (ih h.tail)

/-- The text of an expansion is its source with each span replaced by what its
    directive is resolved to. -/
theorem spliced_of_expand {trail : List Location} {source : Bytes}
    {e : Expansion} (h : expand fs o trail (scan source) = .ok e) :
    Spliced (replacementOf fs o trail) 0 source (scan source)
      (e.bundle source).text := by
  have hsplice := spliced_splice (replacementOf fs o trail) (reads_scan source)
  rw [List.drop_zero] at hsplice
  rw [Expansion.bundle, edits_of_expand h]
  exact hsplice

end SourceBundle
