import SourceBundle.Proofs.Splicing
import SourceBundle.Proofs.Terminators

/-! # Letter case — two ways to write one source

    Two sources with the SAME LETTERS differ only in the case of letters of ASCII.
    Forms sit at the same bytes of both (`FormAt.sameLetters`), so what reads one
    reads the other once its paths are read from there
    (`scan_of_sameLetters`).

    If the two differ only in keywords, the paths are the same as well, and so is
    every byte that stays: both sources are bundled alike, or refused alike
    (`scan_letterCase`). -/

namespace SourceBundle

variable {s t : Bytes}

/-! ## The same letters -/

/-- Two bytes that are the same, or one letter of ASCII in its two cases. -/
def SameLetter (b c : UInt8) : Prop :=
  b = c ∨ (0x41 ≤ b ∧ b ≤ 0x5A ∧ c = b + 0x20) ∨ (0x41 ≤ c ∧ c ≤ 0x5A ∧ b = c + 0x20)

instance (b c : UInt8) : Decidable (SameLetter b c) :=
  inferInstanceAs (Decidable (_ ∨ _))

/-- Two byte strings of one length that differ only in the case of letters. -/
def SameLetters (s t : Bytes) : Prop := List.Forall₂ SameLetter s t

theorem SameLetter.symm {b c : UInt8} (h : SameLetter b c) : SameLetter c b := by
  rcases h with rfl | hcapital | hsmall
  · exact .inl rfl
  · exact .inr (.inr hcapital)
  · exact .inr (.inl hsmall)

/-- A capital and its small letter are lowered to the same byte. -/
theorem lowerByte_capital {b : UInt8} (hlow : 0x41 ≤ b) (hhigh : b ≤ 0x5A) :
    lowerByte b = lowerByte (b + 0x20) := by
  simp only [lowerByte, Bool.and_eq_true, decide_eq_true_eq, UInt8.le_iff_toNat_le,
    UInt8.toNat_add, UInt8.reduceToNat] at hlow hhigh ⊢
  rw [if_pos ⟨hlow, hhigh⟩, if_neg (by omega)]

/-- Made small, the same letters are equal. -/
theorem SameLetter.lowerByte_eq {b c : UInt8} (h : SameLetter b c) :
    lowerByte b = lowerByte c := by
  rcases h with rfl | ⟨hlow, hhigh, rfl⟩ | ⟨hlow, hhigh, rfl⟩
  · rfl
  · exact lowerByte_capital hlow hhigh
  · exact (lowerByte_capital hlow hhigh).symm

/-- A line feed has only one case. -/
theorem SameLetter.eq_lineFeed_iff {b c : UInt8} (h : SameLetter b c) :
    b = lineFeed ↔ c = lineFeed := by
  rw [← lowerByte_eq_iff (by decide) (by decide), h.lowerByte_eq,
    lowerByte_eq_iff (by decide) (by decide)]

theorem SameLetters.symm (h : SameLetters s t) : SameLetters t s :=
  List.Forall₂.flip (h.imp fun _ _ => SameLetter.symm)

theorem SameLetters.length_eq (h : SameLetters s t) : s.length = t.length :=
  List.Forall₂.length_eq h

/-- Texts of the same letters are the same in small letters. -/
theorem SameLetters.map_lowerByte (h : SameLetters s t) :
    s.map lowerByte = t.map lowerByte := by
  induction h with
  | nil => rfl
  | cons hletter _ ih => rw [List.map_cons, List.map_cons, hletter.lowerByte_eq, ih]

/-- Line feeds stand at the same bytes. -/
theorem SameLetters.count_lineFeed (h : SameLetters s t) :
    s.count lineFeed = t.count lineFeed := by
  induction h with
  | nil => rfl
  | @cons b c _ _ hletter _ ih =>
      have hsame : (b == lineFeed) = (c == lineFeed) := by
        rw [Bool.eq_iff_iff, beq_iff_eq, beq_iff_eq]
        exact hletter.eq_lineFeed_iff
      rw [List.count_cons, List.count_cons, ih, hsame]

/-- Either both texts have a line feed or neither has one. -/
theorem SameLetters.lineFeed_mem_iff (h : SameLetters s t) :
    lineFeed ∈ s ↔ lineFeed ∈ t := by
  rw [← List.count_pos_iff, h.count_lineFeed, List.count_pos_iff]

/-- What a source begins with is written in the other one too. -/
theorem SameLetters.cut {front back : Bytes} (h : SameLetters (front ++ back) t) :
    ∃ front' back', t = front' ++ back' ∧ SameLetters front front' ∧
      SameLetters back back' :=
  ⟨t.take front.length, t.drop front.length, (List.take_append_drop _ _).symm,
    List.Forall₂.flip (List.forall₂_take_append t front back h.flip),
    List.Forall₂.flip (List.forall₂_drop_append t front back h.flip)⟩

/-! ## Forms -/

/-- A form in other letters is a form of the same kind. -/
theorem IsForm.sameLetters {kind : DirectiveKind} {path form form' : Bytes}
    (h : IsForm kind path form) (hsame : SameLetters form form') :
    ∃ path', path'.length = path.length ∧ IsForm kind path' form' := by
  obtain ⟨hne, hline, keyword, hkeyword, rfl⟩ := h
  obtain ⟨front, last, rfl, hfront, hlast⟩ := hsame.cut
  obtain ⟨opening, path', rfl, hopening, hpath⟩ := hfront.cut
  have hspelled : opening.map lowerByte = kind.opening := by
    rw [← hopening.map_lowerByte]
    exact spells_opening_iff.mpr ⟨keyword, hkeyword, rfl⟩
  obtain ⟨keyword', hkeyword', rfl⟩ := spells_opening_iff.mp hspelled
  have hterminator : last = terminator :=
    spells_terminator_iff.mp (hlast.map_lowerByte.symm.trans rfl)
  refine ⟨path', hpath.length_eq.symm, ?_, mt hpath.lineFeed_mem_iff.mpr hline, keyword',
    hkeyword', by rw [hterminator]; rfl⟩
  rintro rfl
  exact hne (List.length_eq_zero_iff.mp hpath.length_eq)

/-- **FORMS STAY** where they are when the case of letters changes. -/
theorem FormAt.sameLetters {p : Nat} {kind : DirectiveKind} {path : Bytes}
    (h : FormAt s p kind path) (hsame : SameLetters s t) :
    ∃ path', path'.length = path.length ∧ FormAt t p kind path' := by
  obtain ⟨form, hform, rest, hrest⟩ := h
  have hdrop : SameLetters (form ++ rest) (t.drop p) := hrest ▸ List.forall₂_drop p hsame
  obtain ⟨form', rest', hcut, hletters, -⟩ := hdrop.cut
  obtain ⟨path', hlength, hform'⟩ := hform.sameLetters hletters
  exact ⟨path', hlength, form', hform', rest', hcut.symm⟩

/-! ## Scans -/

/-- A directive with its path read from another source. -/
def Directive.readIn (source : Bytes) (d : Directive) : Directive :=
  { d with path := Utf8.decodeLossy (d.pathIn source) }

/-- A directive stands where it stood, with the path as it is now. -/
theorem StandsIn.sameLetters {d : Directive} (h : StandsIn s d) (hsame : SameLetters s t) :
    StandsIn t (d.readIn t) := by
  obtain ⟨path, form, hform, hsits, hstop, hleast, -, hline⟩ := h
  obtain ⟨path', hlength, hat⟩ := FormAt.sameLetters ⟨form, hform, hsits⟩ hsame
  obtain ⟨form', hform', hsits'⟩ := id hat
  have hstop' : d.stop = d.start + form'.length := by
    rw [hstop, hform.length, hform'.length, hlength]
  refine ⟨path', form', hform', hsits', hstop', ?_, ?_, ?_⟩
  · -- a shorter form would be a shorter one in the first source too
    intro kind' other hother
    obtain ⟨other', hlength', hat'⟩ := hother.sameLetters hsame.symm
    have := hleast kind' other' hat'
    omega
  · obtain ⟨-, -, -, hpath⟩ := formAt_iff.mp hat
    have hread : d.pathIn t = path' := by
      refine Directive.pathIn_eq hpath ?_
      rw [hstop', hform'.length, Directive.pathStart]
      omega
    rw [Directive.readIn, hread]
  · have hcount := SameLetters.count_lineFeed (List.forall₂_take d.start hsame)
    rw [hcount] at hline
    exact hline

/-- **SCANS STAY**: a source with the same letters has the same directives, with their
    paths as they are written there. -/
theorem scan_of_sameLetters (hsame : SameLetters s t) :
    scan t = (scan s).map (Directive.readIn t) := by
  have hreads := reads_scan s
  refine (Reads.unique ⟨?_, ?_, ?_, ?_⟩ (reads_scan t)).symm
  · exact List.pairwise_map.mpr hreads.ordered
  · intro d' hd'
    obtain ⟨d, hd, rfl⟩ := List.mem_map.mp hd'
    rw [← hsame.length_eq]
    exact hreads.inside d hd
  · intro d' hd'
    obtain ⟨d, hd, rfl⟩ := List.mem_map.mp hd'
    exact (hreads.stands d hd).sameLetters hsame
  · intro p kind path hp hform
    obtain ⟨path', -, hform'⟩ := hform.sameLetters hsame.symm
    obtain ⟨d, hd, hcover⟩ := hreads.complete p kind path' hp hform'
    exact ⟨d.readIn t, List.mem_map_of_mem hd, hcover⟩

/-! ## Keywords -/

/-- Byte `i` of a source belongs to the keyword of a directive. -/
def Directive.InKeyword (d : Directive) (i : Nat) : Prop :=
  d.start < i ∧ i ≤ d.start + d.kind.keyword.length

instance (d : Directive) (i : Nat) : Decidable (d.InKeyword i) :=
  inferInstanceAs (Decidable (_ ∧ _))

/-- Byte `i` of a source belongs to a directive. -/
def Directive.InSpan (d : Directive) (i : Nat) : Prop := d.start ≤ i ∧ i < d.stop

/-- A byte belongs to one directive at most. -/
theorem eq_of_inSpan {d e : Directive} {i : Nat} (hd : d ∈ scan s) (he : e ∈ scan s)
    (hdspan : d.InSpan i) (hespan : e.InSpan i) : e = d := by
  have hreads := reads_scan s
  obtain ⟨hdlow, hdhigh⟩ := hdspan
  obtain ⟨helow, hehigh⟩ := hespan
  rcases Nat.lt_trichotomy e.start d.start with hlt | heq | hgt
  · have := hreads.stop_le hd he hlt
    omega
  · exact (hreads.stands e he).unique (hreads.stands d hd) heq
  · have := hreads.stop_le he hd hgt
    omega

/-- The keyword of a directive is inside its span. -/
theorem Directive.InKeyword.inSpan {d : Directive} {i : Nat} (h : d.InKeyword i)
    (hd : d ∈ scan s) : d.InSpan i := by
  obtain ⟨path, hpath⟩ := hasPath_of_mem_scan hd
  have hstop := hpath.stop
  have hlength := d.kind.length_keyword
  obtain ⟨hlow, hhigh⟩ := h
  rw [Directive.pathStart] at hstop
  exact ⟨hlow.le, by omega⟩

/-- Two sources that are equal outside the keywords of the directives in the first. -/
def EqualOutsideKeywords (s t : Bytes) : Prop :=
  ∀ i : Nat, (∀ d ∈ scan s, ¬ d.InKeyword i) → s[i]? = t[i]?

/-- Then the paths are equal, since no keyword stands in one. -/
theorem EqualOutsideKeywords.pathIn_eq (h : EqualOutsideKeywords s t) {d : Directive}
    (hd : d ∈ scan s) : d.pathIn s = d.pathIn t := by
  have hstart : d.pathStart = d.start + d.kind.opening.length := rfl
  have hlength := d.kind.length_keyword
  refine List.ext_getElem? fun i => ?_
  simp only [Directive.pathIn, List.getElem?_take, List.getElem?_drop]
  split
  · next hi =>
      refine h _ fun e he hkeyword => ?_
      have hspan : d.InSpan (d.pathStart + i) := ⟨by omega, by omega⟩
      -- the keyword would be that of `d`, but the path begins behind it
      obtain rfl := eq_of_inSpan hd he hspan (hkeyword.inSpan he)
      have := hkeyword.2
      omega
  · rfl

/-- **THE SAME SCAN**: the case of a keyword does not show in its directive. -/
theorem EqualOutsideKeywords.scan_eq (h : EqualOutsideKeywords s t)
    (hsame : SameLetters s t) : scan s = scan t := by
  rw [scan_of_sameLetters hsame]
  refine (List.map_id (scan s)).symm.trans (List.map_congr_left fun d hd => ?_)
  rw [Directive.readIn, ← h.pathIn_eq hd, ← (hasPath_pathIn hd).text]
  rfl

/-! ## Bundles -/

/-- Only the bytes outside the spans are kept. -/
theorem splice_congr {p : Nat} {ds : List Directive} (replacement : Directive → Bytes)
    (hreads : Reads s p ds)
    (h : ∀ i, p ≤ i → (∀ d ∈ ds, ¬ d.InSpan i) → s[i]? = t[i]?) :
    splice p (s.drop p) (ds.map fun d => ⟨d.start, d.stop, replacement d⟩)
      = splice p (t.drop p) (ds.map fun d => ⟨d.start, d.stop, replacement d⟩) := by
  -- `p` is where the span before ends; each directive keeps the gap in front of it
  induction ds generalizing p with
  | nil =>
      refine List.ext_getElem? fun i => ?_
      simp only [List.map_nil, splice, List.getElem?_drop]
      exact h _ (Nat.le_add_right p i) fun d hd => absurd hd List.not_mem_nil
  | cons d ds ih =>
      obtain ⟨hstart, hspan, hstop⟩ := hreads.inside d List.mem_cons_self
      have hafter := (List.pairwise_cons.mp hreads.ordered).1
      have hgap : (s.drop p).take (d.start - p) = (t.drop p).take (d.start - p) := by
        refine List.ext_getElem? fun i => ?_
        simp only [List.getElem?_take, List.getElem?_drop]
        split
        · refine h _ (Nat.le_add_right p i) fun e he hin => ?_
          obtain ⟨hlow, -⟩ := hin
          rcases List.mem_cons.mp he with rfl | he
          · omega
          · have := hafter e he
            omega
        · rfl
      have hdrop : ∀ source : Bytes, (source.drop p).drop (d.stop - p)
          = source.drop d.stop := by
        intro source
        rw [List.drop_drop, Nat.add_sub_cancel' (hstart.trans hspan.le)]
      have hrest := ih hreads.tail fun i hi hout => by
        refine h i (by omega) fun e he hin => ?_
        rcases List.mem_cons.mp he with rfl | he
        · exact absurd hin.2 (Nat.not_lt.mpr hi)
        · exact hout e he hin
      simp only [List.map_cons, splice, hdrop, hgap, hrest]

/-- **THE SAME BUNDLE**: sources with the same directives that are equal outside them
    are bundled alike. -/
theorem bundleSource_congr (fs : FileSystem) (o : BundleOptions) (hscan : scan s = scan t)
    (h : ∀ i, (∀ d ∈ scan s, ¬ d.InSpan i) → s[i]? = t[i]?) :
    bundleSource fs o s = bundleSource fs o t := by
  have hbundle : ∀ e, expand fs o [] (scan s) = .ok e → e.bundle s = e.bundle t := by
    intro e he
    have hsplice := splice_congr (replacementOf fs o []) (reads_scan s)
      fun i _ hout => h i hout
    simp only [List.drop_zero] at hsplice
    rw [Expansion.bundle, Expansion.bundle, edits_of_expand he, hsplice]
  rw [bundleSource, bundleSource, bundleFrom_eq_map, bundleFrom_eq_map, ← hscan]
  cases he : expand fs o [] (scan s) with
  | error cause => rfl
  | ok e => rw [Except.map, Except.map, hbundle e he]

/-- Two directives that differ at most in their paths. -/
structure SamePlace (d e : Directive) : Prop where
  kind : d.kind = e.kind
  start : d.start = e.start
  stop : d.stop = e.stop
  line : d.line = e.line

/-- **LETTER CASE**: two sources that differ only in the case of letters have directives
    of the same kinds at the same places.  If they differ only in keywords, they have the
    same directives, and are bundled alike or refused alike. -/
theorem scan_letterCase (s t : Bytes) (hsame : SameLetters s t) :
    List.Forall₂ SamePlace (scan s) (scan t) ∧
    (EqualOutsideKeywords s t →
      scan s = scan t ∧ ∀ fs o, bundleSource fs o s = bundleSource fs o t) := by
  constructor
  · rw [scan_of_sameLetters hsame, List.forall₂_map_right_iff, List.forall₂_same]
    exact fun d _ => ⟨rfl, rfl, rfl, rfl⟩
  · intro h
    have hscan := h.scan_eq hsame
    refine ⟨hscan, fun fs o => bundleSource_congr fs o hscan fun i hout => ?_⟩
    exact h i fun d hd hkeyword => hout d hd (hkeyword.inSpan hd)

/-- Letters outside ASCII, and bytes that only look like letters in two cases, are told
    apart. -/
example : ¬ SameLetter 0xC9 0xE9 ∧ ¬ SameLetter 0x5B 0x7B := by decide

/-- Two ways to write a use and a load. -/
def shouted : Bytes := Utf8.encode "#USE \"a\";;#load \"G\";;x"

def spoken : Bytes := Utf8.encode "#use \"a\";;#LoAd \"G\";;x"

/-- The two are bundled alike on every file system. -/
theorem scan_letterCase_shouted : SameLetters shouted spoken ∧
    EqualOutsideKeywords shouted spoken ∧
    scan spoken = [⟨.inline, "a", 0, 10, 1⟩, ⟨.link, "G", 10, 21, 1⟩] ∧
    ∀ fs o, bundleSource fs o shouted = bundleSource fs o spoken := by
  have hscan : scan shouted = [⟨.inline, "a", 0, 10, 1⟩, ⟨.link, "G", 10, 21, 1⟩] := by
    decide +kernel
  have hsame : SameLetters shouted spoken := by
    unfold SameLetters
    decide +kernel
  have hequal : EqualOutsideKeywords shouted spoken := by
    have hinside : ∀ i < 22, (∀ d ∈ scan shouted, ¬ d.InKeyword i) →
        shouted[i]? = spoken[i]? := by
      decide +kernel
    have hends : shouted.length = 22 ∧ spoken.length = 22 := by decide +kernel
    intro i hi
    rcases Nat.lt_or_ge i 22 with hlt | hge
    · exact hinside i hlt hi
    · rw [List.getElem?_eq_none (hends.1.trans_le hge),
        List.getElem?_eq_none (hends.2.trans_le hge)]
  obtain ⟨hscans, hbundles⟩ := (scan_letterCase shouted spoken hsame).2 hequal
  exact ⟨hsame, hequal, hscans.symm.trans hscan, hbundles⟩

end SourceBundle
