import Mathlib
import SourceBundle.Directive.Scan

/-! # Directive forms — what the scan of a source has to be

    A FORM is the written shape of a directive: `#`, a keyword in any letter
    case, one space, a quote, a path of at least one byte on one line, and
    `";;`.  `FormAt` says where one sits in a source, without any scanning.

    `Reads source start ds` says declaratively what it is to read the
    directives of a source from byte `start` on: ordered spans, each the
    shortest form at its start, and every place where a form sits covered by a
    span.  At most one list does that (`Reads.unique`), and the scan does
    (`reads_scan`). -/

namespace SourceBundle

/-! ## Forms -/

/-- The keyword of a kind, in small letters. -/
def DirectiveKind.keyword : DirectiveKind → Bytes
  | .inline => [0x75, 0x73, 0x65]
  | .link => [0x6C, 0x6F, 0x61, 0x64]

/-- The bytes `form` are a directive of this kind and path, and nothing else. -/
def IsForm (kind : DirectiveKind) (path form : Bytes) : Prop :=
  path ≠ [] ∧ lineFeed ∉ path ∧
    ∃ keyword : Bytes, keyword.map lowerByte = kind.keyword ∧
      form = [0x23] ++ keyword ++ [0x20, 0x22] ++ path ++ [0x22, 0x3B, 0x3B]

/-- A directive form of this kind and path sits at byte `p` of a source. -/
def FormAt (source : Bytes) (p : Nat) (kind : DirectiveKind) (path : Bytes) :
    Prop :=
  ∃ form, IsForm kind path form ∧ form <+: source.drop p

/-- A directive as it stands in a source: its span is a form, no form with a
    shorter path sits at its start, and its fields say what is written. -/
def StandsIn (source : Bytes) (d : Directive) : Prop :=
  ∃ path form, IsForm d.kind path form ∧ form <+: source.drop d.start ∧
    d.stop = d.start + form.length ∧
    (∀ kind' path', FormAt source d.start kind' path' →
      path.length ≤ path'.length) ∧
    d.path = Utf8.decodeLossy path ∧
    d.line = 1 + (source.take d.start).count lineFeed

/-- The directives of a source from byte `start` on. -/
structure Reads (source : Bytes) (start : Nat) (ds : List Directive) : Prop where
  ordered : ds.Pairwise fun d e => d.stop ≤ e.start
  inside : ∀ d ∈ ds, start ≤ d.start ∧ d.start < d.stop ∧ d.stop ≤ source.length
  stands : ∀ d ∈ ds, StandsIn source d
  complete : ∀ p kind path, start ≤ p → FormAt source p kind path →
    ∃ d ∈ ds, d.start ≤ p ∧ p < d.stop

/-! ## Letter case -/

/-- A byte that is no letter is matched by itself alone. -/
theorem lowerByte_eq_iff {b w : UInt8}
    (hcapital : w < 0x41 ∨ 0x5A < w) (hsmall : w < 0x61 ∨ 0x7A < w) :
    lowerByte b = w ↔ b = w := by
  unfold lowerByte
  split
  · next hb =>
      simp only [Bool.and_eq_true, decide_eq_true_eq, UInt8.le_iff_toNat_le] at hb
      simp only [UInt8.lt_iff_toNat_lt] at hcapital hsmall
      simp only [← UInt8.toNat_inj, UInt8.toNat_add]
      simp only [UInt8.reduceToNat] at *
      omega
  · exact Iff.rfl

/-- A word is dropped exactly when the bytes in front spell it. -/
theorem dropWord_eq_some_iff {word bytes rest : Bytes} :
    dropWord word bytes = some rest ↔
      ∃ written : Bytes, written.map lowerByte = word ∧ bytes = written ++ rest := by
  induction word generalizing bytes with
  | nil => simp [dropWord, eq_comm]
  | cons w word ih =>
      cases bytes with
      | nil => simp [dropWord]
      | cons b bytes =>
          simp only [dropWord]
          constructor
          · intro h
            split at h
            · next hb =>
                obtain ⟨written, hw, rfl⟩ := ih.mp h
                exact ⟨b :: written, by simp [hb, hw], rfl⟩
            · exact nomatch h
          · rintro ⟨written, hw, heq⟩
            cases written with
            | nil => exact nomatch hw
            | cons b' written =>
                obtain ⟨rfl, rfl⟩ := List.cons.inj heq
                obtain ⟨hb, hw⟩ := List.cons.inj hw
                rw [if_pos hb]
                exact ih.mpr ⟨written, hw, rfl⟩

/-- The terminator has no letters, so only it spells it. -/
theorem spells_terminator_iff {written : Bytes} :
    written.map lowerByte = terminator ↔ written = terminator := by
  constructor
  · intro h
    rcases written with _ | ⟨a, _ | ⟨b, _ | ⟨c, _ | ⟨d, tail⟩⟩⟩⟩ <;>
      simp only [terminator, List.map_cons, List.map_nil, List.cons.injEq,
        reduceCtorEq, and_false] at h ⊢
    rw [lowerByte_eq_iff (by decide) (by decide),
      lowerByte_eq_iff (by decide) (by decide),
      lowerByte_eq_iff (by decide) (by decide)] at h
    exact h
  · rintro rfl
    decide

/-- The terminator is dropped as it is, since it has no letters. -/
theorem dropWord_terminator_iff {bytes rest : Bytes} :
    dropWord terminator bytes = some rest ↔ bytes = terminator ++ rest := by
  rw [dropWord_eq_some_iff]
  constructor
  · rintro ⟨written, hw, rfl⟩
    rw [spells_terminator_iff.mp hw]
  · intro h
    exact ⟨terminator, spells_terminator_iff.mpr rfl, h⟩

/-- The bytes that spell an opening are `#`, a keyword, a space and a quote. -/
theorem spells_opening_iff {kind : DirectiveKind} {written : Bytes} :
    written.map lowerByte = kind.opening ↔
      ∃ keyword : Bytes, keyword.map lowerByte = kind.keyword ∧
        written = [0x23] ++ keyword ++ [0x20, 0x22] := by
  have hsplit : kind.opening = [0x23] ++ kind.keyword ++ [0x20, 0x22] := by
    cases kind <;> rfl
  rw [hsplit]
  constructor
  · intro h
    obtain ⟨front, last, rfl, hfront, hlast⟩ := List.map_eq_append_iff.mp h
    obtain ⟨hash, keyword, rfl, hhash, hkeyword⟩ := List.map_eq_append_iff.mp hfront
    obtain ⟨a, rfl, ha⟩ := List.map_eq_singleton_iff.mp hhash
    obtain ⟨b, quote, rfl, hb, hquote⟩ := List.map_eq_cons_iff.mp hlast
    obtain ⟨c, rfl, hc⟩ := List.map_eq_singleton_iff.mp hquote
    rw [lowerByte_eq_iff (by decide) (by decide)] at ha hb hc
    exact ⟨keyword, hkeyword, by rw [ha, hb, hc]⟩
  · rintro ⟨keyword, hkeyword, rfl⟩
    rw [List.map_append, List.map_append, hkeyword]
    rfl

/-! ## The path in front of a terminator -/

/-- A path that is taken is a path of one line, with its terminator behind it. -/
theorem takePath_sound {bytes path rest : Bytes}
    (h : takePath bytes = some (path, rest)) :
    path ≠ [] ∧ lineFeed ∉ path ∧ bytes = path ++ terminator ++ rest := by
  induction bytes generalizing path with
  | nil => cases h
  | cons b bytes ih =>
      simp only [takePath] at h
      split at h
      · cases h
      · next hb =>
          split at h
          · next after hafter =>
              obtain ⟨rfl, rfl⟩ := Prod.mk.inj (Option.some.inj h)
              refine ⟨List.cons_ne_nil _ _, ?_, ?_⟩
              · simpa using Ne.symm hb
              · rw [dropWord_terminator_iff.mp hafter]
                rfl
          · obtain ⟨⟨path', rest'⟩, hpath, heq⟩ := Option.map_eq_some_iff.mp h
            obtain ⟨rfl, rfl⟩ := Prod.mk.inj heq
            obtain ⟨-, hline, rfl⟩ := ih hpath
            refine ⟨List.cons_ne_nil _ _, ?_, rfl⟩
            simpa using ⟨Ne.symm hb, hline⟩

/-- Where a path of one line stands before a terminator, one is taken that is
    no longer. -/
theorem takePath_shortest {bytes path : Bytes} (hne : path ≠ [])
    (hline : lineFeed ∉ path) (h : path ++ terminator <+: bytes) :
    ∃ path' rest, takePath bytes = some (path', rest) ∧
      path'.length ≤ path.length := by
  induction bytes generalizing path with
  | nil =>
      have := List.prefix_nil.mp h
      simp [terminator] at this
  | cons b bytes ih =>
      cases path with
      | nil => exact absurd rfl hne
      | cons a path =>
          obtain ⟨rfl, htail⟩ := List.cons_prefix_cons.mp h
          obtain ⟨ha, hline'⟩ : ¬ lineFeed = a ∧ lineFeed ∉ path := by
            simpa using hline
          simp only [takePath, if_neg (Ne.symm ha)]
          cases hdrop : dropWord terminator bytes with
          | some after => exact ⟨[a], after, rfl, Nat.succ_le_succ (Nat.zero_le _)⟩
          | none =>
              -- the path goes on, since its terminator is not here yet
              have hpath : path ≠ [] := by
                rintro rfl
                obtain ⟨after, hafter⟩ := htail
                rw [dropWord_terminator_iff.mpr hafter.symm] at hdrop
                exact nomatch hdrop
              obtain ⟨path', rest, htake, hlen⟩ := ih hpath hline' htail
              exact ⟨a :: path', rest, by rw [htake]; rfl, Nat.succ_le_succ hlen⟩

/-! ## The directive at the front -/

theorem DirectiveKind.length_keyword (kind : DirectiveKind) :
    kind.opening.length = kind.keyword.length + 3 := by
  cases kind <;> rfl

/-- A form is as long as its opening, its path and the terminator. -/
theorem IsForm.length {kind : DirectiveKind} {path form : Bytes}
    (h : IsForm kind path form) :
    form.length = kind.opening.length + path.length + terminator.length := by
  obtain ⟨-, -, keyword, hkeyword, rfl⟩ := h
  have hlen : keyword.length = kind.keyword.length := by
    rw [← hkeyword, List.length_map]
  have hopen := kind.length_keyword
  simp only [List.length_append, List.length_cons, List.length_nil, terminator]
  omega

/-- What is found at the front is a form. -/
theorem occurrenceOf?_sound {kind : DirectiveKind} {bytes : Bytes}
    {o : Occurrence} (h : occurrenceOf? kind bytes = some o) :
    o.kind = kind ∧ ∃ form, IsForm kind o.path form ∧ bytes = form ++ o.rest := by
  simp only [occurrenceOf?, bind, Option.bind_eq_some_iff, pure,
    Option.some.injEq] at h
  obtain ⟨after, hopen, ⟨path, rest⟩, hpath, rfl⟩ := h
  obtain ⟨written, hwritten, rfl⟩ := dropWord_eq_some_iff.mp hopen
  obtain ⟨keyword, hkeyword, rfl⟩ := spells_opening_iff.mp hwritten
  obtain ⟨hne, hline, rfl⟩ := takePath_sound hpath
  refine ⟨rfl, _, ⟨hne, hline, keyword, hkeyword, rfl⟩, ?_⟩
  simp [terminator]

/-- Where a form is in front, one is found whose path is no longer. -/
theorem occurrenceOf?_shortest {kind : DirectiveKind} {bytes path form : Bytes}
    (hform : IsForm kind path form) (h : form <+: bytes) :
    ∃ o, occurrenceOf? kind bytes = some o ∧ o.path.length ≤ path.length := by
  obtain ⟨hne, hline, keyword, hkeyword, rfl⟩ := hform
  obtain ⟨rest, rfl⟩ := h
  have hopen : dropWord kind.opening
      ([0x23] ++ keyword ++ [0x20, 0x22] ++ path ++ [0x22, 0x3B, 0x3B] ++ rest)
      = some (path ++ terminator ++ rest) := by
    refine dropWord_eq_some_iff.mpr
      ⟨[0x23] ++ keyword ++ [0x20, 0x22],
        spells_opening_iff.mpr ⟨keyword, hkeyword, rfl⟩, ?_⟩
    simp [terminator]
  obtain ⟨path', rest', htake, hlen⟩ :=
    takePath_shortest hne hline (List.prefix_append (path ++ terminator) rest)
  refine ⟨⟨kind, path', rest'⟩, ?_, hlen⟩
  simp only [occurrenceOf?, hopen, bind, Option.bind_some, htake, pure]

/-- The first letter of a keyword tells the kind. -/
theorem DirectiveKind.eq_of_keywords {kind kind' : DirectiveKind}
    {keyword keyword' rest rest' : Bytes}
    (hkeyword : keyword.map lowerByte = kind.keyword)
    (hkeyword' : keyword'.map lowerByte = kind'.keyword)
    (heq : keyword ++ rest = keyword' ++ rest') : kind = kind' := by
  have hne : keyword ≠ [] := by
    rintro rfl
    cases kind <;> exact nomatch hkeyword
  have hne' : keyword' ≠ [] := by
    rintro rfl
    cases kind' <;> exact nomatch hkeyword'
  have hfirst : keyword'.head? = keyword.head? := by
    rw [← List.head?_append_of_ne_nil _ hne, heq, List.head?_append_of_ne_nil _ hne']
  have hletter : kind'.keyword.head? = kind.keyword.head? := by
    rw [← hkeyword, ← hkeyword', List.head?_map, List.head?_map, hfirst]
  cases kind <;> cases kind' <;> first | rfl | exact absurd hletter (by decide)

/-- The keyword in front tells the kind. -/
theorem IsForm.kind_unique {kind kind' : DirectiveKind}
    {path path' form form' bytes : Bytes} (hform : IsForm kind path form)
    (hform' : IsForm kind' path' form') (h : form <+: bytes)
    (h' : form' <+: bytes) : kind = kind' := by
  obtain ⟨-, -, keyword, hkeyword, rfl⟩ := hform
  obtain ⟨-, -, keyword', hkeyword', rfl⟩ := hform'
  obtain ⟨rest, rfl⟩ := h
  obtain ⟨rest', heq⟩ := h'
  simp only [List.append_assoc] at heq
  exact DirectiveKind.eq_of_keywords hkeyword hkeyword' (List.append_cancel_left heq.symm)

/-- What is found at the front is a form, and no form there has a shorter
    path. -/
theorem occurrence?_sound {bytes : Bytes} {o : Occurrence}
    (h : occurrence? bytes = some o) :
    ∃ form, IsForm o.kind o.path form ∧ bytes = form ++ o.rest ∧
      ∀ kind' path' form', IsForm kind' path' form' → form' <+: bytes →
        o.path.length ≤ path'.length := by
  have hfound : occurrenceOf? o.kind bytes = some o := by
    simp only [occurrence?, Option.orElse_eq_orElse, Option.orElse_eq_or,
      Option.or_eq_some_iff] at h
    rcases h with h | ⟨-, h⟩
    · rw [(occurrenceOf?_sound h).1]; exact h
    · rw [(occurrenceOf?_sound h).1]; exact h
  obtain ⟨-, form, hform, hbytes⟩ := occurrenceOf?_sound hfound
  refine ⟨form, hform, hbytes, ?_⟩
  intro kind' path' form' hform' h'
  obtain rfl := hform.kind_unique hform' ⟨o.rest, hbytes.symm⟩ h'
  obtain ⟨o', ho', hlen⟩ := occurrenceOf?_shortest hform' h'
  rw [hfound] at ho'
  obtain rfl := Option.some.inj ho'
  exact hlen

/-- Where nothing is found, no form is in front. -/
theorem occurrence?_complete {bytes : Bytes} (h : occurrence? bytes = none)
    {kind : DirectiveKind} {path form : Bytes} (hform : IsForm kind path form) :
    ¬ form <+: bytes := by
  intro hsits
  obtain ⟨o, ho, -⟩ := occurrenceOf?_shortest hform hsits
  simp only [occurrence?, Option.orElse_eq_orElse, Option.orElse_eq_or,
    Option.or_eq_none_iff] at h
  cases kind with
  | inline => exact Option.some_ne_none o (ho.symm.trans h.1)
  | link => exact Option.some_ne_none o (ho.symm.trans h.2)

/-- A form stays on its line. -/
theorem IsForm.lineFeed_not_mem {kind : DirectiveKind} {path form : Bytes}
    (h : IsForm kind path form) : lineFeed ∉ form := by
  obtain ⟨-, hline, keyword, hkeyword, rfl⟩ := h
  have hkey : lineFeed ∉ keyword := by
    intro hmem
    have : lowerByte lineFeed ∈ kind.keyword := by
      rw [← hkeyword]
      exact List.mem_map_of_mem hmem
    cases kind <;> exact absurd this (by decide)
  simp only [List.mem_append, not_or]
  exact ⟨⟨⟨⟨by decide, hkey⟩, by decide⟩, hline⟩, by decide⟩

/-! ## One list of directives

    Both ends of the argument go one span at a time.  The scan adds a span in
    front of a reading (`Reads.cons`) or moves past a byte where no form sits
    (`Reads.skip`); two readings have the same first span, since the start of
    each has to be covered by the other. -/

/-- A directive stands where a form does. -/
theorem StandsIn.formAt {source : Bytes} {d : Directive} (h : StandsIn source d) :
    ∃ path, FormAt source d.start d.kind path := by
  obtain ⟨path, form, hform, hsits, -⟩ := h
  exact ⟨path, form, hform, hsits⟩

/-- The source and the start of a directive tell the rest of it. -/
theorem StandsIn.unique {source : Bytes} {d e : Directive}
    (hd : StandsIn source d) (he : StandsIn source e)
    (hstart : d.start = e.start) : d = e := by
  obtain ⟨path, form, hform, hsits, hstop, hleast, hpath, hline⟩ := hd
  obtain ⟨path', form', hform', hsits', hstop', hleast', hpath', hline'⟩ := he
  rw [← hstart] at hsits' hstop' hleast' hline'
  have hkind : d.kind = e.kind := hform.kind_unique hform' hsits hsits'
  -- neither path is longer, both being shortest at the same start
  have hpathlen : path.length = path'.length :=
    Nat.le_antisymm (hleast _ _ ⟨form', hform', hsits'⟩)
      (hleast' _ _ ⟨form, hform, hsits⟩)
  have hlen : form.length = form'.length := by
    rw [hform.length, hform'.length, hkind, hpathlen]
  have hsame : form = form' :=
    (List.prefix_of_prefix_length_le hsits hsits' hlen.le).eq_of_length hlen
  have hpaths : path = path' := by
    obtain ⟨-, -, keyword, -, rfl⟩ := hform
    obtain ⟨-, -, keyword', -, rfl⟩ := hform'
    have hcut := List.append_inj_left' hsame rfl
    exact List.append_inj_right' hcut hpathlen
  have htext : d.path = e.path := by rw [hpath, hpath', hpaths]
  have hend : d.stop = e.stop := by rw [hstop, hstop', hsame]
  have hlines : d.line = e.line := by rw [hline, hline']
  cases d
  cases e
  simp only [Directive.mk.injEq]
  exact ⟨hkind, htext, hstart, hend, hlines⟩

theorem Reads.nil {source : Bytes} {start : Nat} (h : source.drop start = []) :
    Reads source start [] := by
  refine ⟨.nil, by simp, by simp, ?_⟩
  rintro p kind path hp ⟨form, hform, hsits⟩
  have hend : source.drop p = [] := by
    rw [List.drop_eq_nil_iff] at h ⊢
    exact h.trans hp
  rw [hend, List.prefix_nil] at hsits
  have := hform.length
  simp [hsits, terminator] at this

/-- A byte where no form sits is passed over. -/
theorem Reads.skip {source : Bytes} {start : Nat} {ds : List Directive}
    (hnone : ∀ kind path, ¬ FormAt source start kind path)
    (h : Reads source (start + 1) ds) : Reads source start ds := by
  refine ⟨h.ordered, ?_, h.stands, ?_⟩
  · intro d hd
    obtain ⟨hafter, hspan⟩ := h.inside d hd
    exact ⟨by omega, hspan⟩
  · intro p kind path hp hform
    rcases Nat.eq_or_lt_of_le hp with rfl | hp
    · exact absurd hform (hnone kind path)
    · exact h.complete p kind path hp hform

/-- A directive in front of what is read behind it. -/
theorem Reads.cons {source : Bytes} {d : Directive} {ds : List Directive}
    (hd : StandsIn source d) (h : Reads source d.stop ds) :
    Reads source d.start (d :: ds) := by
  obtain ⟨path, form, hform, hsits, hstop, -⟩ := id hd
  have hpos : 0 < form.length := by
    rw [hform.length]
    simp [terminator]
  have hinside : d.stop ≤ source.length := by
    have := hsits.length_le
    rw [List.length_drop] at this
    omega
  refine ⟨List.pairwise_cons.mpr ⟨fun e he => (h.inside e he).1, h.ordered⟩,
    ?_, ?_, ?_⟩
  · intro e he
    rcases List.mem_cons.mp he with rfl | he
    · exact ⟨le_rfl, by omega, hinside⟩
    · obtain ⟨hafter, hspan⟩ := h.inside e he
      exact ⟨by omega, hspan⟩
  · intro e he
    rcases List.mem_cons.mp he with rfl | he
    · exact hd
    · exact h.stands e he
  · intro p kind path hp hform
    by_cases hin : p < d.stop
    · exact ⟨d, List.mem_cons_self, hp, hin⟩
    · obtain ⟨e, he, hcover⟩ := h.complete p kind path (by omega) hform
      exact ⟨e, List.mem_cons_of_mem _ he, hcover⟩

/-- Behind its first directive a reading goes on as one. -/
theorem Reads.tail {source : Bytes} {start : Nat} {d : Directive}
    {ds : List Directive} (h : Reads source start (d :: ds)) :
    Reads source d.stop ds := by
  obtain ⟨hafter, hordered⟩ := List.pairwise_cons.mp h.ordered
  refine ⟨hordered, ?_, ?_, ?_⟩
  · intro e he
    exact ⟨hafter e he, (h.inside e (List.mem_cons_of_mem _ he)).2⟩
  · intro e he
    exact h.stands e (List.mem_cons_of_mem _ he)
  · intro p kind path hp hform
    have hfirst := h.inside d List.mem_cons_self
    obtain ⟨e, he, hcover⟩ := h.complete p kind path (by omega) hform
    rcases List.mem_cons.mp he with rfl | he
    · omega
    · exact ⟨e, he, hcover⟩

/-- The first directive starts no later than any form. -/
theorem Reads.start_le {source : Bytes} {start p : Nat} {kind : DirectiveKind}
    {path : Bytes} {d : Directive} {ds : List Directive}
    (h : Reads source start (d :: ds)) (hp : start ≤ p)
    (hform : FormAt source p kind path) : d.start ≤ p := by
  obtain ⟨e, he, hle, -⟩ := h.complete p kind path hp hform
  rcases List.mem_cons.mp he with rfl | he
  · exact hle
  · have hafter := (List.pairwise_cons.mp h.ordered).1 e he
    have hspan := (h.inside d List.mem_cons_self).2.1
    omega

/-- A directive that starts before another ends before it. -/
theorem Reads.stop_le {source : Bytes} {start : Nat} {d e : Directive}
    {ds : List Directive} (h : Reads source start ds) (hd : d ∈ ds) (he : e ∈ ds)
    (hlt : e.start < d.start) : e.stop ≤ d.start := by
  induction ds generalizing start with
  | nil => exact nomatch hd
  | cons first ds ih =>
      have hafter := (List.pairwise_cons.mp h.ordered).1
      rcases List.mem_cons.mp he with rfl | he'
      · rcases List.mem_cons.mp hd with rfl | hd'
        · exact absurd hlt (lt_irrefl _)
        · exact hafter d hd'
      · rcases List.mem_cons.mp hd with rfl | hd'
        · have hspan := (h.inside d hd).2.1
          have := hafter e he'
          omega
        · exact ih h.tail hd' he'

/-- **ONE READING**: at most one list reads a source. -/
theorem Reads.unique {source : Bytes} {start : Nat} {ds es : List Directive}
    (hds : Reads source start ds) (hes : Reads source start es) : ds = es := by
  induction ds generalizing start es with
  | nil =>
      cases es with
      | nil => rfl
      | cons e es =>
          obtain ⟨path, hform⟩ := (hes.stands e List.mem_cons_self).formAt
          obtain ⟨d, hd, -⟩ :=
            hds.complete _ _ _ (hes.inside e List.mem_cons_self).1 hform
          exact nomatch hd
  | cons d ds ih =>
      obtain ⟨path, hform⟩ := (hds.stands d List.mem_cons_self).formAt
      have hd := (hds.inside d List.mem_cons_self).1
      cases es with
      | nil =>
          obtain ⟨e, he, -⟩ := hes.complete _ _ _ hd hform
          exact nomatch he
      | cons e es =>
          obtain ⟨path', hform'⟩ := (hes.stands e List.mem_cons_self).formAt
          have he := (hes.inside e List.mem_cons_self).1
          -- the start of each has to be covered by the other reading
          have hstart : d.start = e.start :=
            Nat.le_antisymm (hds.start_le he hform') (hes.start_le hd hform)
          obtain rfl : d = e := (hds.stands d List.mem_cons_self).unique
            (hes.stands e List.mem_cons_self) hstart
          rw [ih hds.tail hes.tail]

/-! ## The scan reads -/

/-- What the scan finds at the front stands in the source. -/
theorem standsIn_of_occurrence? {source bytes : Bytes} {start line : Nat}
    {o : Occurrence} (hbytes : source.drop start = bytes)
    (hline : line = 1 + (source.take start).count lineFeed)
    (h : occurrence? bytes = some o) :
    StandsIn source ⟨o.kind, Utf8.decodeLossy o.path, start, start + o.length, line⟩ := by
  obtain ⟨form, hform, hfront, hleast⟩ := occurrence?_sound h
  refine ⟨o.path, form, hform, ?_, ?_, ?_, rfl, hline⟩
  · exact ⟨o.rest, by rw [hbytes, hfront]⟩
  · show start + o.length = start + form.length
    rw [hform.length]
    rfl
  · rintro kind' path' ⟨form', hform', hsits'⟩
    exact hleast kind' path' form' hform' (hbytes ▸ hsits')

/-- A directive and what is scanned behind it are cut off the source without
    passing a line. -/
theorem drop_of_occurrence? {source bytes : Bytes} {start : Nat} {o : Occurrence}
    (hbytes : source.drop start = bytes) (h : occurrence? bytes = some o) :
    source.drop (start + o.length) = o.rest ∧
      (source.take (start + o.length)).count lineFeed
        = (source.take start).count lineFeed := by
  obtain ⟨form, hform, hfront, -⟩ := occurrence?_sound h
  have hlen : o.length = form.length := hform.length.symm
  have hcut : source.drop start = form ++ o.rest := by rw [hbytes, hfront]
  constructor
  · rw [← List.drop_drop, hcut, hlen, List.drop_left]
  · rw [List.take_add, hcut, hlen, List.take_left, List.count_append,
      List.count_eq_zero.mpr hform.lineFeed_not_mem, Nat.add_zero]

/-- One step of the scan keeps what its line number counts. -/
theorem count_take_succ {source rest : Bytes} {start : Nat} {b : UInt8}
    (h : source.drop start = b :: rest) :
    1 + (source.take (start + 1)).count lineFeed
      = if b = lineFeed then 1 + (source.take start).count lineFeed + 1
        else 1 + (source.take start).count lineFeed := by
  rw [List.take_add, h, List.count_append]
  by_cases hb : b = lineFeed
  · rw [if_pos hb, hb]
    rfl
  · rw [if_neg hb]
    simp [hb]

/-- **THE SCAN READS** what is left of a source, whatever it stands at. -/
theorem reads_scanFrom {source bytes : Bytes} {start line : Nat}
    (hbytes : source.drop start = bytes)
    (hline : line = 1 + (source.take start).count lineFeed) :
    Reads source start (scanFrom start line bytes) := by
  induction start, line, bytes using scanFrom.induct with
  | case1 start line bytes o h ih =>
      obtain ⟨hrest, hcount⟩ := drop_of_occurrence? hbytes h
      rw [scanFrom.eq_def]
      split
      · next o' h' =>
          obtain rfl : o = o' := Option.some.inj (h.symm.trans h')
          exact Reads.cons (standsIn_of_occurrence? hbytes hline h)
            (ih hrest (by rw [hline, hcount]))
      · next h' => exact nomatch h.symm.trans h'
  | case2 start line h =>
      rw [scanFrom.eq_def]
      split
      · next h' => exact nomatch h.symm.trans h'
      · exact Reads.nil hbytes
  | case3 start line b rest h ih =>
      rw [scanFrom.eq_def]
      split
      · next h' => exact nomatch h.symm.trans h'
      · refine Reads.skip ?_ (ih ?_ ?_)
        · rintro kind path ⟨form, hform, hsits⟩
          exact occurrence?_complete h hform (hbytes ▸ hsits)
        · rw [← List.drop_drop, hbytes]
          rfl
        · rw [count_take_succ hbytes, hline, dite_eq_ite]

/-- Scanning reads a source from its start. -/
theorem reads_scan (source : Bytes) : Reads source 0 (scan source) :=
  reads_scanFrom rfl rfl

/-- **THE SCAN IS THE READING**: for every byte string, well-formed text or
    not, `scan` gives the one list of ordered spans that are shortest forms and
    miss none. -/
theorem reads_iff_eq_scan (source : Bytes) (ds : List Directive) :
    Reads source 0 ds ↔ ds = scan source := by
  constructor
  · intro h
    exact h.unique (reads_scan source)
  · rintro rfl
    exact reads_scan source

/-- An opening without an end of its own takes a later directive into its path. -/
example : scan (Utf8.encode "#use \"a #load \"b\";;")
    = [⟨.inline, "a #load \"b", 0, 19, 1⟩] := by
  decide +kernel

end SourceBundle
