import SourceBundle.Proofs.DirectiveForms

/-! # Terminators — where a directive ends

    A directive is an opening, a path, and a terminator (`formAt_iff`).  Its path
    is the shortest there, so no terminator stands between the first byte of the
    path and the last three bytes of the directive (`terminator_ends`).

    The first byte itself is not looked at.  An opening that is closed at once is
    no directive, but where another terminator follows on its line it becomes one,
    and everything up to there is its path (`terminators_of_scan`). -/

namespace SourceBundle

variable {source : Bytes} {p q : Nat} {kind : DirectiveKind}

/-! ## Openings and terminators -/

/-- A terminator stands at byte `q` of a source. -/
def TerminatorAt (source : Bytes) (q : Nat) : Prop :=
  terminator <+: source.drop q

instance (source : Bytes) (q : Nat) : Decidable (TerminatorAt source q) :=
  inferInstanceAs (Decidable (_ <+: _))

/-- The opening of a directive stands at byte `p`: `#`, the keyword, one space and
    a quote. -/
def OpensAt (source : Bytes) (p : Nat) (kind : DirectiveKind) : Prop :=
  ∃ keyword : Bytes, keyword.map lowerByte = kind.keyword ∧
    [0x23] ++ keyword ++ [0x20, 0x22] <+: source.drop p

/-- An opening stands at byte `p` and is closed at once, with no path. -/
def OpensEmpty (source : Bytes) (p : Nat) (kind : DirectiveKind) : Prop :=
  OpensAt source p kind ∧ TerminatorAt source (p + kind.opening.length)

/-- The byte a directive's path begins at. -/
def Directive.pathStart (d : Directive) : Nat := d.start + d.kind.opening.length

/-- The bytes of a source where a directive has its path. -/
def Directive.pathIn (d : Directive) (source : Bytes) : Bytes :=
  (source.drop d.pathStart).take (d.stop - terminator.length - d.pathStart)

/-- The path of a directive is what stands between its quotes. -/
theorem Directive.pathIn_eq {d : Directive} {source path : Bytes}
    (hsits : path ++ terminator <+: source.drop d.pathStart)
    (hstop : d.stop = d.pathStart + path.length + terminator.length) :
    d.pathIn source = path := by
  obtain ⟨rest, hrest⟩ := hsits
  rw [Directive.pathIn, hstop, Nat.add_sub_cancel, Nat.add_sub_cancel_left, ← hrest,
    List.append_assoc, List.take_left]

/-- Openings are equally long in every letter case. -/
theorem length_opening {keyword : Bytes} (h : keyword.map lowerByte = kind.keyword) :
    ([0x23] ++ keyword ++ [0x20, 0x22]).length = kind.opening.length := by
  have hlen : keyword.length = kind.keyword.length := by
    rw [← h, List.length_map]
  rw [kind.length_keyword, ← hlen]
  simp

/-- The bytes at an opening: its own, and what stands behind its quote. -/
theorem OpensAt.drop_eq (h : OpensAt source p kind) :
    ∃ keyword : Bytes, keyword.map lowerByte = kind.keyword ∧
      source.drop p = [0x23] ++ keyword ++ [0x20, 0x22]
        ++ source.drop (p + kind.opening.length) := by
  obtain ⟨keyword, hkeyword, behind, hbehind⟩ := h
  refine ⟨keyword, hkeyword, ?_⟩
  rw [← List.drop_drop, ← hbehind, ← length_opening hkeyword, List.drop_left]

/-- **A FORM** is an opening, and behind it a path of one line and a terminator. -/
theorem formAt_iff {path : Bytes} :
    FormAt source p kind path ↔
      OpensAt source p kind ∧ path ≠ [] ∧ lineFeed ∉ path ∧
        path ++ terminator <+: source.drop (p + kind.opening.length) := by
  constructor
  · rintro ⟨form, ⟨hne, hline, keyword, hkeyword, rfl⟩, rest, hrest⟩
    have hcut : source.drop p
        = [0x23] ++ keyword ++ [0x20, 0x22] ++ (path ++ terminator ++ rest) := by
      rw [← hrest]
      simp [terminator]
    refine ⟨⟨keyword, hkeyword, _, hcut.symm⟩, hne, hline, rest, ?_⟩
    rw [← List.drop_drop, hcut, List.drop_left' (length_opening hkeyword)]
  · rintro ⟨hopen, hne, hline, rest, hrest⟩
    obtain ⟨keyword, hkeyword, hdrop⟩ := hopen.drop_eq
    refine ⟨_, ⟨hne, hline, keyword, hkeyword, rfl⟩, rest, ?_⟩
    rw [hdrop, ← hrest]
    simp [terminator]

/-- Where a terminator stands behind an opening, on its line and with something in
    between, there is a form. -/
theorem formAt_of_terminatorAt {n : Nat} (hopen : OpensAt source p kind) (hn : 0 < n)
    (hline : lineFeed ∉ (source.drop (p + kind.opening.length)).take n)
    (h : TerminatorAt source (p + kind.opening.length + n)) :
    FormAt source p kind ((source.drop (p + kind.opening.length)).take n) := by
  unfold TerminatorAt at h
  rw [← List.drop_drop] at h
  refine formAt_iff.mpr ⟨hopen, ?_, hline, ?_⟩
  · intro hnone
    rcases List.take_eq_nil_iff.mp hnone with rfl | hnil
    · exact absurd hn (lt_irrefl 0)
    · -- past the end of the source nothing stands
      rw [hnil, List.drop_nil] at h
      cases List.prefix_nil.mp h
  · obtain ⟨rest, hrest⟩ := h
    refine ⟨rest, ?_⟩
    rw [List.append_assoc, hrest, List.take_append_drop]

/-- Of the bytes of an opening only its quote can begin a terminator, and does if
    two semicolons follow. -/
theorem terminatorAt_opening_iff (hopen : OpensAt source p kind) (hp : p ≤ q)
    (hq : q < p + kind.opening.length) :
    TerminatorAt source q ↔ q + 1 = p + kind.opening.length ∧
      [0x3B, 0x3B] <+: source.drop (p + kind.opening.length) := by
  obtain ⟨keyword, hkeyword, hdrop⟩ := hopen.drop_eq
  have hlen := length_opening hkeyword
  obtain ⟨n, rfl⟩ := Nat.exists_eq_add_of_le hp
  generalize source.drop (p + kind.opening.length) = behind at hdrop ⊢
  -- the bytes in front of the quote
  obtain ⟨front, hfront⟩ : ∃ front : Bytes, front = [0x23] ++ keyword ++ [0x20] := ⟨_, rfl⟩
  have hquoted : source.drop p = front ++ 0x22 :: behind := by
    rw [hdrop, hfront]
    simp
  have hlength : front.length + 1 = kind.opening.length := by
    rw [← hlen, hfront]
    simp
  have hquote : (0x22 : UInt8) ∉ front := by
    have hkey : (0x22 : UInt8) ∉ keyword := by
      intro hmem
      have : lowerByte 0x22 ∈ kind.keyword := by
        rw [← hkeyword]
        exact List.mem_map_of_mem hmem
      cases kind <;> exact absurd this (by decide)
    rw [hfront]
    simpa using hkey
  unfold TerminatorAt
  rw [← List.drop_drop, hquoted]
  rcases Nat.lt_or_ge n front.length with hn | hn
  · -- a terminator here would put a quote in front of the quote
    constructor
    · intro h
      rw [List.drop_append_of_le_length hn.le, List.drop_eq_getElem_cons hn] at h
      have hhead := (List.cons_prefix_cons.mp h).1
      exact absurd (hhead ▸ List.getElem_mem hn) hquote
    · rintro ⟨hend, -⟩
      omega
  · obtain rfl : n = front.length := by omega
    rw [List.drop_left]
    constructor
    · intro h
      exact ⟨by omega, (List.cons_prefix_cons.mp h).2⟩
    · rintro ⟨-, h⟩
      exact List.cons_prefix_cons.mpr ⟨rfl, h⟩

/-! ## The terminators in a directive -/

/-- A directive of a source and the bytes of its path. -/
structure HasPath (source : Bytes) (d : Directive) (path : Bytes) : Prop where
  opens : OpensAt source d.start d.kind
  nonempty : path ≠ []
  line : lineFeed ∉ path
  sits : path ++ terminator <+: source.drop d.pathStart
  stop : d.stop = d.pathStart + path.length + terminator.length
  text : d.path = Utf8.decodeLossy path
  /-- Behind the first byte of the path no terminator stands before its end. -/
  inner : ∀ q, d.pathStart < q → q < d.pathStart + path.length → ¬ TerminatorAt source q

/-- **THE FIRST TERMINATOR** behind the first byte of a path ends the directive. -/
theorem hasPath_of_mem_scan {d : Directive} (hd : d ∈ scan source) :
    ∃ path, HasPath source d path := by
  obtain ⟨path, form, hform, hsits, hstop, hleast, htext, -⟩ :=
    (reads_scan source).stands d hd
  obtain ⟨hopen, hne, hline, hpath⟩ := formAt_iff.mp ⟨form, hform, hsits⟩
  refine ⟨path, hopen, hne, hline, hpath, ?_, htext, ?_⟩
  · rw [hstop, hform.length, Directive.pathStart]
    omega
  · -- one in between would make a form with a shorter path
    intro q hq hqstop hat
    obtain ⟨n, rfl⟩ := Nat.exists_eq_add_of_le hq.le
    have hn : 0 < n := by omega
    have htake : (source.drop d.pathStart).take n = path.take n := by
      obtain ⟨rest, hrest⟩ := hpath
      rw [Directive.pathStart, ← hrest, List.append_assoc,
        List.take_append_of_le_length (by omega)]
    have hline' : lineFeed ∉ (source.drop d.pathStart).take n := by
      rw [htake]
      exact fun hmem => hline (List.mem_of_mem_take hmem)
    have hle := hleast _ _ (formAt_of_terminatorAt hopen hn hline' hat)
    rw [List.length_take] at hle
    omega

/-- A directive that was found has its path. -/
theorem hasPath_pathIn {d : Directive} (hd : d ∈ scan source) :
    HasPath source d (d.pathIn source) := by
  obtain ⟨path, hpath⟩ := hasPath_of_mem_scan hd
  rwa [Directive.pathIn_eq hpath.sits hpath.stop]

theorem HasPath.formAt {d : Directive} {path : Bytes} (h : HasPath source d path) :
    FormAt source d.start d.kind path :=
  formAt_iff.mpr ⟨h.opens, h.nonempty, h.line, h.sits⟩

/-- The terminator stands right behind the path. -/
theorem HasPath.terminatorAt_end {d : Directive} {path : Bytes}
    (h : HasPath source d path) : TerminatorAt source (d.pathStart + path.length) := by
  obtain ⟨rest, hrest⟩ := h.sits
  refine ⟨rest, ?_⟩
  rw [← List.drop_drop, ← hrest, List.append_assoc, List.drop_left]

/-- In a directive a terminator stands at the end, and besides there only at the two
    places where the scan does not look for one: at the first byte of the path, and
    at the quote before it. -/
theorem HasPath.terminatorAt_iff {d : Directive} {path : Bytes}
    (h : HasPath source d path) (hq : d.start ≤ q)
    (hstop : q + terminator.length ≤ d.stop) :
    TerminatorAt source q ↔
      q + terminator.length = d.stop ∨
      (q = d.pathStart ∧ OpensEmpty source d.start d.kind) ∨
      (q + 1 = d.pathStart ∧ [0x3B, 0x3B] <+: source.drop d.pathStart) := by
  have hend := h.stop
  have hpos := List.length_pos_iff.mpr h.nonempty
  rcases Nat.lt_trichotomy q d.pathStart with hlt | rfl | hgt
  · rw [terminatorAt_opening_iff h.opens hq hlt]
    constructor
    · intro hquote
      exact .inr (.inr hquote)
    · rintro (hlast | ⟨rfl, -⟩ | hquote)
      · omega
      · exact absurd hlt (lt_irrefl _)
      · exact hquote
  · constructor
    · intro hat
      exact .inr (.inl ⟨rfl, h.opens, hat⟩)
    · rintro (hlast | ⟨-, -, hat⟩ | ⟨hquote, -⟩)
      · omega
      · exact hat
      · omega
  · constructor
    · intro hat
      refine .inl ?_
      by_contra hlast
      exact h.inner q hgt (by omega) hat
    · rintro (hlast | ⟨rfl, -⟩ | ⟨hquote, -⟩)
      · obtain rfl : q = d.pathStart + path.length := by omega
        exact h.terminatorAt_end
      · exact absurd hgt (lt_irrefl _)
      · omega

/-- Only a path that begins with a terminator contains one. -/
theorem HasPath.terminator_infix_iff {d : Directive} {path : Bytes}
    (h : HasPath source d path) :
    terminator <:+: path ↔ OpensEmpty source d.start d.kind := by
  constructor
  · rintro ⟨front, back, rfl⟩
    obtain ⟨rest, hrest⟩ := h.sits
    have hat : TerminatorAt source (d.pathStart + front.length) := by
      refine ⟨back ++ terminator ++ rest, ?_⟩
      rw [← List.drop_drop, ← hrest]
      simp
    rcases Nat.eq_zero_or_pos front.length with hfront | hfront
    · rw [hfront] at hat
      exact ⟨h.opens, hat⟩
    · refine absurd hat (h.inner _ (by omega) ?_)
      simp only [List.length_append, terminator, List.length_cons, List.length_nil]
      omega
  · rintro ⟨-, hat⟩
    have hpath : terminator <+: path ++ terminator :=
      List.prefix_of_prefix_length_le hat h.sits (by simp)
    by_cases hlen : terminator.length ≤ path.length
    · have hfront : terminator <+: path :=
        List.prefix_of_prefix_length_le hpath (List.prefix_append _ _) hlen
      exact hfront.isInfix
    · -- a shorter one would be over before the semicolons of its terminator
      have hne := h.nonempty
      rcases path with _ | ⟨a, _ | ⟨b, _ | ⟨c, path⟩⟩⟩
      · exact absurd rfl hne
      · simp [terminator] at hpath
      · simp [terminator] at hpath
      · simp [terminator] at hlen

/-! ## Openings that are closed at once -/

/-- The letter behind `#` tells the kind. -/
theorem OpensAt.kind_unique {kind' : DirectiveKind} (h : OpensAt source p kind)
    (h' : OpensAt source p kind') : kind = kind' := by
  obtain ⟨keyword, hkeyword, hdrop⟩ := h.drop_eq
  obtain ⟨keyword', hkeyword', hdrop'⟩ := h'.drop_eq
  rw [hdrop] at hdrop'
  simp only [List.append_assoc] at hdrop'
  exact DirectiveKind.eq_of_keywords hkeyword hkeyword' (List.append_cancel_left hdrop')

/-- **EMPTY OPENINGS**: an opening that is closed at once begins a directive exactly
    if it stands in no earlier one and another terminator follows on its line. -/
theorem OpensEmpty.starts_iff (h : OpensEmpty source p kind) :
    (∃ d ∈ scan source, d.start = p) ↔
      (∀ d ∈ scan source, d.start < p → d.stop ≤ p) ∧
      ∃ q, p + kind.opening.length < q ∧ TerminatorAt source q ∧
        lineFeed ∉ (source.drop (p + kind.opening.length)).take
          (q - (p + kind.opening.length)) := by
  have hreads := reads_scan source
  constructor
  · rintro ⟨d, hd, rfl⟩
    obtain ⟨path, hpath⟩ := hasPath_of_mem_scan hd
    obtain rfl := h.1.kind_unique hpath.opens
    refine ⟨?_, d.pathStart + path.length, ?_, hpath.terminatorAt_end, ?_⟩
    · intro e he hlt
      exact hreads.stop_le hd he hlt
    · have := List.length_pos_iff.mpr hpath.nonempty
      show d.pathStart < _
      omega
    · show lineFeed ∉ (source.drop d.pathStart).take (d.pathStart + path.length - d.pathStart)
      obtain ⟨rest, hrest⟩ := hpath.sits
      rw [← hrest, Nat.add_sub_cancel_left, List.append_assoc, List.take_left]
      exact hpath.line
  · rintro ⟨hfree, q, hq, hat, hline⟩
    obtain ⟨n, rfl⟩ := Nat.exists_eq_add_of_le hq.le
    rw [Nat.add_sub_cancel_left] at hline
    have hform := formAt_of_terminatorAt h.1 (by omega) hline hat
    obtain ⟨d, hd, hle, hlt⟩ := hreads.complete p kind _ (Nat.zero_le p) hform
    refine ⟨d, hd, Nat.le_antisymm hle (Nat.le_of_not_lt ?_)⟩
    intro hbefore
    have := hfree d hd hbefore
    omega

/-- **TERMINATORS**: a directive ends at the first terminator behind the first byte of
    its path.  Before that one its span can only have a terminator where the scan does
    not look for any: at the first byte of the path, so that the path begins with it,
    and at the quote before the path, if two semicolons follow.

    The first of these is an opening that is closed at once.  It begins a directive,
    which takes what follows into its path, exactly if it stands in no earlier
    directive and another terminator follows on its line. -/
theorem terminators_of_scan (source : Bytes) :
    (∀ d ∈ scan source, ∃ path,
      FormAt source d.start d.kind path ∧ d.path = Utf8.decodeLossy path ∧
      d.stop = d.pathStart + path.length + terminator.length ∧
      (∀ q, d.start ≤ q → q + terminator.length ≤ d.stop →
        (TerminatorAt source q ↔
          q + terminator.length = d.stop ∨
          (q = d.pathStart ∧ OpensEmpty source d.start d.kind) ∨
          (q + 1 = d.pathStart ∧ [0x3B, 0x3B] <+: source.drop d.pathStart))) ∧
      (terminator <:+: path ↔ OpensEmpty source d.start d.kind)) ∧
    ∀ p kind, OpensEmpty source p kind →
      ((∃ d ∈ scan source, d.start = p) ↔
        (∀ d ∈ scan source, d.start < p → d.stop ≤ p) ∧
        ∃ q, p + kind.opening.length < q ∧ TerminatorAt source q ∧
          lineFeed ∉ (source.drop (p + kind.opening.length)).take
            (q - (p + kind.opening.length))) := by
  constructor
  · intro d hd
    obtain ⟨path, h⟩ := hasPath_of_mem_scan hd
    exact ⟨path, h.formAt, h.text, h.stop, fun q => h.terminatorAt_iff,
      h.terminator_infix_iff⟩
  · intro p kind h
    exact h.starts_iff

/-- An opening that is closed at once, and a directive on the next line. -/
def closedBefore : Bytes := Utf8.encode "#use \"\";;\n#use \"b\";;"

/-- On a line of its own the opening begins nothing, and the directive ends at the only
    terminator it has. -/
theorem terminators_of_closedBefore :
    (⟨.inline, "b", 10, 20, 2⟩ : Directive) ∈ scan closedBefore ∧
    (∀ q, 10 ≤ q → q + terminator.length ≤ 20 → TerminatorAt closedBefore q →
      q + terminator.length = 20) ∧
    OpensEmpty closedBefore 0 .inline ∧ ¬ ∃ d ∈ scan closedBefore, d.start = 0 := by
  have hd : (⟨.inline, "b", 10, 20, 2⟩ : Directive) ∈ scan closedBefore := by
    decide +kernel
  have hempty : OpensEmpty closedBefore 0 .inline :=
    ⟨⟨Utf8.encode "use", by decide +kernel, by decide +kernel⟩, by decide +kernel⟩
  have hfeed : ∀ q ≤ 20, 6 < q → TerminatorAt closedBefore q →
      lineFeed ∈ (closedBefore.drop 6).take (q - 6) := by
    decide +kernel
  obtain ⟨hends, hopenings⟩ := terminators_of_scan closedBefore
  refine ⟨hd, ?_, hempty, ?_⟩
  · intro q hq hstop hat
    obtain ⟨path, -, -, -, hiff, -⟩ := hends _ hd
    rcases (hiff q hq hstop).mp hat with hend | ⟨-, -, hquote⟩ | ⟨-, hsemicolons⟩
    · exact hend
    · exact absurd hquote (by decide +kernel)
    · exact absurd hsemicolons (by decide +kernel)
  · intro hstarts
    obtain ⟨-, q, hq, hat, hline⟩ := (hopenings 0 .inline hempty).mp hstarts
    have hle : q ≤ 20 := by
      have hlen := hat.length_le
      have hsource : closedBefore.length = 20 := by decide +kernel
      rw [List.length_drop, hsource, terminator] at hlen
      simp only [List.length_cons, List.length_nil] at hlen
      omega
    exact hline (hfeed q hle hq hat)

/-- An opening that is closed at once, and a directive behind it on its line. -/
def closedAtOnce : Bytes := Utf8.encode "#use \"\";; #use \"b\";;"

/-- The directive behind the opening is not found: it is part of a path that runs from
    the terminator of the one to the terminator of the other. -/
theorem closedAtOnce_swallows : ∃ d ∈ scan closedAtOnce,
    OpensEmpty closedAtOnce d.start d.kind ∧ d.path = "\";; #use \"b" ∧
    (∃ q, d.start ≤ q ∧ q + terminator.length < d.stop ∧ TerminatorAt closedAtOnce q) ∧
    (∃ path, FormAt closedAtOnce 10 .inline path) ∧
    ∀ e ∈ scan closedAtOnce, e.start ≠ 10 := by
  have hscan : scan closedAtOnce = [⟨.inline, "\";; #use \"b", 0, 20, 1⟩] := by
    decide +kernel
  have hkeyword : (Utf8.encode "use").map lowerByte = DirectiveKind.inline.keyword := by
    decide +kernel
  refine ⟨⟨.inline, "\";; #use \"b", 0, 20, 1⟩, by rw [hscan]; exact List.mem_cons_self,
    ⟨⟨_, hkeyword, by decide +kernel⟩, by decide +kernel⟩, rfl,
    ⟨6, by decide +kernel⟩, ⟨Utf8.encode "b", formAt_iff.mpr ⟨⟨_, hkeyword, ?_⟩, ?_⟩⟩, ?_⟩
  · decide +kernel
  · decide +kernel
  · rw [hscan]
    decide +kernel

end SourceBundle
