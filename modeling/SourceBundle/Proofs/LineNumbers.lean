import SourceBundle.Proofs.Encoding
import SourceBundle.Proofs.SinglePass

/-! # Line numbers — the line feeds in front

    The line of a directive is told by the line feeds in front of it.  They need not
    be counted anew for each: `countLines?` goes from start to start and counts on,
    slicing the source between, and comes to the lines of a scan without a slice out
    of range (`countLines?_scan`).

    Only line feeds count.  A directive holds none, so it is the same whether one
    counts on from its start or from its end, and text without one may be written
    over other such text (`count_take_rewritten`).  Nor does it matter what is
    well-formed: each line feed is a character of its own, and no fault takes one in
    (`Utf8.count_decodeLossy`). -/

namespace SourceBundle

/-! ## Line feeds of a text -/

namespace Utf8

/-- Bytes that follow a lead are no line feeds. -/
theorem low_of_lead {b : UInt8} {lead : Lead} (h : Lead.of? b = some lead) :
    0x80 ≤ lead.low.toNat := by
  rw [lead_of?_eq] at h
  split_ifs at h <;> obtain rfl := Option.some.inj h <;> simp

/-- Following bytes are no line feeds, also where they break off. -/
theorem count_following {n : Nat} {low high : UInt8} {value : Nat} (bytes : Bytes)
    (hlow : 0x80 ≤ low.toNat) :
    (following n low high value bytes).2.count lineFeed = bytes.count lineFeed := by
  induction n generalizing low high value bytes with
  | zero => rfl
  | succ n ih =>
      cases bytes with
      | nil => rfl
      | cons b bytes =>
          rw [following]
          by_cases hb : (low ≤ b && b ≤ high) = true
          · have hne : b ≠ lineFeed := by
              rintro rfl
              have hle := UInt8.le_iff_toNat_le.mp
                (of_decide_eq_true (Bool.and_eq_true_iff.mp hb).1)
              exact absurd (hlow.trans hle) (by decide)
            rw [if_pos hb, ih bytes (by decide), List.count_cons_of_ne hne]
          · rw [if_neg hb]

/-- Behind a character or a fault all later line feeds are left. -/
theorem count_next (b : UInt8) (rest : Bytes) :
    (next b rest).2.count lineFeed = rest.count lineFeed := by
  rw [next]
  by_cases hb : b < 0x80
  · rw [if_pos hb]
  · rw [if_neg hb]
    cases hlead : Lead.of? b with
    | none => rfl
    | some lead => exact count_following rest (low_of_lead hlead)

/-- A line feed is read exactly where the byte is one. -/
theorem next_eq_lineFeed_iff (b : UInt8) (rest : Bytes) :
    (next b rest).1.getD '\uFFFD' = '\n' ↔ b = lineFeed := by
  constructor
  · intro h
    rcases hnext : next b rest with ⟨c?, tail⟩
    rw [hnext] at h
    cases c? with
    | none =>
        have hfault : ('\uFFFD' : Char) = '\n' := h
        exact absurd hfault (by decide)
    | some c =>
        obtain rfl : c = '\n' := h
        exact (List.cons.inj (next_eq_some_iff.mp hnext)).1
  · rintro rfl
    rfl

/-- **LINE FEEDS ARE KEPT**: any bytes have as many as their text. -/
theorem count_decodeLossy (bytes : Bytes) :
    (decodeLossy bytes).toList.count '\n' = bytes.count lineFeed := by
  rw [decodeLossy, String.toList_ofList]
  induction bytes using scalars.induct with
  | case1 =>
      rw [scalars]
      rfl
  | case2 b rest ih =>
      rw [scalars, List.map_cons, List.count_cons, ih, count_next, List.count_cons]
      simp only [beq_iff_eq, next_eq_lineFeed_iff]

end Utf8

/-! ## Places of a source -/

variable {source : Bytes} {p q : Nat}

/-- The bytes from one place of a source up to another. -/
def stretch (source : Bytes) (p q : Nat) : Bytes := (source.take q).drop p

/-- The source with other bytes in this stretch. -/
def rewritten (source : Bytes) (p q : Nat) (bytes : Bytes) : Bytes :=
  source.take p ++ bytes ++ source.drop q

/-- A slice in range is the stretch between its ends. -/
theorem slice?_eq_stretch (hpq : p ≤ q) (hq : q ≤ source.length) :
    slice? source p q = some (stretch source p q) :=
  if_pos ⟨hpq, hq⟩

/-- From one place to a later one the line feeds between them come in addition. -/
theorem count_take_of_le (hpq : p ≤ q) :
    (source.take q).count lineFeed
      = (source.take p).count lineFeed + (stretch source p q).count lineFeed := by
  rw [← List.count_append]
  refine congrArg (List.count lineFeed) ?_
  have hfront : (source.take q).take p = source.take p := by
    rw [List.take_take, Nat.min_eq_left hpq]
  rw [stretch, ← hfront, List.take_append_drop]

/-- Text without a line feed is written over text without one: a place behind it is
    moved, and has as many line feeds in front of it as before. -/
theorem count_take_rewritten {bytes : Bytes} {k k' : Nat} (hpq : p ≤ q)
    (hold : lineFeed ∉ stretch source p q) (hnew : lineFeed ∉ bytes) (hqk : q ≤ k)
    (hk : k ≤ source.length) (hmoved : k' + (q - p) = k + bytes.length) :
    ((rewritten source p q bytes).take k').count lineFeed
      = (source.take k).count lineFeed := by
  have hlen : (source.take p ++ bytes).length = p + bytes.length := by
    rw [List.length_append, List.length_take_of_le (hpq.trans (hqk.trans hk))]
  have hfront : k' = (source.take p ++ bytes).length + (k - q) := by omega
  have hback : (source.drop q).take (k - q) = stretch source q k := by
    rw [stretch, List.drop_take]
  rw [rewritten, hfront, List.take_length_add_append, hback, List.count_append,
    List.count_append, List.count_eq_zero.mpr hnew, count_take_of_le hqk,
    count_take_of_le hpq, List.count_eq_zero.mpr hold]

/-! ## Counting on -/

/-- The lines of ascending places, each counted on from the one before; nothing if
    the bytes between two of them cannot be sliced. -/
def countLines? (source : Bytes) (countedTo line : Nat) :
    (places : List Nat) → Option (List Nat)
  | [] => some []
  | place :: places => do
      let passed ← slice? source countedTo place
      let here := line + passed.count lineFeed
      let rest ← countLines? source place here places
      return here :: rest

/-- **COUNTING ON** gives each place the line that counting from the front gives it. -/
theorem countLines?_of_ascending {countedTo line : Nat} {places : List Nat}
    (hline : line = 1 + (source.take countedTo).count lineFeed)
    (hascending : (countedTo :: places).Pairwise (· ≤ ·))
    (hinside : ∀ place ∈ places, place ≤ source.length) :
    countLines? source countedTo line places
      = some (places.map fun place => 1 + (source.take place).count lineFeed) := by
  induction places generalizing countedTo line with
  | nil => rfl
  | cons place places ih =>
      obtain ⟨hfirst, hrest⟩ := List.pairwise_cons.mp hascending
      have hle : countedTo ≤ place := hfirst place List.mem_cons_self
      have hhere : line + (stretch source countedTo place).count lineFeed
          = 1 + (source.take place).count lineFeed := by
        rw [hline, count_take_of_le hle, Nat.add_assoc]
      have hslice := slice?_eq_stretch hle (hinside place List.mem_cons_self)
      have htail := ih rfl hrest fun later hlater =>
        hinside later (List.mem_cons_of_mem _ hlater)
      simp only [countLines?, hslice, Option.bind_eq_bind, Option.bind_some, hhere, htail]
      rfl

/-! ## The lines of a scan -/

/-- The bytes of a directive are on one line. -/
theorem StandsIn.lineFeed_not_mem {d : Directive} (h : StandsIn source d) :
    lineFeed ∉ stretch source d.start d.stop := by
  obtain ⟨path, form, hform, hsits, hstop, -⟩ := h
  have hspan : stretch source d.start d.stop = form := by
    rw [stretch, List.drop_take, hstop, Nat.add_sub_cancel_left]
    exact (List.prefix_iff_eq_take.mp hsits).symm
  rw [hspan]
  exact hform.lineFeed_not_mem

/-- The line of a directive is counted from the start of the source. -/
theorem line_of_mem_scan {d : Directive} (hd : d ∈ scan source) :
    d.line = 1 + (source.take d.start).count lineFeed := by
  obtain ⟨path, form, -, -, -, -, -, hline⟩ := (reads_scan source).stands d hd
  exact hline

/-- Spans are not empty and end in the source. -/
theorem span_of_mem_scan {d : Directive} (hd : d ∈ scan source) :
    d.start < d.stop ∧ d.stop ≤ source.length :=
  ((reads_scan source).inside d hd).2

/-- The lines of a scan are those that one comes to from start to start. -/
theorem countLines?_scan (source : Bytes) :
    countLines? source 0 1 ((scan source).map (·.start))
      = some ((scan source).map (·.line)) := by
  have hreads := reads_scan source
  have hascending : (0 :: (scan source).map (·.start)).Pairwise (· ≤ ·) := by
    refine List.pairwise_cons.mpr ⟨fun _ _ => Nat.zero_le _, List.pairwise_map.mpr ?_⟩
    refine hreads.ordered.imp_of_mem ?_
    intro d e hd he hde
    exact (span_of_mem_scan hd).1.le.trans hde
  have hinside : ∀ place ∈ (scan source).map (·.start), place ≤ source.length := by
    intro place hplace
    obtain ⟨d, hd, rfl⟩ := List.mem_map.mp hplace
    obtain ⟨hspan, hstop⟩ := span_of_mem_scan hd
    exact hspan.le.trans hstop
  refine (countLines?_of_ascending rfl hascending hinside).trans (congrArg some ?_)
  rw [List.map_map]
  refine List.map_congr_left ?_
  intro d hd
  exact (line_of_mem_scan hd).symm

/-- From one directive to a later one the line feeds between their starts come in
    addition, and all of them stand behind the first directive. -/
theorem line_of_later {d e : Directive} (hd : d ∈ scan source) (he : e ∈ scan source)
    (hde : d.stop ≤ e.start) :
    e.line = d.line + (stretch source d.start e.start).count lineFeed ∧
      e.line = d.line + (stretch source d.stop e.start).count lineFeed := by
  have hspan := (span_of_mem_scan hd).1.le
  have hown := ((reads_scan source).stands d hd).lineFeed_not_mem
  rw [line_of_mem_scan hd, line_of_mem_scan he]
  constructor
  · rw [count_take_of_le (hspan.trans hde), Nat.add_assoc]
  · rw [count_take_of_le hde, count_take_of_le hspan, List.count_eq_zero.mpr hown,
      Nat.add_zero, Nat.add_assoc]

/-- **LINE NUMBERS ARE EXACT**: the line of a directive is one more than the line
    feeds in front of it, in the bytes as well as in their text, and counting on from
    start to start comes to the same.  A later directive is on the same line exactly
    where no line feed stands between the two, else on a later one, and none stands
    inside a directive.  Whatever else stands in front, be it a carriage return, bytes
    that are no text or a directive, may be written over, with its line kept. -/
theorem lines_of_scan (source : Bytes) :
    (∀ d ∈ scan source,
      d.line = 1 + (source.take d.start).count lineFeed ∧
      d.line = 1 + (Utf8.decodeLossy (source.take d.start)).toList.count '\n' ∧
      lineFeed ∉ stretch source d.start d.stop) ∧
    countLines? source 0 1 ((scan source).map (·.start))
      = some ((scan source).map (·.line)) ∧
    ((scan source).Pairwise fun d e =>
      d.line ≤ e.line ∧
      (d.line = e.line ↔ lineFeed ∉ stretch source d.start e.start) ∧
      e.line = d.line + (stretch source d.stop e.start).count lineFeed) ∧
    ∀ p q bytes, p ≤ q → lineFeed ∉ stretch source p q → lineFeed ∉ bytes →
      ∀ d ∈ scan source, q ≤ d.start →
        ∀ moved ∈ scan (rewritten source p q bytes),
          moved.start + (q - p) = d.start + bytes.length → moved.line = d.line := by
  refine ⟨?_, countLines?_scan source, ?_, ?_⟩
  · intro d hd
    have hline := line_of_mem_scan hd
    refine ⟨hline, ?_, ((reads_scan source).stands d hd).lineFeed_not_mem⟩
    rw [Utf8.count_decodeLossy]
    exact hline
  · refine (reads_scan source).ordered.imp_of_mem ?_
    intro d e hd he hde
    obtain ⟨hstart, hstop⟩ := line_of_later hd he hde
    refine ⟨by omega, ?_, hstop⟩
    rw [hstart, ← List.count_eq_zero]
    omega
  · intro p q bytes hpq hold hnew d hd hqd moved hmoved hplace
    obtain ⟨hspan, hstop⟩ := span_of_mem_scan hd
    rw [line_of_mem_scan hd, line_of_mem_scan hmoved,
      count_take_rewritten hpq hold hnew hqd (hspan.le.trans hstop) hplace]

/-- A byte that is no text, a line that ends with a carriage return and a line feed,
    two directives on the next one and one behind them. -/
def returned : Bytes :=
  [0xE9, 0x0D, 0x0A] ++ Utf8.encode "#use \"a\";;#load \"b\";;\n#use \"c\";;"

theorem scan_returned : scan returned
    = [⟨.inline, "a", 3, 13, 2⟩, ⟨.link, "b", 13, 24, 2⟩, ⟨.inline, "c", 25, 35, 3⟩] := by
  decide +kernel

/-- The last directive is still on its line when a byte that is no text and a carriage
    return stand where the first one stood. -/
theorem lines_of_returned :
    ⟨.inline, "c", 25, 35, 3⟩ ∈ scan returned ∧
    3 = 1 + (returned.take 25).count lineFeed ∧
    3 = 1 + (Utf8.decodeLossy (returned.take 25)).toList.count '\n' ∧
    lineFeed ∉ stretch returned 3 13 ∧
    ∃ moved ∈ scan (rewritten returned 3 13 [0xFF, 0x0D]),
      moved.start = 17 ∧ moved.line = 3 := by
  obtain ⟨hexact, -, -, hkept⟩ := lines_of_scan returned
  have hfirst : ⟨.inline, "a", 3, 13, 2⟩ ∈ scan returned := by
    rw [scan_returned]
    decide
  have hlast : ⟨.inline, "c", 25, 35, 3⟩ ∈ scan returned := by
    rw [scan_returned]
    decide
  have hmoved : ⟨.inline, "c", 17, 27, 3⟩ ∈ scan (rewritten returned 3 13 [0xFF, 0x0D]) := by
    decide +kernel
  obtain ⟨hbytes, htext, -⟩ := hexact _ hlast
  obtain ⟨-, -, hspan⟩ := hexact _ hfirst
  have hline := hkept 3 13 [0xFF, 0x0D] (by decide) hspan (by decide) _ hlast (by decide) _
    hmoved (by decide)
  exact ⟨hlast, hbytes, htext, hspan, _, hmoved, rfl, hline⟩

end SourceBundle
