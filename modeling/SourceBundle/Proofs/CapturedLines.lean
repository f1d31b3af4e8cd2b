import SourceBundle.Proofs.Encoding
import SourceBundle.Proofs.RunReports

/-! # Captured lines — what a compiler writes is shown again

    `Lined text ls` says what the lines of a text are: the text is the lines one
    behind the other, each with its ending, a line feed or a carriage return and a
    line feed, and the last one perhaps without.  Every text has one such list of
    lines (`lined_iff`), so nothing is lost, added or moved by cutting it.

    Where no line ends in a carriage return, writing the lines again gives the text
    back, completed by one line feed if its last line has none
    (`Lined.written_eq`).  The report of a failed build is made of that
    (`Build.run_captured`). -/

namespace SourceBundle

/-! ## The lines of a text -/

/-- A text and its lines, which have no line feed in them.  A carriage return before a
    line feed is part of the ending, and an ending that is missing is missing at the
    end of the text, behind a line that is not empty. -/
inductive Lined : List Char → List (List Char) → Prop where
  | nothing : Lined [] []
  | unended {line : List Char} : line ≠ [] → '\n' ∉ line → Lined line [line]
  | fed {line rest : List Char} {ls : List (List Char)} :
      '\n' ∉ line → line.getLast? ≠ some '\r' → Lined rest ls →
      Lined (line ++ '\n' :: rest) (line :: ls)
  | returned {line rest : List Char} {ls : List (List Char)} :
      '\n' ∉ line → Lined rest ls →
      Lined (line ++ '\r' :: '\n' :: rest) (line :: ls)

/-- A character that begins no ending belongs to the line behind it. -/
theorem linesOf_cons {c : Char} {rest line : List Char} {ls : List (List Char)}
    (hc : c ≠ '\n') (hreturn : c = '\r' → rest.head? ≠ some '\n')
    (h : linesOf rest = line :: ls) : linesOf (c :: rest) = (c :: line) :: ls := by
  rw [linesOf, h]
  · exact hc
  · rintro tail rfl rfl
    exact hreturn rfl rfl

theorem linesOf_eq_nil_iff {text : List Char} : linesOf text = [] ↔ text = [] := by
  constructor
  · intro h
    unfold linesOf at h
    split at h
    · rfl
    · cases h
    · cases h
    · split at h <;> cases h
  · rintro rfl
    rfl

/-- The last line may have no ending. -/
theorem linesOf_unended {line : List Char} (hne : line ≠ []) (hline : '\n' ∉ line) :
    linesOf line = [line] := by
  induction line with
  | nil => exact absurd rfl hne
  | cons c line ih =>
      obtain ⟨hc, hrest⟩ := not_or.mp (mt List.mem_cons.mpr hline)
      cases line with
      | nil =>
          rw [linesOf, linesOf]
          · exact Ne.symm hc
          · exact fun tail _ => (List.cons_ne_nil '\n' tail).symm
      | cons d line =>
          refine linesOf_cons (Ne.symm hc) ?_ (ih (List.cons_ne_nil d line) hrest)
          rintro - hhead
          exact hrest (List.mem_of_head? hhead)

/-- A line feed ends a line, and is no part of it. -/
theorem linesOf_fed {line rest : List Char} (hline : '\n' ∉ line)
    (hlast : line.getLast? ≠ some '\r') :
    linesOf (line ++ '\n' :: rest) = line :: linesOf rest := by
  induction line with
  | nil => rw [List.nil_append, linesOf]
  | cons c line ih =>
      obtain ⟨hc, hrest⟩ := not_or.mp (mt List.mem_cons.mpr hline)
      cases line with
      | nil =>
          refine linesOf_cons (Ne.symm hc) ?_ (ih hrest (Option.some_ne_none '\r').symm)
          rintro rfl -
          exact hlast rfl
      | cons d line =>
          refine linesOf_cons (Ne.symm hc) ?_ (ih hrest hlast)
          rintro - hhead
          exact hrest (List.mem_of_head? hhead)

/-- A carriage return in front of the line feed belongs to the ending. -/
theorem linesOf_returned {line rest : List Char} (hline : '\n' ∉ line) :
    linesOf (line ++ '\r' :: '\n' :: rest) = line :: linesOf rest := by
  induction line with
  | nil => rw [List.nil_append, linesOf]
  | cons c line ih =>
      obtain ⟨hc, hrest⟩ := not_or.mp (mt List.mem_cons.mpr hline)
      refine linesOf_cons (Ne.symm hc) ?_ (ih hrest)
      rintro - hhead
      cases line with
      | nil => cases hhead
      | cons d line => exact hrest (List.mem_of_head? hhead)

/-- A text has its lines in one way only. -/
theorem Lined.eq_linesOf {text : List Char} {ls : List (List Char)} (h : Lined text ls) :
    ls = linesOf text := by
  induction h with
  | nothing => rfl
  | unended hne hline => rw [linesOf_unended hne hline]
  | fed hline hlast _ ih => rw [linesOf_fed hline hlast, ih]
  | returned hline _ ih => rw [linesOf_returned hline, ih]

/-- A character in front of a text, if it begins no ending there, lengthens the first
    line. -/
theorem Lined.cons {c : Char} {text line : List Char} {ls : List (List Char)}
    (hc : c ≠ '\n') (hreturn : c = '\r' → text.head? ≠ some '\n')
    (h : Lined text (line :: ls)) : Lined (c :: text) ((c :: line) :: ls) := by
  have hmem : ∀ {line : List Char}, '\n' ∉ line → '\n' ∉ c :: line := by
    intro line hline hmem
    rcases List.mem_cons.mp hmem with hfirst | hrest
    · exact hc hfirst.symm
    · exact hline hrest
  cases h with
  | unended _ hline => exact .unended (List.cons_ne_nil _ _) (hmem hline)
  | fed hline hlast hrest =>
      refine .fed (hmem hline) ?_ hrest
      cases line with
      | nil => exact fun hlast => hreturn (Option.some.inj hlast) rfl
      | cons d line => exact hlast
  | returned hline hrest => exact .returned (hmem hline) hrest

/-- The lines of a text are put together to the text again. -/
theorem lined_linesOf (text : List Char) : Lined text (linesOf text) := by
  -- the cases are those of `linesOf`: an end, the two endings, a last and an inner character
  fun_induction linesOf text with
  | case1 => exact .nothing
  | case2 rest ih => exact .fed List.not_mem_nil (Option.some_ne_none '\r').symm ih
  | case3 rest ih => exact .returned List.not_mem_nil ih
  | case4 c rest hc hreturn hnone ih =>
      obtain rfl := linesOf_eq_nil_iff.mp hnone
      exact .unended (List.cons_ne_nil _ _) fun hmem => hc (List.mem_singleton.mp hmem).symm
  | case5 c rest hc hreturn line ls hlines ih =>
      rw [hlines] at ih
      refine ih.cons hc ?_
      rintro rfl hhead
      obtain ⟨tail, rfl⟩ := List.head?_eq_some_iff.mp hhead
      exact hreturn tail rfl rfl

/-- **ONE CUT**: a text has one list of lines. -/
theorem lined_iff {text : List Char} {ls : List (List Char)} :
    Lined text ls ↔ ls = linesOf text := by
  constructor
  · intro h
    exact h.eq_linesOf
  · rintro rfl
    exact lined_linesOf text

/-- The lines of a text. -/
def HasLines (text : String) (ls : List String) : Prop :=
  Lined text.toList (ls.map String.toList)

theorem map_toList_lines (text : String) :
    (lines text).map String.toList = linesOf text.toList := by
  have hsame : (String.toList ∘ String.ofList) = id := funext fun _ => String.toList_ofList
  rw [lines, List.map_map, hsame, List.map_id]

/-- The lines of a string are those of its characters. -/
theorem hasLines_lines (text : String) : HasLines text (lines text) := by
  rw [HasLines, map_toList_lines]
  exact lined_linesOf text.toList

/-! ## Written again -/

/-- A list with a mark at its end: the mark is added if it is missing, but nothing is
    added to the empty list. -/
def completed {α : Type} [DecidableEq α] (mark : α) (l : List α) : List α :=
  if l = [] ∨ l.getLast? = some mark then l else l ++ [mark]

/-- A line without an ending gets one. -/
theorem completed_of_not_mem {α : Type} [DecidableEq α] {mark : α} {l : List α}
    (hne : l ≠ []) (hmark : mark ∉ l) : completed mark l = l ++ [mark] := by
  refine if_neg ?_
  rintro (hnil | hlast)
  · exact hne hnil
  · exact hmark (List.mem_of_getLast? hlast)

/-- Behind a mark a list is completed by itself. -/
theorem completed_append_cons {α : Type} [DecidableEq α] (mark : α) (front back : List α) :
    completed mark (front ++ mark :: back) = front ++ mark :: completed mark back := by
  have hlast : (front ++ mark :: back).getLast? = (mark :: back).getLast? :=
    List.getLast?_append_of_ne_nil _ (List.cons_ne_nil mark back)
  have hne : front ++ mark :: back ≠ [] := by simp
  unfold completed
  rw [hlast]
  cases back with
  | nil => rw [if_pos (.inr rfl), if_pos (.inl rfl)]
  | cons b back =>
      rw [List.getLast?_cons_cons]
      by_cases hmark : (b :: back).getLast? = some mark
      · rw [if_pos (.inr hmark), if_pos (.inr hmark)]
      · rw [if_neg (not_or.mpr ⟨hne, hmark⟩),
          if_neg (not_or.mpr ⟨List.cons_ne_nil b back, hmark⟩), List.append_assoc,
          List.cons_append]

/-- **WRITTEN AGAIN**, each with a line feed, the lines of a text without carriage
    returns before line feeds are the completed text. -/
theorem Lined.written_eq {text : List Char} {ls : List (List Char)} (h : Lined text ls)
    (hreturn : ¬ ['\r', '\n'] <:+: text) :
    ls.flatMap (· ++ ['\n']) = completed '\n' text := by
  induction h with
  | nothing => rfl
  | unended hne hline =>
      rw [completed_of_not_mem hne hline, List.flatMap_singleton]
  | @fed line rest ls hline hlast _ ih =>
      have hrest : ¬ ['\r', '\n'] <:+: rest := by
        rintro ⟨front, back, rfl⟩
        exact hreturn ⟨line ++ '\n' :: front, back, by simp⟩
      rw [List.flatMap_cons, ih hrest, completed_append_cons, List.append_assoc,
        List.singleton_append]
  | @returned line rest ls hline _ ih =>
      exact absurd ⟨line, rest, by simp⟩ hreturn

/-- Written lines are the lines, each with its ending. -/
theorem toList_written (ls : List String) :
    (written ls).toList = (ls.map String.toList).flatMap (· ++ ['\n']) := by
  rw [written, String.toList_join, List.flatMap_map, List.flatMap_map]
  simp

/-! ## Bytes -/

/-- Only a line feed is written with the byte of a line feed at the end. -/
theorem getLast?_encodeChar_iff {c : Char} :
    (String.utf8EncodeChar c).getLast? = some lineFeed ↔ c = '\n' := by
  constructor
  · intro h
    have hlast : ∀ b : UInt8, some b = some lineFeed → b.toNat = 0x0A := by
      intro b hb
      rw [Option.some.inj hb]
      rfl
    rcases Nat.lt_or_ge c.toNat 0x80 with hone | hlow
    · obtain ⟨b, hbytes, hb⟩ := Utf8.encodeChar_one hone
      rw [hbytes] at h
      exact Char.toNat_inj.mp (hb.symm.trans (hlast b h))
    rcases Nat.lt_or_ge c.toNat 0x800 with htwo | hlow'
    · obtain ⟨_, b, hbytes, -, hb⟩ := Utf8.encodeChar_two hlow htwo
      rw [hbytes] at h
      have := hlast b h
      omega
    rcases Nat.lt_or_ge c.toNat 0x10000 with hthree | hlow''
    · obtain ⟨_, _, b, hbytes, -, -, hb⟩ := Utf8.encodeChar_three hlow' hthree
      rw [hbytes] at h
      have := hlast b h
      omega
    · obtain ⟨_, _, _, b, hbytes, -, -, -, hb⟩ := Utf8.encodeChar_four hlow''
      rw [hbytes] at h
      have := hlast b h
      omega
  · rintro rfl
    decide +kernel

/-- A text is completed as its bytes are. -/
theorem flatMap_encodeChar_completed (text : List Char) :
    (completed '\n' text).flatMap String.utf8EncodeChar
      = completed lineFeed (text.flatMap String.utf8EncodeChar) := by
  rcases List.eq_nil_or_concat' text with rfl | ⟨front, c, rfl⟩
  · rfl
  · have hne : ((front ++ [c]).flatMap String.utf8EncodeChar) ≠ [] := by
      simp [String.utf8EncodeChar_ne_nil]
    have hlast : ((front ++ [c]).flatMap String.utf8EncodeChar).getLast? = some lineFeed ↔
        (front ++ [c]).getLast? = some '\n' := by
      rw [List.flatMap_append, List.flatMap_singleton,
        List.getLast?_append_of_ne_nil _ String.utf8EncodeChar_ne_nil,
        getLast?_encodeChar_iff, List.getLast?_concat, Option.some.injEq]
    unfold completed
    by_cases hended : (front ++ [c]).getLast? = some '\n'
    · rw [if_pos (.inr hended), if_pos (.inr (hlast.mpr hended))]
    · have hnil : front ++ [c] ≠ [] := by simp
      rw [if_neg (not_or.mpr ⟨hnil, hended⟩),
        if_neg (not_or.mpr ⟨hne, mt hlast.mp hended⟩), List.flatMap_append]
      rfl

/-- Well-formed text without a carriage return before a line feed. -/
structure IsPlain (bytes : Bytes) : Prop where
  text : ∃ text, Utf8.decode? bytes = some text
  unreturned : ¬ [0x0D, lineFeed] <:+: bytes

/-- **BYTE FOR BYTE**: the lines of plain text, written again, are its bytes,
    completed. -/
theorem IsPlain.encode_written {bytes : Bytes} (h : IsPlain bytes) :
    Utf8.encode (written (lines (Utf8.decodeLossy bytes))) = completed lineFeed bytes := by
  obtain ⟨⟨text, htext⟩, hreturn⟩ := h
  obtain rfl := Utf8.decode?_eq_some_iff.mp htext
  have hchars : ¬ ['\r', '\n'] <:+: text.toList := by
    rintro ⟨front, back, hcut⟩
    refine hreturn ⟨front.flatMap String.utf8EncodeChar, back.flatMap String.utf8EncodeChar, ?_⟩
    rw [Utf8.encode, ← hcut, List.flatMap_append, List.flatMap_append]
    rfl
  rw [Utf8.decodeLossy_encode, Utf8.encode, toList_written, map_toList_lines,
    (lined_linesOf text.toList).written_eq hchars, flatMap_encodeChar_completed, Utf8.encode]

theorem written_append (front back : List String) :
    written (front ++ back) = written front ++ written back := by
  rw [← String.toList_inj, String.toList_append, toList_written, toList_written,
    toList_written, List.map_append, List.flatMap_append]

/-- The bytes of two texts in a row are in a row. -/
theorem Utf8.encode_append (front back : String) :
    Utf8.encode (front ++ back) = Utf8.encode front ++ Utf8.encode back := by
  rw [Utf8.encode, String.toList_append, List.flatMap_append]
  rfl

/-! ## Failed builds -/

variable {launch : Launcher} {host : Host}

/-- What is kept of a child is the lines of its two streams. -/
theorem output_of_start {command : Command} {child : Child}
    (h : start launch host command = .ok child) :
    (compile launch host command).1.output
      = lines (Utf8.decodeLossy child.stdout) ++ lines (Utf8.decodeLossy child.stderr) := by
  rw [output_compile, h]
  rfl

/-- The lines that a failed build reports before those of its compiler. -/
def Build.failing (command : Command) : List String :=
  ["Preparing .ml files...", "Compiling... (`" ++ command.display ++ "`)",
    "Something went wrong :("]

/-- The report of a failed build ends with all that was kept of its compiler. -/
theorem Build.report_of_failure {s : BuildSettings} {compilation : Compilation} {p : Progress}
    (h : Build.run launch host s = .ok (.failure compilation) p) :
    ∃ command files, p.started = [(command, files)] ∧
      (compile launch ⟨files, host.environment⟩ command).1 = compilation ∧
      p.report = written (Build.failing command) ++ written compilation.output := by
  obtain ⟨bundle, files, kept, hbundle, hstore, hstarted, hcompile, houtcome⟩ :=
    Build.stored_of_run h
  -- the outcome of a failure is what was kept of the compiler
  have hkept : kept = compilation := by
    rw [BuildSettings.outcome] at houtcome
    split at houtcome
    · cases houtcome
    · exact (Outcome.failure.inj houtcome).symm
  have hrun := Build.run_of_store_ok hbundle hstore rfl hcompile
  rw [h, ← houtcome] at hrun
  have hreport := congrArg Progress.report (EStateM.Result.ok.inj hrun).2
  refine ⟨_, files, hstarted, by rw [hcompile, hkept], ?_⟩
  rw [hreport, Build.reporting_eq, String.empty_append, written_cons, written_cons, written_failure,
    ← written_append, ← written_cons, ← written_cons]
  rfl

/-- **NO LINE IS LOST**: what is kept of a child that was started is the lines of its
    standard output and then those of its standard error.  A build fails where its child
    exits with a code other than 0 or by a signal, and then its report ends with each of
    these lines and a line feed; for plain text that is what the child wrote, each stream
    completed by itself. -/
theorem Build.run_captured (launch : Launcher) (host : Host) :
    (∀ command child, start launch host command = .ok child →
      ∃ out err, HasLines (Utf8.decodeLossy child.stdout) out ∧
        HasLines (Utf8.decodeLossy child.stderr) err ∧
        (compile launch host command).1.output = out ++ err) ∧
    (∀ s bundle files child, bundleFile host.files s.options s.entry = .ok bundle →
      store host.files s.bundle bundle.text = (.ok (), files) →
      start launch ⟨files, host.environment⟩ (s.command bundle.libraries) = .ok child →
      child.exit ≠ .code 0 →
      ∃ compilation p, Build.run launch host s = .ok (.failure compilation) p) ∧
    (∀ s compilation p, Build.run launch host s = .ok (.failure compilation) p →
      ∃ command files, p.started = [(command, files)] ∧
        (compile launch ⟨files, host.environment⟩ command).1 = compilation ∧
        p.report = written (Build.failing command) ++ written compilation.output ∧
        ∀ child, start launch ⟨files, host.environment⟩ command = .ok child →
          IsPlain child.stdout → IsPlain child.stderr →
          Utf8.encode (written compilation.output)
            = completed lineFeed child.stdout ++ completed lineFeed child.stderr) := by
  refine ⟨?_, ?_, ?_⟩
  · intro command child hstart
    exact ⟨_, _, hasLines_lines _, hasLines_lines _, output_of_start hstart⟩
  · intro s bundle files child hbundle hstore hstart hexit
    have hiff := succeeded_compile_iff launch ⟨files, host.environment⟩
      (s.command bundle.libraries)
    rcases hcompile : compile launch ⟨files, host.environment⟩ (s.command bundle.libraries)
      with ⟨compilation, left⟩
    have hfailed : ¬ compilation.succeeded = true := by
      intro hsucceeded
      rw [hcompile, hstart] at hiff
      obtain ⟨other, hother, hcode⟩ := hiff.mp hsucceeded
      exact hexit (Except.ok.inj hother ▸ hcode)
    rw [Build.run_of_store_ok hbundle hstore rfl hcompile, BuildSettings.outcome,
      if_neg hfailed]
    exact ⟨_, _, rfl⟩
  · intro s compilation p hrun
    obtain ⟨command, files, hstarted, hcompile, hreport⟩ := Build.report_of_failure hrun
    refine ⟨command, files, hstarted, hcompile, hreport, ?_⟩
    intro child hstart hout herr
    rw [← hcompile, output_of_start hstart, written_append, Utf8.encode_append,
      hout.encode_written, herr.encode_written]

/-- What a build needs that puts the bundle beside its source. -/
def besideSettings : BuildSettings :=
  .ofConfig (Program.besideSourceLine.apply Config.builtIn)

/-- The last line of standard output, which has no ending, is not put together with the
    first line of standard error, and the blank line is kept. -/
theorem Build.run_captured_complaining : ∃ compilation p tail,
    Build.run Program.complaining Program.lonelySource.toHost besideSettings
      = .ok (.failure compilation) p ∧
    p.report = written (Build.failing
      ⟨["ocamlopt", "-o", "../bin/BigCitiesOnTinyPlanets.exe", "/b"]⟩) ++ tail ∧
    Utf8.encode tail = Utf8.encode "one\n\ntwo\n" ++ Utf8.encode "three\n" := by
  have hplain : ∀ text : String, ¬ [0x0D, lineFeed] <:+: Utf8.encode text →
      IsPlain (Utf8.encode text) := by
    intro text hreturn
    exact ⟨⟨text, Utf8.decode?_eq_some_iff.mpr rfl⟩, hreturn⟩
  have hwords : besideSettings.command []
      = ⟨["ocamlopt", "-o", "../bin/BigCitiesOnTinyPlanets.exe", "/b"]⟩ := by
    decide +kernel
  have hstart : ∀ files, start Program.complaining ⟨files, Program.lonelySource.environment⟩
      (besideSettings.command [])
      = .ok ⟨.code 3, Utf8.encode "one\n\ntwo", Utf8.encode "three\n", files⟩ := by
    intro files
    rw [hwords, start, if_neg (by decide +kernel)]
    rfl
  obtain ⟨-, hfails, hreports⟩ :=
    Build.run_captured Program.complaining Program.lonelySource.toHost
  have hbundle := Program.bundleFile_lonelySource besideSettings.options
  have hstore := Program.store_besideSource (Utf8.encode "let x = 1\n")
  obtain ⟨compilation, p, hrun⟩ := hfails besideSettings _ _ _ hbundle hstore (hstart _)
    (by simp)
  obtain ⟨command, files, hstarted, hcompile, hreport, htail⟩ := hreports _ _ _ hrun
  -- the command that was started is the one of the settings
  obtain ⟨bundle, files', -, hbundle', -, hstarted', -⟩ := Build.stored_of_run hrun
  obtain rfl := Except.ok.inj (hbundle.symm.trans hbundle')
  obtain ⟨rfl, rfl⟩ := Prod.mk.inj (List.singleton_inj.mp (hstarted.symm.trans hstarted'))
  refine ⟨compilation, p, written compilation.output, hrun, ?_, ?_⟩
  · rw [hreport, hwords]
  · have hcompleted : completed lineFeed (Utf8.encode "one\n\ntwo")
        ++ completed lineFeed (Utf8.encode "three\n")
        = Utf8.encode "one\n\ntwo\n" ++ Utf8.encode "three\n" := by
      decide +kernel
    exact (htail _ (hstart files) (hplain _ (by decide +kernel))
      (hplain _ (by decide +kernel))).trans hcompleted

end SourceBundle
