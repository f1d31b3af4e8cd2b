import SourceBundle.Proofs.CompilerWords
import SourceBundle.Proofs.SinglePass
import SourceBundle.Proofs.Terminators

/-! # Named files — whether the file inlined is the file named

    A directive names a file by bytes, and keeps the name as text.  Where the bytes
    are UTF-8 the two name the same path, and the file at it is inlined
    (`bundleSource_named`).

    Other bytes do not come back from their text: a different path is opened then
    (`includePath_eq_iff`), and the file at it is inlined, or missed
    (`bundleSource_misnamed`). -/

namespace SourceBundle

variable {fs : FileSystem} {o : BundleOptions} {source : Bytes}

/-! ## Paths -/

/-- Names seen from one directory are told apart, an absolute one from a relative one
    apart. -/
theorem Path.join_inj {base p q : Path} (habsolute : p.isAbsolute = q.isAbsolute) :
    base.join p = base.join q ↔ p = q := by
  constructor
  · intro h
    unfold Path.join at h
    rw [habsolute] at h
    split at h
    · exact h
    · split at h
      · exact congrArg Path.mk (List.append_cancel_left (Path.mk.inj h))
      · exact congrArg Path.mk
          (List.cons.inj (List.append_cancel_left (Path.mk.inj h))).2
  · rintro rfl
    rfl

/-- The text of a path is absolute where the path is: a slash is a character of its
    own, and no fault begins with one. -/
theorem Path.isAbsolute_ofText_display (p : Path) :
    (Path.ofText p.display).isAbsolute = p.isAbsolute := by
  obtain ⟨bytes⟩ := p
  cases bytes with
  | nil => decide +kernel
  | cons b rest =>
      -- the first byte decides: it begins a character, or is a fault and becomes U+FFFD
      obtain ⟨c?, tail, hnext⟩ : ∃ c? tail, Utf8.next b rest = (c?, tail) := ⟨_, _, rfl⟩
      have hhead : (Utf8.encode (Utf8.decodeLossy (b :: rest))).head?
          = (String.utf8EncodeChar (c?.getD '\uFFFD')).head? := by
        rw [Utf8.encode, Utf8.decodeLossy, String.toList_ofList, Utf8.scalars, List.map_cons,
          List.flatMap_cons, List.head?_append_of_ne_nil _ String.utf8EncodeChar_ne_nil, hnext]
      unfold Path.isAbsolute Path.ofText Path.display
      dsimp only
      rw [hhead]
      cases c? with
      | some c =>
          have hfirst := congrArg List.head? (Utf8.next_eq_some_iff.mp hnext)
          rw [List.head?_append_of_ne_nil _ String.utf8EncodeChar_ne_nil] at hfirst
          rw [hfirst, Option.getD_some]
      | none =>
          have hslash : b ≠ Path.slash := by
            rintro rfl
            cases congrArg Prod.fst hnext
          have hfault : ((String.utf8EncodeChar '\uFFFD').head? == some Path.slash) = false := by
            decide +kernel
          rw [Option.getD_none, hfault, List.head?_cons, eq_comm, beq_eq_false_iff_ne]
          exact fun h => hslash (Option.some.inj h)

/-- **THE PATH OPENED** for a directive is the one it names exactly if its name is
    UTF-8. -/
theorem includePath_eq_iff {d : Directive} {name : Bytes} (h : HasPath source d name) :
    o.includePath d = o.baseDir.join ⟨name⟩ ↔ (⟨name⟩ : Path).IsUtf8 := by
  have hopened : o.includePath d = o.baseDir.join (Path.ofText (Path.display ⟨name⟩)) := by
    rw [BundleOptions.includePath, h.text, Path.display]
  rw [hopened, Path.join_inj (Path.isAbsolute_ofText_display ⟨name⟩),
    ← Path.encode_display_eq_iff, Path.ofText, Path.mk.injEq]

/-! ## Inlined files -/

/-- **THE FILE NAMED**: in single mode a recognised `#use` opens the path that its bytes
    name exactly if they are UTF-8.  If they are, and there is a file at that path, the
    directive is replaced by the content of this file, while the files of the other
    directives can be read. -/
theorem bundleSource_named (fs : FileSystem) (o : BundleOptions) (source : Bytes)
    (hmode : o.mode = .single) :
    ∀ d ∈ scan source, d.kind = .inline → ∀ name, HasPath source d name →
      (o.includePath d = o.baseDir.join ⟨name⟩ ↔ (⟨name⟩ : Path).IsUtf8) ∧
      ∀ content, (⟨name⟩ : Path).IsUtf8 →
        fs.contents (o.baseDir.join ⟨name⟩) = .ok content →
        (∀ e ∈ scan source, e.kind = .inline → e ≠ d → fs.Readable (o.includePath e)) →
        ∃ bundle replacement, bundleSource fs o source = .ok bundle ∧
          Spliced replacement 0 source (scan source) bundle.text ∧
          replacement d = content := by
  rintro d - hkind name hname
  have hpath : o.includePath d = o.baseDir.join ⟨name⟩ ↔ (⟨name⟩ : Path).IsUtf8 :=
    includePath_eq_iff hname
  refine ⟨hpath, ?_⟩
  intro content htext hcontent hothers
  rw [← hpath.mpr htext] at hcontent
  have hread : ∀ e ∈ scan source, e.kind = .inline → fs.Readable (o.includePath e) := by
    intro e he hinline
    by_cases hed : e = d
    · exact ⟨content, hed ▸ hcontent⟩
    · exact hothers e he hinline hed
  obtain ⟨e, hexpand, -⟩ := expand_single [] hmode hread
  refine ⟨_, replacementOf fs o [], bundleSource_of_expand hexpand, ?_, ?_⟩
  · rw [text_settle]
    exact spliced_of_expand hexpand
  · rw [replacementOf, resolve_single_eq hmode hkind hcontent]

/-- A source of one use, which names a file by these bytes. -/
def usesName (name : Bytes) : Bytes :=
  Utf8.encode "0#use \x22" ++ name ++ Utf8.encode "\x22;;1"

/-- A file with one byte in it under a name outside ASCII. -/
def accented : FileSystem := ⟨[([Utf8.encode "é"], .file [0xFF] false)], [], none⟩

/-- The file is found by its name, and its byte is inlined. -/
theorem bundleSource_named_accented :
    ∃ d ∈ scan (usesName (Utf8.encode "é")), d.kind = .inline ∧
      HasPath (usesName (Utf8.encode "é")) d (Utf8.encode "é") ∧
      accented.contents (onePass.baseDir.join ⟨Utf8.encode "é"⟩) = .ok [0xFF] ∧
      ∃ bundle replacement,
        bundleSource accented onePass (usesName (Utf8.encode "é")) = .ok bundle ∧
        Spliced replacement 0 (usesName (Utf8.encode "é"))
          (scan (usesName (Utf8.encode "é"))) bundle.text ∧
        replacement d = [0xFF] := by
  have hscan : scan (usesName (Utf8.encode "é")) = [⟨.inline, "é", 1, 12, 1⟩] := by
    decide +kernel
  have hd : (⟨.inline, "é", 1, 12, 1⟩ : Directive) ∈ scan (usesName (Utf8.encode "é")) :=
    hscan ▸ List.mem_singleton_self _
  have hname : HasPath (usesName (Utf8.encode "é")) ⟨.inline, "é", 1, 12, 1⟩
      (Utf8.encode "é") := by
    have hbytes : Directive.pathIn ⟨.inline, "é", 1, 12, 1⟩ (usesName (Utf8.encode "é"))
        = Utf8.encode "é" := by
      decide +kernel
    exact hbytes ▸ hasPath_pathIn hd
  have hcontent : accented.contents (onePass.baseDir.join ⟨Utf8.encode "é"⟩) = .ok [0xFF] := by
    cbv
  refine ⟨_, hd, rfl, hname, hcontent, ?_⟩
  refine (bundleSource_named accented onePass _ rfl _ hd rfl _ hname).2 _ ⟨"é", rfl⟩
    hcontent ?_
  -- there is no other directive
  intro e he _ hother
  rw [hscan] at he
  exact absurd (List.mem_singleton.mp he) hother

/-- A file under a name that is no text, and files beside it. -/
def unreadableName (beside : List (Location × Entry)) : FileSystem :=
  ⟨([[0xFF]], .file [0x32] false) :: beside, [], none⟩

/-- A name that is no text names a file, but its text is the name of another one: where
    that is there it is inlined, and where it is not nothing is found. -/
theorem bundleSource_misnamed :
    ∃ d ∈ scan (usesName [0xFF]), d.kind = .inline ∧ HasPath (usesName [0xFF]) d [0xFF] ∧
      (unreadableName [([Utf8.encode "\uFFFD"], .file [0x33] false)]).contents
        (onePass.baseDir.join ⟨[0xFF]⟩) = .ok [0x32] ∧
      bundleSource (unreadableName [([Utf8.encode "\uFFFD"], .file [0x33] false)]) onePass
        (usesName [0xFF]) = .ok ⟨Utf8.encode "031", []⟩ ∧
      (unreadableName []).contents (onePass.baseDir.join ⟨[0xFF]⟩) = .ok [0x32] ∧
      bundleSource (unreadableName []) onePass (usesName [0xFF])
        = .error (.unreadableInclude (Path.ofText "/\uFFFD") 1 .noSuchFile) := by
  have hscan : scan (usesName [0xFF]) = [⟨.inline, "\uFFFD", 1, 11, 1⟩] := by
    decide +kernel
  have hd : (⟨.inline, "\uFFFD", 1, 11, 1⟩ : Directive) ∈ scan (usesName [0xFF]) :=
    hscan ▸ List.mem_singleton_self _
  have hname : HasPath (usesName [0xFF]) ⟨.inline, "\uFFFD", 1, 11, 1⟩ [0xFF] := by
    have hbytes : Directive.pathIn ⟨.inline, "\uFFFD", 1, 11, 1⟩ (usesName [0xFF])
        = [0xFF] := by
      decide +kernel
    exact hbytes ▸ hasPath_pathIn hd
  have hopen : (unreadableName [([Utf8.encode "\uFFFD"], .file [0x33] false)]).contents
      (onePass.includePath ⟨.inline, "\uFFFD", 1, 11, 1⟩) = .ok [0x33] := by
    cbv
  have hmissing : (unreadableName []).openFile
      (onePass.includePath ⟨.inline, "\uFFFD", 1, 11, 1⟩) = .error .noSuchFile := by
    cbv
  refine ⟨_, hd, rfl, hname, by cbv, ?_, by cbv, ?_⟩
  · have hexpand := expand_cons_of_ok (resolve_single_eq rfl rfl hopen) (expand_nil [])
    rw [← hscan] at hexpand
    rw [bundleSource_of_expand hexpand]
    decide +kernel
  · have hpath : onePass.includePath ⟨.inline, "\uFFFD", 1, 11, 1⟩
        = Path.ofText "/\uFFFD" := by
      decide +kernel
    rw [bundleSource, bundleFrom_eq_map, hscan, expand_cons, resolve_unreadable rfl hmissing,
      hpath]
    rfl

end SourceBundle
