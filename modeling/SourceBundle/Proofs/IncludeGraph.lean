import SourceBundle.Proofs.Expansion

/-! # The include graph — when recursive bundling succeeds

    Files are the nodes, told apart by their places, so that a link and its
    target are one node.  There is an edge from `F` to `G` when the bytes of
    `F` hold a `#use` whose path leads to `G`.

    The expansion of a file walks that graph with the current path as its
    trail.  Two directions meet in `bundleFile_succeeds_iff`: along any path a
    successful walk gets to each file with the files before it on the trail
    (`Expands.reaches`), so no path comes back; and while no path comes back,
    the trail forbids nothing (`expands_of_acyclic`). -/

namespace SourceBundle

variable {fs : FileSystem} {o : BundleOptions}

/-! ## The graph -/

/-- What is read from the file or device at a place. -/
def FileSystem.contentAt? (fs : FileSystem) (place : Location) : Option Bytes :=
  match fs.entryOf? place with
  | some (.file content _) => some content
  | some (.device kind) => kind.read.toOption
  | _ => none

/-- What a device holds is what reading it to its end gives. -/
theorem FileSystem.contentAt?_of_device {place : Location} {kind : Device}
    (h : fs.entryOf? place = some (.device kind)) (content : Bytes) :
    fs.contentAt? place = some content ↔ kind.read = .ok content := by
  unfold FileSystem.contentAt?
  rw [h]
  dsimp only
  cases kind.read with
  | error cause => exact ⟨nofun, nofun⟩
  | ok bytes =>
      constructor
      · intro h
        rw [Option.some.inj h]
      · intro h
        rw [← Except.ok.inj h]
        rfl

/-- The null device in its directory. -/
def nullDevice : FileSystem :=
  ⟨[([Utf8.encode "dev"], .directory),
    ([Utf8.encode "dev", Utf8.encode "null"], .device .null)], [], none⟩

/-- Only files and devices are read. -/
theorem FileSystem.mem_filePlaces_of_contentAt? {place : Location} {content : Bytes}
    (h : fs.contentAt? place = some content) : place ∈ fs.filePlaces := by
  unfold FileSystem.contentAt? at h
  split at h
  · next hentry => exact fs.mem_filePlaces_of_entry? hentry
  · next hentry => exact fs.mem_filePlaces_of_device hentry
  · cases h

/-- The path can be read. -/
def FileSystem.Readable (fs : FileSystem) (p : Path) : Prop :=
  ∃ content, fs.contents p = .ok content

/-- The file at `F` has the `#use` directive `d`. -/
def Uses (fs : FileSystem) (F : Location) (d : Directive) : Prop :=
  ∃ content, fs.contentAt? F = some content ∧ d ∈ scan content ∧
    d.kind = .inline

/-- An edge of the include graph. -/
def Includes (fs : FileSystem) (o : BundleOptions) (F G : Location) : Prop :=
  ∃ d, Uses fs F d ∧ fs.locate .reach (o.includePath d) = .ok G

/-- The file at `F` is the entry or is included from it, at any depth. -/
def ReachedFrom (fs : FileSystem) (o : BundleOptions) (entry : Path)
    (F : Location) : Prop :=
  ∃ root, fs.locate .reach entry = .ok root ∧
    Relation.ReflTransGen (Includes fs o) root F

/-- Opening a path is going to its place and reading there. -/
theorem openFile_eq_ok_iff {p : Path} {place : Location} {content : Bytes} :
    fs.openFile p = .ok (place, content) ↔
      fs.locate .reach p = .ok place ∧ fs.contentAt? place = some content := by
  unfold FileSystem.openFile
  cases hlocate : fs.locate .reach p with
  | error cause => simp
  | ok there =>
      rw [Except.ok.injEq]
      constructor
      · intro h
        dsimp only at h
        split at h
        · next hentry =>
            obtain ⟨rfl, rfl⟩ := Prod.mk.inj (Except.ok.inj h)
            rw [FileSystem.contentAt?, hentry]
            exact ⟨rfl, rfl⟩
        · next kind hentry =>
            cases hread : kind.read with
            | error cause =>
                rw [hread] at h
                exact nomatch h
            | ok bytes =>
                rw [hread] at h
                obtain ⟨rfl, rfl⟩ := Prod.mk.inj (Except.ok.inj h)
                exact ⟨rfl, (FileSystem.contentAt?_of_device hentry _).mpr hread⟩
        · exact nomatch h
        · exact nomatch h
      · rintro ⟨rfl, h⟩
        dsimp only
        cases hentry : fs.entryOf? there with
        | none =>
            rw [FileSystem.contentAt?, hentry] at h
            exact nomatch h
        | some entry =>
            cases entry with
            | device kind =>
                dsimp only
                rw [(FileSystem.contentAt?_of_device hentry content).mp h]
                rfl
            | file bytes executable =>
                rw [FileSystem.contentAt?, hentry] at h
                rw [← Option.some.inj h]
            | directory | link =>
                rw [FileSystem.contentAt?, hentry] at h
                exact nomatch h

/-- Reading a path is opening it, wherever it leads. -/
theorem contents_eq_ok_iff {p : Path} {content : Bytes} :
    fs.contents p = .ok content ↔ ∃ place, fs.openFile p = .ok (place, content) := by
  unfold FileSystem.contents
  constructor
  · intro h
    cases hopen : fs.openFile p with
    | error cause =>
        rw [hopen] at h
        exact nomatch h
    | ok opened =>
        rw [hopen] at h
        obtain rfl : opened.2 = content := Except.ok.inj h
        exact ⟨opened.1, rfl⟩
  · rintro ⟨place, h⟩
    rw [h]
    rfl

/-- A path can be read if it can be opened. -/
theorem readable_iff {p : Path} :
    fs.Readable p ↔ ∃ place content, fs.openFile p = .ok (place, content) := by
  unfold FileSystem.Readable
  simp only [contents_eq_ok_iff]
  exact exists_comm

/-! ## Expansion along the graph -/

/-- The file at `F` expands on a trail. -/
def Expands (fs : FileSystem) (o : BundleOptions) (trail : List Location)
    (F : Location) : Prop :=
  ∃ content, fs.contentAt? F = some content ∧
    ∃ e, expand fs o trail (scan content) = .ok e

/-- A directive of a file is resolved when its target is a file off the trail
    that expands with itself on it. -/
theorem resolve_inline_isOk_iff {trail : List Location} {d : Directive}
    (hmode : o.mode = .recursive) (hkind : d.kind = .inline) :
    (∃ out, resolve fs o trail d = .ok out) ↔
      ∃ G, fs.locate .reach (o.includePath d) = .ok G ∧ G ∉ trail ∧
        Expands fs o (trail ++ [G]) G := by
  constructor
  · rintro ⟨out, h⟩
    rcases resolve_recursive_eq_ok hmode h with ⟨hlink, -⟩ | ⟨-, hnested⟩
    · exact nomatch hkind.symm.trans hlink
    · obtain ⟨place, content, nested, hopen, hnew, hexpand, -⟩ := hnested
      obtain ⟨hlocate, hcontent⟩ := openFile_eq_ok_iff.mp hopen
      exact ⟨place, hlocate, hnew, content, hcontent, nested, hexpand⟩
  · rintro ⟨G, hlocate, hnew, content, hcontent, nested, hexpand⟩
    have hopen := openFile_eq_ok_iff.mpr ⟨hlocate, hcontent⟩
    rw [resolve_nested hkind hopen hmode hnew, hexpand]
    exact ⟨_, rfl⟩

/-- A file expands when each of its `#use` directives leads on to a file off
    the trail that expands. -/
theorem expands_iff {trail : List Location} {F : Location}
    (hmode : o.mode = .recursive) :
    Expands fs o trail F ↔ (∃ content, fs.contentAt? F = some content) ∧
      ∀ d, Uses fs F d → ∃ G, fs.locate .reach (o.includePath d) = .ok G ∧
        G ∉ trail ∧ Expands fs o (trail ++ [G]) G := by
  constructor
  · rintro ⟨content, hcontent, hexpand⟩
    refine ⟨⟨content, hcontent⟩, ?_⟩
    rintro d ⟨content', hcontent', hd, hkind⟩
    obtain rfl : content = content' :=
      Option.some.inj (hcontent.symm.trans hcontent')
    exact (resolve_inline_isOk_iff hmode hkind).mp
      (expand_isOk_iff.mp hexpand d hd)
  · rintro ⟨⟨content, hcontent⟩, huses⟩
    refine ⟨content, hcontent, expand_isOk_iff.mpr ?_⟩
    intro d hd
    cases hkind : d.kind with
    | link => exact ⟨_, resolve_link hkind⟩
    | inline =>
        exact (resolve_inline_isOk_iff hmode hkind).mpr
          (huses d ⟨content, hcontent, hd, hkind⟩)

/-- A file expands on every part of a trail that it expands on. -/
theorem Expands.mono {trail trail' : List Location} {F : Location}
    (h : Expands fs o trail F) (hsub : trail' ⊆ trail) :
    Expands fs o trail' F := by
  obtain ⟨content, hcontent, e, he⟩ := h
  exact ⟨content, hcontent, e, expand_mono he hsub⟩

/-- One edge: the file it leads to is off the trail and expands in turn. -/
theorem Expands.step {trail : List Location} {F G : Location}
    (hmode : o.mode = .recursive) (h : Expands fs o trail F)
    (hedge : Includes fs o F G) :
    G ∉ trail ∧ Expands fs o (trail ++ [G]) G := by
  obtain ⟨d, huse, hlocate⟩ := hedge
  obtain ⟨G', hlocate', hnew, hexpands⟩ := ((expands_iff hmode).mp h).2 d huse
  obtain rfl : G = G' := Except.ok.inj (hlocate.symm.trans hlocate')
  exact ⟨hnew, hexpands⟩

/-- A path: its end expands on a trail that holds it and all it started with. -/
theorem Expands.reaches {trail : List Location} {F G : Location}
    (hmode : o.mode = .recursive) (h : Expands fs o trail F) (hF : F ∈ trail)
    (hpath : Relation.ReflTransGen (Includes fs o) F G) :
    ∃ trail', trail ⊆ trail' ∧ G ∈ trail' ∧ Expands fs o trail' G := by
  induction hpath with
  | refl => exact ⟨trail, fun _ hmem => hmem, hF, h⟩
  | @tail G H _ hedge ih =>
      obtain ⟨trail', hsub, -, hexpands⟩ := ih
      refine ⟨trail' ++ [H], List.subset_append_of_subset_left _ hsub,
        List.mem_append_right _ List.mem_cons_self, ?_⟩
      exact (hexpands.step hmode hedge).2

/-- A file that expands with itself on the trail is on no cycle. -/
theorem Expands.not_cycle {F : Location} (hmode : o.mode = .recursive)
    (h : Expands fs o [F] F) : ¬ Relation.TransGen (Includes fs o) F F := by
  intro hcycle
  -- the last edge of the cycle leads to `F`, which every trail from `F` on holds
  obtain ⟨G, hpath, hedge⟩ := Relation.TransGen.tail'_iff.mp hcycle
  obtain ⟨trail, hsub, -, hexpands⟩ := h.reaches hmode List.mem_cons_self hpath
  exact (hexpands.step hmode hedge).1 (hsub List.mem_cons_self)

/-- **NO CYCLE, NO REFUSAL**: while every file of the trail leads to `F`, and
    from `F` on all includes can be read and no file leads back to itself, the
    trail forbids nothing. -/
theorem expands_of_acyclic {trail : List Location} {F : Location}
    (hmode : o.mode = .recursive) (hfile : ∃ content, fs.contentAt? F = some content)
    (htrail : ∀ T ∈ trail, Relation.ReflTransGen (Includes fs o) T F)
    (hread : ∀ G, Relation.ReflTransGen (Includes fs o) F G →
      ∀ d, Uses fs G d → fs.Readable (o.includePath d))
    (hacyclic : ∀ G, Relation.ReflTransGen (Includes fs o) F G →
      ¬ Relation.TransGen (Includes fs o) G G) :
    Expands fs o trail F := by
  -- each step puts one more file on the trail
  induction hn : (unopened fs trail).length using Nat.strongRecOn
    generalizing trail F with
  | _ n ih =>
      refine (expands_iff hmode).mpr ⟨hfile, ?_⟩
      intro d huse
      obtain ⟨G, content, hopen⟩ := readable_iff.mp (hread F .refl d huse)
      obtain ⟨hlocate, hcontent⟩ := openFile_eq_ok_iff.mp hopen
      have hedge : Includes fs o F G := ⟨d, huse, hlocate⟩
      have hnew : G ∉ trail := by
        intro hmem
        -- a file of the trail leads to `F`, and the edge would lead back to it
        exact hacyclic G (.single hedge) (Relation.TransGen.tail' (htrail G hmem) hedge)
      refine ⟨G, hlocate, hnew, ?_⟩
      have hlt : (unopened fs (trail ++ [G])).length < n := by
        rw [← hn]
        exact length_unopened_lt (fs.mem_filePlaces_of_openFile hopen) hnew
      refine ih _ hlt ⟨content, hcontent⟩ ?_ ?_ ?_ rfl
      · intro T hT
        rcases List.mem_append.mp hT with hT | hT
        · exact (htrail T hT).tail hedge
        · rw [List.mem_singleton.mp hT]
      · intro H hpath
        exact hread H (.head hedge hpath)
      · intro H hpath
        exact hacyclic H (.head hedge hpath)

/-! ## Success -/

/-- A bundle of the entry is an expansion of its file. -/
theorem bundleFile_isOk_iff {entry : Path} :
    (∃ bundle, bundleFile fs o entry = .ok bundle) ↔
      ∃ root, fs.locate .reach entry = .ok root ∧ Expands fs o [root] root := by
  constructor
  · rintro ⟨bundle, h⟩
    obtain ⟨root, content, e, hopen, he, -⟩ := bundleFile_eq_ok h
    obtain ⟨hlocate, hcontent⟩ := openFile_eq_ok_iff.mp hopen
    exact ⟨root, hlocate, content, hcontent, e, he⟩
  · rintro ⟨root, hlocate, content, hcontent, e, he⟩
    have hopen := openFile_eq_ok_iff.mpr ⟨hlocate, hcontent⟩
    exact ⟨_, bundleFile_of_expand hopen he⟩

/-- A file without directives is its own bundle. -/
theorem bundleFile_of_scan_nil {source : Bytes} {p : Path} (h : scan source = [])
    (hread : fs.contents p = .ok source) : bundleFile fs o p = .ok ⟨source, []⟩ := by
  obtain ⟨place, hopen⟩ := contents_eq_ok_iff.mp hread
  have hexpand : expand fs o [place] (scan source) = .ok ⟨[], []⟩ := by
    rw [h, expand_nil]
  rw [bundleFile_of_expand hopen hexpand, BundleOptions.settle]
  cases o.mode <;> rfl

/-- **SUCCESS**: the recursive bundle of an entry exists exactly when the entry
    can be read, every include of a file reached from it can be read, and no
    file reached from it leads back to itself. -/
theorem bundleFile_succeeds_iff (fs : FileSystem) (o : BundleOptions)
    (entry : Path) (hmode : o.mode = .recursive) :
    (∃ bundle, bundleFile fs o entry = .ok bundle) ↔
      fs.Readable entry ∧
      ∀ F, ReachedFrom fs o entry F →
        (∀ d, Uses fs F d → fs.Readable (o.includePath d)) ∧
        ¬ Relation.TransGen (Includes fs o) F F := by
  rw [bundleFile_isOk_iff]
  constructor
  · rintro ⟨root, hlocate, hexpands⟩
    constructor
    · obtain ⟨content, hcontent, -⟩ := id hexpands
      exact readable_iff.mpr ⟨root, content, openFile_eq_ok_iff.mpr ⟨hlocate, hcontent⟩⟩
    · rintro F ⟨root', hlocate', hpath⟩
      obtain rfl : root = root' := Except.ok.inj (hlocate.symm.trans hlocate')
      obtain ⟨trail, -, hF, hexpandsF⟩ :=
        hexpands.reaches hmode List.mem_cons_self hpath
      constructor
      · intro d huse
        obtain ⟨G, hlocateG, -, content, hcontent, -⟩ :=
          ((expands_iff hmode).mp hexpandsF).2 d huse
        exact readable_iff.mpr
          ⟨G, content, openFile_eq_ok_iff.mpr ⟨hlocateG, hcontent⟩⟩
      · exact (hexpandsF.mono (List.cons_subset.mpr ⟨hF, List.nil_subset _⟩)).not_cycle hmode
  · rintro ⟨hread, hreached⟩
    obtain ⟨root, content, hopen⟩ := readable_iff.mp hread
    obtain ⟨hlocate, hcontent⟩ := openFile_eq_ok_iff.mp hopen
    refine ⟨root, hlocate, expands_of_acyclic hmode ⟨content, hcontent⟩ ?_ ?_ ?_⟩
    · intro T hT
      rw [List.mem_singleton.mp hT]
    · intro G hpath
      exact (hreached G ⟨root, hlocate, hpath⟩).1
    · intro G hpath
      exact (hreached G ⟨root, hlocate, hpath⟩).2

/-- A file `a` that includes `b`, and `b`, a link back to it. -/
def selfByLink : FileSystem :=
  ⟨[([Utf8.encode "a"], .file (Utf8.encode "#use \"b\";;") false),
    ([Utf8.encode "b"], .link (Path.ofText "a"))], [], none⟩

/-- A file that includes itself is refused under whatever name it does so. -/
theorem bundleFile_selfByLink : fromRoot.mode = .recursive ∧
    ¬ ∃ bundle, bundleFile selfByLink fromRoot (Path.ofText "/a") = .ok bundle := by
  refine ⟨rfl, ?_⟩
  intro hbundle
  have hroot : selfByLink.locate .reach (Path.ofText "/a") = .ok [Utf8.encode "a"] := by
    cbv
  have huse : Uses selfByLink [Utf8.encode "a"] ⟨.inline, "b", 0, 10, 1⟩ :=
    ⟨Utf8.encode "#use \"b\";;", by decide +kernel, by decide +kernel, rfl⟩
  have hback : selfByLink.locate .reach
      (fromRoot.includePath ⟨.inline, "b", 0, 10, 1⟩) = .ok [Utf8.encode "a"] := by
    cbv
  obtain ⟨-, hreached⟩ :=
    (bundleFile_succeeds_iff selfByLink fromRoot (Path.ofText "/a") rfl).mp hbundle
  exact (hreached _ ⟨_, hroot, .refl⟩).2 (.single ⟨_, huse, hback⟩)

end SourceBundle
