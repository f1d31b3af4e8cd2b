import SourceBundle.Proofs.CanonicalPaths
import SourceBundle.Proofs.DepthFirst

/-! # Include cycles — a reported chain is one of the include graph

    A bundling is refused for a cycle with the files that lead to a directive and
    the file it names.  The former are an include path from the entry, none twice,
    and the latter is among them.  So whatever was walked and left again before, the
    chain that is reported goes along edges of the include graph, from the entry on,
    and its end comes back to it (`includeCycle_of_bundleFile`). -/

namespace SourceBundle

variable {fs : FileSystem} {o : BundleOptions}

/-- A refusal for a cycle is that of some meeting. -/
theorem meeting_of_includeCycle {trail : List Location} {source : Bytes}
    {chain : List Path}
    (h : bundleFrom fs o trail source = .error (.includeCycle chain)) :
    ∃ m ∈ meetings fs o source trail (scan source), ∃ place content,
      m.directive.kind = .inline ∧
      fs.openFile (o.includePath m.directive) = .ok (place, content) ∧
      place ∈ m.trail ∧ chain = (m.trail ++ [place]).map Path.ofLocation := by
  obtain ⟨before, m, after, hwalk, -, hrefused⟩ := bundleFrom_eq_error_iff.mp h
  have hm : m ∈ meetings fs o source trail (scan source) := by
    rw [hwalk]
    exact List.mem_append_right _ List.mem_cons_self
  cases hrefused with
  | cycle _ hkind hopen hmem => exact ⟨m, hm, _, _, hkind, hopen, hmem, rfl⟩

/-- Behind the first one, the files of a chain of includes are what paths lead to. -/
theorem located_of_isChain {root : Location} {rest : List Location}
    (h : (root :: rest).IsChain (Includes fs o)) :
    ∀ place ∈ rest, ∃ p, fs.locate .reach p = .ok place := by
  induction rest generalizing root with
  | nil => exact List.forall_mem_nil _
  | cons next rest ih =>
      obtain ⟨⟨d, -, hlocate⟩, hrest⟩ := List.isChain_cons_cons.mp h
      exact List.forall_mem_cons.mpr ⟨⟨_, hlocate⟩, ih hrest⟩

/-- Different files of a chain of includes have different paths. -/
theorem nodup_paths {entry : Path} {root : Location} {path : List Location}
    (hdir : IsNamed fs.workingDir) (hlocate : fs.locate .reach entry = .ok root)
    (hchain : (root :: path).IsChain (Includes fs o)) (hdistinct : (root :: path).Nodup) :
    ((root :: path).map Path.ofLocation).Nodup := by
  have hnamed : ∀ place ∈ root :: path, IsNamed place := by
    refine List.forall_mem_cons.mpr ⟨isNamed_of_locate hdir hlocate, ?_⟩
    intro place hplace
    obtain ⟨p, hp⟩ := located_of_isChain hchain place hplace
    exact isNamed_of_locate hdir hp
  refine hdistinct.map_on ?_
  intro place hplace place' hplace' hsame
  exact Path.ofLocation_inj (hnamed place hplace) (hnamed place' hplace') hsame

/-- **A REPORTED CYCLE IS REAL**: the chain goes from the entry along includes, each
    file having a `#use` directive whose path leads to the next one; no file comes
    twice before the last, and the last one has come before.  Where the names of the
    working directory are names, none of them empty or with a slash, the paths before
    the last differ as the files do. -/
theorem includeCycle_of_bundleFile {entry : Path} {chain : List Path}
    (h : bundleFile fs o entry = .error (.includeCycle chain)) :
    ∃ (root : Location) (path : List Location) (last : Location),
      fs.locate .reach entry = .ok root ∧
      chain = (root :: path ++ [last]).map Path.ofLocation ∧
      2 ≤ chain.length ∧
      (root :: path).Nodup ∧ last ∈ root :: path ∧
      (root :: path ++ [last]).IsChain (Includes fs o) ∧
      (IsNamed fs.workingDir → chain.dropLast.Nodup) := by
  cases hopen : fs.openFile entry with
  | error cause =>
      unfold bundleFile at h
      rw [hopen] at h
      cases h
  | ok opened =>
      obtain ⟨root, content⟩ := opened
      rw [bundleFile_of_open hopen] at h
      obtain ⟨hlocate, hcontent⟩ := openFile_eq_ok_iff.mp hopen
      obtain ⟨m, hm, last, inner, hkind, hlast, hmem, rfl⟩ := meeting_of_includeCycle h
      obtain ⟨hmeets, hpath, ⟨path, htrail⟩, -⟩ :=
        path_of_meeting (.single hcontent) (fun _ hd => hd) hm
      have hchain := hpath.extend hmeets hkind hlast
      have hdistinct := hpath.distinct
      rw [← htrail, List.singleton_append] at hmem hchain hdistinct ⊢
      refine ⟨root, path, last, hlocate, rfl, ?_, hdistinct, hmem, hchain, ?_⟩
      · simp
      · intro hdir
        rw [← List.map_dropLast, List.dropLast_concat]
        exact nodup_paths hdir hlocate hchain.left_of_append hdistinct

/-- What the file `m` of `roundTrip` holds. -/
def usesBoth : Bytes := Utf8.encode "#use \"a\";;#use \"b\";;"

/-- A file `m` that includes `a`, which includes nothing, and then `b`, which includes
    `m` again. -/
def roundTrip : FileSystem :=
  ⟨[([Utf8.encode "m"], .file usesBoth false),
    ([Utf8.encode "a"], .file (Utf8.encode "1") false),
    ([Utf8.encode "b"], .file (Utf8.encode "#use \"m\";;") false)], [], none⟩

/-- The walk of `m` comes to `b` with nothing met in `a`. -/
theorem meetings_usesBoth {trail : List Location} (hnew : [Utf8.encode "a"] ∉ trail) :
    meetings roundTrip fromRoot usesBoth trail (scan usesBoth)
      = ⟨usesBoth, trail, ⟨.inline, "a", 0, 10, 1⟩⟩
        :: meetings roundTrip fromRoot usesBoth trail [⟨.inline, "b", 10, 20, 1⟩] := by
  have hscan : scan usesBoth
      = [⟨.inline, "a", 0, 10, 1⟩, ⟨.inline, "b", 10, 20, 1⟩] := by
    decide +kernel
  have hscanA : scan (Utf8.encode "1") = [] := by
    decide +kernel
  have hopenA : roundTrip.openFile (fromRoot.includePath ⟨.inline, "a", 0, 10, 1⟩)
      = .ok ([Utf8.encode "a"], Utf8.encode "1") := by
    cbv
  have hdescent := descent?_eq_some_iff.mpr
    ⟨(rfl : fromRoot.mode = .recursive), rfl, hopenA, hnew⟩
  rw [hscan, meetings_cons_of_some hdescent, hscanA, meetings_nil, List.nil_append]

theorem scan_usesM : scan (Utf8.encode "#use \"m\";;") = [⟨.inline, "m", 0, 10, 1⟩] := by
  decide +kernel

/-- The cycle that is reported begins where the walk came back to. -/
theorem bundleFile_roundTrip :
    bundleFile roundTrip fromRoot (Path.ofText "/m")
      = .error (.includeCycle [Path.ofText "/m", Path.ofText "/b", Path.ofText "/m"]) := by
  have hopen : roundTrip.openFile (Path.ofText "/m") = .ok ([Utf8.encode "m"], usesBoth) := by
    cbv
  have hnew : [Utf8.encode "a"] ∉ [[Utf8.encode "m"]] := by
    decide
  have hdescent : descent? roundTrip fromRoot [[Utf8.encode "m"]] ⟨.inline, "b", 10, 20, 1⟩
      = some ([Utf8.encode "b"], Utf8.encode "#use \"m\";;") := by
    cbv
  have hback : descent? roundTrip fromRoot [[Utf8.encode "m"], [Utf8.encode "b"]]
      ⟨.inline, "m", 0, 10, 1⟩ = none := by
    cbv
  rw [bundleFile_of_open hopen, ← refusalOf_eq_some_iff, refusalOf_bundleFrom, meetings_usesBoth hnew,
    meetings_cons_of_some hdescent, scan_usesM, List.singleton_append,
    meetings_cons_of_none hback, meetings_nil, meetings_nil]
  cbv

/-- The file `a` was walked and left before: it is not on the chain. -/
theorem includeCycle_roundTrip :
    bundleFile roundTrip fromRoot (Path.ofText "/m")
      = .error (.includeCycle [Path.ofText "/m", Path.ofText "/b", Path.ofText "/m"]) ∧
    ∃ (root : Location) (path : List Location) (last : Location),
      roundTrip.locate .reach (Path.ofText "/m") = .ok root ∧
      [Path.ofText "/m", Path.ofText "/b", Path.ofText "/m"]
        = (root :: path ++ [last]).map Path.ofLocation ∧
      (root :: path).Nodup ∧ last ∈ root :: path ∧
      (root :: path ++ [last]).IsChain (Includes roundTrip fromRoot) ∧
      [Path.ofText "/m", Path.ofText "/b"].Nodup := by
  obtain ⟨root, path, last, hroot, hpaths, -, hdistinct, hback, hchain, hnames⟩ :=
    includeCycle_of_bundleFile bundleFile_roundTrip
  exact ⟨bundleFile_roundTrip, root, path, last, hroot, hpaths, hdistinct, hback, hchain,
    hnames (List.forall_mem_nil _)⟩

end SourceBundle
