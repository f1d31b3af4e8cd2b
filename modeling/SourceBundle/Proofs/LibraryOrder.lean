import SourceBundle.Backend
import SourceBundle.Proofs.IncludeGraph

/-! # The order of libraries — a depth-first walk, each library once

    `Walk fs o ds libraries` reads the libraries off the include tree below
    some directives: in their order, descending into each `#use` where it
    stands, as often as it stands there, and leaving out nothing.  No trail and
    no bundle occur in it.

    An expansion collects the walk of its directives (`walk_of_expand`).  Only
    the finished bundle leaves out what was named before
    (`libraries_of_bundleFile`). -/

namespace SourceBundle

variable {fs : FileSystem} {o : BundleOptions} {α : Type} [DecidableEq α]

/-! ## The walk -/

/-- The libraries met below some directives, depth first. -/
inductive Walk (fs : FileSystem) (o : BundleOptions) :
    List Directive → (libraries : List String) → Prop where
  | done : Walk fs o [] []
  | load {d : Directive} {ds : List Directive} {rest : List String} :
      d.kind = .link → Walk fs o ds rest →
      Walk fs o (d :: ds) (o.library d :: rest)
  | use {d : Directive} {ds : List Directive} {content : Bytes}
      {inside rest : List String} :
      d.kind = .inline → fs.contents (o.includePath d) = .ok content →
      Walk fs o (scan content) inside → Walk fs o ds rest →
      Walk fs o (d :: ds) (inside ++ rest)

/-- There is one walk at most. -/
theorem Walk.unique {ds : List Directive} {libraries libraries' : List String}
    (h : Walk fs o ds libraries) (h' : Walk fs o ds libraries') :
    libraries = libraries' := by
  induction h generalizing libraries' with
  | done =>
      cases h'
      rfl
  | load hkind hrest ih =>
      cases h' with
      | load _ hrest' => rw [ih hrest']
      | use hkind' => cases hkind.symm.trans hkind'
  | use hkind hread hinside hrest ihinside ihrest =>
      cases h' with
      | load hkind' => cases hkind.symm.trans hkind'
      | use _ hread' hinside' hrest' =>
          obtain rfl := Except.ok.inj (hread.symm.trans hread')
          rw [ihinside hinside', ihrest hrest']

/-- **AN EXPANSION WALKS**: in recursive mode it collects the libraries of the
    whole tree below its directives, on whatever trail. -/
theorem walk_of_expand {trail : List Location} {ds : List Directive}
    {e : Expansion} (hmode : o.mode = .recursive)
    (h : expand fs o trail ds = .ok e) : Walk fs o ds e.libraries := by
  -- as the expansion recurses: into the file of a `#use`, and on to the next directive
  rw [expand_eq_ok_iff] at h
  induction h with
  | nil => exact .done
  | link hkind _ ih => exact .load hkind ih
  | single _ _ hsingle => cases hmode.symm.trans hsingle
  | @nested _ d _ place content _ _ hkind hopen _ _ _ _ ihinner ih =>
      have hread : fs.contents (o.includePath d) = .ok content := by
        rw [FileSystem.contents, hopen]
        rfl
      exact .use hkind hread ihinner ih

/-! ## First occurrences -/

/-- First occurrences are those of the list that were not seen before. -/
theorem mem_firstOccurrences {seen l : List α} {a : α} :
    a ∈ firstOccurrences seen l ↔ a ∈ l ∧ a ∉ seen := by
  induction l generalizing seen with
  | nil => simp [firstOccurrences]
  | cons b l ih =>
      rw [firstOccurrences]
      split
      · next hb =>
          rw [ih, List.mem_cons]
          constructor
          · rintro ⟨ha, hnew⟩
            exact ⟨.inr ha, hnew⟩
          · rintro ⟨rfl | ha, hnew⟩
            · exact absurd hb hnew
            · exact ⟨ha, hnew⟩
      · next hb =>
          rw [List.mem_cons, ih, List.mem_cons, List.mem_cons]
          constructor
          · rintro (rfl | ⟨ha, hnew⟩)
            · exact ⟨.inl rfl, hb⟩
            · exact ⟨.inr ha, fun h => hnew (.inr h)⟩
          · rintro ⟨rfl | ha, hnew⟩
            · exact .inl rfl
            · by_cases hab : a = b
              · exact .inl hab
              · exact .inr ⟨ha, fun h => h.elim hab hnew⟩

/-- The elements stay in the order of their first places. -/
theorem pairwise_firstOccurrences (seen l : List α) :
    (firstOccurrences seen l).Pairwise fun a b => l.idxOf a < l.idxOf b := by
  -- what is kept of the rest differs from the head, so its places go up by one
  induction l generalizing seen with
  | nil => exact .nil
  | cons b l ih =>
      rw [firstOccurrences]
      split
      · next hb =>
          refine (ih seen).imp_of_mem ?_
          intro a a' ha ha' hlt
          have hne : a ≠ b := fun h => (mem_firstOccurrences.mp ha).2 (h ▸ hb)
          have hne' : a' ≠ b := fun h => (mem_firstOccurrences.mp ha').2 (h ▸ hb)
          rw [List.idxOf_cons_ne l hne.symm, List.idxOf_cons_ne l hne'.symm]
          exact Nat.succ_lt_succ hlt
      · next hb =>
          have hother : ∀ a ∈ firstOccurrences (b :: seen) l, a ≠ b := by
            rintro a ha rfl
            exact (mem_firstOccurrences.mp ha).2 List.mem_cons_self
          refine List.pairwise_cons.mpr ⟨?_, (ih _).imp_of_mem ?_⟩
          · intro a ha
            rw [List.idxOf_cons_self, List.idxOf_cons_ne l (hother a ha).symm]
            exact Nat.succ_pos _
          · intro a a' ha ha' hlt
            rw [List.idxOf_cons_ne l (hother a ha).symm,
              List.idxOf_cons_ne l (hother a' ha').symm]
            exact Nat.succ_lt_succ hlt

/-- A list with every element removed that stands somewhere before. -/
def withoutRepetitions (l : List α) : List α :=
  (l.zipIdx.filter fun x => x.1 ∉ l.take x.2).map (·.1)

/-- What has been seen is what stands before. -/
theorem firstOccurrences_eq_filter {seen : List α} (before l : List α)
    (hseen : ∀ a, a ∈ seen ↔ a ∈ before) :
    firstOccurrences seen l
      = ((l.zipIdx before.length).filter fun x =>
          x.1 ∉ (before ++ l).take x.2).map (·.1) := by
  induction l generalizing seen before with
  | nil => rfl
  | cons b l ih =>
      have happend : before ++ b :: l = (before ++ [b]) ++ l := by simp
      have hlen : before.length + 1 = (before ++ [b]).length := by simp
      have htake : (before ++ b :: l).take before.length = before :=
        List.take_left
      rw [firstOccurrences, List.zipIdx_cons]
      by_cases hb : b ∈ before
      · rw [if_pos ((hseen b).mpr hb), List.filter_cons_of_neg (by simpa [htake] using hb),
          happend, hlen]
        refine ih _ fun a => ?_
        rw [hseen, List.mem_append, List.mem_singleton]
        exact ⟨.inl, fun h => h.elim id fun hab => hab ▸ hb⟩
      · rw [if_neg (mt (hseen b).mp hb), List.filter_cons_of_pos (by simpa [htake] using hb),
          List.map_cons, happend, hlen]
        refine congrArg (b :: ·) (ih _ fun a => ?_)
        rw [List.mem_cons, hseen, List.mem_append, List.mem_singleton, or_comm]

/-- Seen from the start, first occurrences are what is left without repetitions. -/
theorem firstOccurrences_eq_withoutRepetitions (l : List α) :
    firstOccurrences [] l = withoutRepetitions l :=
  firstOccurrences_eq_filter [] l fun _ => Iff.rfl

/-- Only which elements have been seen matters. -/
theorem firstOccurrences_congr {seen seen' l : List α}
    (h : ∀ a, a ∈ seen ↔ a ∈ seen') :
    firstOccurrences seen l = firstOccurrences seen' l := by
  rw [firstOccurrences_eq_filter seen' l h,
    firstOccurrences_eq_filter seen' l fun _ => Iff.rfl]

/-- Behind a list its elements have been seen. -/
theorem firstOccurrences_append (seen l l' : List α) :
    firstOccurrences seen (l ++ l')
      = firstOccurrences seen l ++ firstOccurrences (l ++ seen) l' := by
  induction l generalizing seen with
  | nil => rfl
  | cons b l ih =>
      rw [List.cons_append, firstOccurrences, firstOccurrences]
      by_cases hb : b ∈ seen
      · rw [if_pos hb, if_pos hb, ih]
        refine congrArg (_ ++ ·) (firstOccurrences_congr fun a => ?_)
        rw [List.cons_append, List.mem_cons, List.mem_append]
        constructor
        · exact .inr
        · rintro (rfl | h)
          · exact .inr hb
          · exact h
      · rw [if_neg hb, if_neg hb, ih, List.cons_append]
        refine congrArg (_ :: _ ++ ·) (firstOccurrences_congr fun a => ?_)
        simp only [List.mem_append, List.mem_cons, List.cons_append]
        exact or_left_comm

/-- Leaving repetitions out before a map changes nothing: what is equal stays equal. -/
theorem firstOccurrences_map {β : Type} [DecidableEq β] {f : α → β} {seen l : List α}
    {seen' : List β} (h : ∀ a ∈ seen, f a ∈ seen') :
    firstOccurrences seen' ((firstOccurrences seen l).map f)
      = firstOccurrences seen' (l.map f) := by
  induction l generalizing seen seen' with
  | nil => rfl
  | cons b l ih =>
      rw [firstOccurrences, List.map_cons, firstOccurrences]
      by_cases hb : b ∈ seen
      · rw [if_pos hb, if_pos (h b hb), ih h]
      · rw [if_neg hb, List.map_cons, firstOccurrences]
        by_cases hb' : f b ∈ seen'
        · rw [if_pos hb', if_pos hb', ih (List.forall_mem_cons.mpr ⟨hb', h⟩)]
        · have hcons : ∀ a ∈ b :: seen, f a ∈ f b :: seen' :=
            List.forall_mem_cons.mpr
              ⟨List.mem_cons_self, fun a ha => List.mem_cons_of_mem _ (h a ha)⟩
          rw [if_neg hb', if_neg hb', ih hcons]

/-- Leaving repetitions out first changes nothing. -/
theorem firstOccurrences_firstOccurrences {seen seen' l : List α} (h : seen ⊆ seen') :
    firstOccurrences seen' (firstOccurrences seen l) = firstOccurrences seen' l := by
  have hmap := firstOccurrences_map (f := id) (l := l) fun a ha => h ha
  rwa [List.map_id, List.map_id] at hmap

/-- Two lists without repetitions, one behind the other, have the first
    occurrences of the lists they come from. -/
theorem withoutRepetitions_append (l l' : List α) :
    withoutRepetitions (withoutRepetitions l ++ withoutRepetitions l')
      = withoutRepetitions (l ++ l') := by
  simp only [← firstOccurrences_eq_withoutRepetitions]
  rw [firstOccurrences_append, firstOccurrences_append,
    firstOccurrences_firstOccurrences (List.nil_subset _),
    firstOccurrences_firstOccurrences (List.nil_subset _)]
  refine congrArg (_ ++ ·) (firstOccurrences_congr fun a => ?_)
  simp [mem_firstOccurrences]

/-! ## The rewrite of names -/

/-- A name with the old ending has the new one afterwards. -/
theorem SuffixSwap.apply_append (r : SuffixSwap) (stem : String) :
    r.apply (stem ++ r.old) = stem ++ r.new := by
  have hsuffix : r.old.toList.isSuffixOf (stem.toList ++ r.old.toList) = true :=
    List.isSuffixOf_iff_suffix.mpr (List.suffix_append _ _)
  simp only [SuffixSwap.apply, String.toList_append, if_pos hsuffix,
    List.length_append, Nat.add_sub_cancel, List.take_left]
  rw [String.ofList_append, String.ofList_toList, String.ofList_toList]

/-- A name without the old ending stays. -/
theorem SuffixSwap.apply_of_not_suffix {r : SuffixSwap} {name : String}
    (h : ¬ r.old.toList <:+ name.toList) : r.apply name = name := by
  have hsuffix : ¬ r.old.toList.isSuffixOf name.toList = true := by
    rw [List.isSuffixOf_iff_suffix]
    exact h
  simp only [SuffixSwap.apply, if_neg hsuffix]

/-- The name of a native archive is not that of a bytecode archive. -/
theorem not_bytecode_of_native (stem : String) :
    ¬ ".cma".toList <:+ (stem ++ ".cmxa").toList := by
  rintro ⟨front, hfront⟩
  -- the letters before the last `a` are `m` and `x`
  have hlast := congrArg (fun l => (l.reverse.drop 1).head?) hfront
  simp [String.toList_append] at hlast

/-- The two archives of one library have the same name in a native build. -/
theorem library_native {d d' : Directive} {stem : String}
    (hswap : o.swap = Backend.native.librarySwap) (hd : d.path = stem ++ ".cma")
    (hd' : d'.path = stem ++ ".cmxa") :
    o.library d = stem ++ ".cmxa" ∧ o.library d' = stem ++ ".cmxa" := by
  simp only [BundleOptions.library, hswap, Backend.librarySwap, hd, hd']
  constructor
  · exact SuffixSwap.apply_append ⟨".cma", ".cmxa"⟩ stem
  · exact SuffixSwap.apply_of_not_suffix (not_bytecode_of_native stem)

/-! ## The libraries of a bundle -/

/-- **EACH LIBRARY ONCE**: the libraries of a recursive bundle are those of the
    one depth-first walk of its include tree, without repetitions; so they are
    distinct, none is lost, and they stand in the order in which they are met
    first.  They are compared as the compiler gets them, so that in a native
    build the two archives of a library are one. -/
theorem libraries_of_bundleFile (fs : FileSystem) (o : BundleOptions)
    (entry : Path) (bundle : Bundle) (hmode : o.mode = .recursive)
    (h : bundleFile fs o entry = .ok bundle) :
    ∃ content walk, fs.contents entry = .ok content ∧
      Walk fs o (scan content) walk ∧
      (∀ walk', Walk fs o (scan content) walk' → walk' = walk) ∧
      bundle.libraries = withoutRepetitions walk ∧
      bundle.libraries.Nodup ∧
      (∀ library, library ∈ bundle.libraries ↔ library ∈ walk) ∧
      (bundle.libraries.Pairwise fun a b => walk.idxOf a < walk.idxOf b) ∧
      (o.swap = Backend.native.librarySwap → ∀ d d' stem,
        d.path = stem ++ ".cma" → d'.path = stem ++ ".cmxa" →
        o.library d = o.library d') := by
  obtain ⟨place, content, e, hopen, he, rfl⟩ := bundleFile_eq_ok h
  have hwalk := walk_of_expand hmode he
  have hlibraries : (o.settle (e.bundle content)).libraries
      = firstOccurrences [] e.libraries := by
    rw [BundleOptions.settle, hmode]
    rfl
  have horder := pairwise_firstOccurrences [] e.libraries
  rw [hlibraries]
  refine ⟨content, e.libraries, ?_, hwalk, fun _ h' => h'.unique hwalk,
    firstOccurrences_eq_withoutRepetitions _, ?_, ?_, horder, ?_⟩
  · rw [FileSystem.contents, hopen]
    rfl
  · refine horder.imp ?_
    rintro a _ hlt rfl
    exact lt_irrefl _ hlt
  · intro library
    simp [mem_firstOccurrences]
  · intro hswap d d' stem hd hd'
    obtain ⟨hd, hd'⟩ := library_native hswap hd hd'
    rw [hd, hd']

/-- A file `m` that includes `a` twice and asks for a library of it in between. -/
def sharedLibrary : FileSystem :=
  ⟨[([Utf8.encode "m"],
      .file (Utf8.encode "#use \"a\";;#load \"x.cmxa\";;#use \"a\";;") false),
    ([Utf8.encode "a"],
      .file (Utf8.encode "#load \"x.cma\";;#load \"y.cma\";;") false)], [], none⟩

/-- Recursive bundling with paths seen from the root, for a native build. -/
def recursiveNative : BundleOptions :=
  ⟨Path.ofText "/", .recursive, Backend.native.librarySwap⟩

theorem bundleFile_sharedLibrary :
    bundleFile sharedLibrary recursiveNative (Path.ofText "/m")
      = .ok ⟨[], ["x.cmxa", "y.cmxa"]⟩ := by
  have hopen : sharedLibrary.openFile (Path.ofText "/m") = .ok ([Utf8.encode "m"],
      Utf8.encode "#use \"a\";;#load \"x.cmxa\";;#use \"a\";;") := by
    cbv
  have hopenA : ∀ start stop, sharedLibrary.openFile
      (recursiveNative.includePath ⟨.inline, "a", start, stop, 1⟩)
      = .ok ([Utf8.encode "a"], Utf8.encode "#load \"x.cma\";;#load \"y.cma\";;") := by
    intro start stop
    cbv
  have hscan : scan (Utf8.encode "#use \"a\";;#load \"x.cmxa\";;#use \"a\";;")
      = [⟨.inline, "a", 0, 10, 1⟩, ⟨.link, "x.cmxa", 10, 26, 1⟩,
        ⟨.inline, "a", 26, 36, 1⟩] := by
    decide +kernel
  have hscanA : scan (Utf8.encode "#load \"x.cma\";;#load \"y.cma\";;")
      = [⟨.link, "x.cma", 0, 15, 1⟩, ⟨.link, "y.cma", 15, 30, 1⟩] := by
    decide +kernel
  have ha : ∀ start stop, resolve sharedLibrary recursiveNative [[Utf8.encode "m"]]
      ⟨.inline, "a", start, stop, 1⟩ = .ok ([], ["x.cmxa", "y.cmxa"]) := by
    intro start stop
    rw [resolve_nested rfl (hopenA start stop) rfl (by decide +kernel), hscanA,
      expand_cons_of_ok (resolve_link rfl)
        (expand_cons_of_ok (resolve_link rfl) (expand_nil _))]
    rfl
  have hexpand := expand_cons_of_ok (ha 0 10) (expand_cons_of_ok
    (resolve_link (d := ⟨.link, "x.cmxa", 10, 26, 1⟩) rfl)
    (expand_cons_of_ok (ha 26 36) (expand_nil _)))
  rw [← hscan] at hexpand
  rw [bundleFile_of_expand hopen hexpand]
  rfl

/-- The walk meets `x` three times and `y` twice. -/
theorem libraries_of_sharedLibrary : recursiveNative.mode = .recursive ∧
    bundleFile sharedLibrary recursiveNative (Path.ofText "/m")
      = .ok ⟨[], ["x.cmxa", "y.cmxa"]⟩ ∧
    ∃ content walk, sharedLibrary.contents (Path.ofText "/m") = .ok content ∧
      Walk sharedLibrary recursiveNative (scan content) walk ∧
      ["x.cmxa", "y.cmxa"] = withoutRepetitions walk := by
  obtain ⟨content, walk, hread, hwalk, -, hlibraries, -⟩ :=
    libraries_of_bundleFile sharedLibrary recursiveNative (Path.ofText "/m") _ rfl
      bundleFile_sharedLibrary
  exact ⟨rfl, bundleFile_sharedLibrary, content, walk, hread, hwalk, hlibraries⟩

end SourceBundle
