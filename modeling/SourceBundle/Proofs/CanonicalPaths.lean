import SourceBundle.Proofs.Directories

/-! # Canonical paths — one for each place

    The path of a place is written with its names, a slash before each.  No walk
    leads to a name that is empty or holds a slash (`isNamed_of_locate`), so the
    places that paths lead to are told apart by these paths (`Path.ofLocation_inj`). -/

namespace SourceBundle

variable {fs : FileSystem}

/-! ## Names -/

/-- What a step can lead into: a name is not empty and holds no slash. -/
def IsName (name : Bytes) : Prop := name ≠ [] ∧ Path.slash ∉ name

/-- A place all of whose names are names. -/
def IsNamed (place : Location) : Prop := ∀ name ∈ place, IsName name

namespace Path

/-- What has no slash in it is one piece. -/
theorem split_of_not_mem {piece : Bytes} (h : slash ∉ piece) : split piece = [piece] := by
  induction piece with
  | nil => rfl
  | cons b piece ih =>
      obtain ⟨hb, hpiece⟩ := not_or.mp (mt List.mem_cons.mpr h)
      rw [split, if_neg (Ne.symm hb), ih hpiece]

/-- A piece ends at the first slash. -/
theorem split_append_slash {piece : Bytes} (h : slash ∉ piece) (rest : Bytes) :
    split (piece ++ slash :: rest) = piece :: split rest := by
  induction piece with
  | nil => rw [List.nil_append, split, if_pos rfl]
  | cons b piece ih =>
      obtain ⟨hb, hpiece⟩ := not_or.mp (mt List.mem_cons.mpr h)
      rw [List.cons_append, split, if_neg (Ne.symm hb), ih hpiece]

/-- Pieces without slashes are found again when they are put together. -/
theorem split_unsplit {pieces : List Bytes} (hne : pieces ≠ [])
    (h : ∀ piece ∈ pieces, slash ∉ piece) : split (unsplit pieces) = pieces := by
  induction pieces with
  | nil => exact absurd rfl hne
  | cons piece pieces ih =>
      have hpiece := h piece List.mem_cons_self
      cases pieces with
      | nil => exact split_of_not_mem hpiece
      | cons next pieces =>
          rw [unsplit, split_append_slash hpiece,
            ih (List.cons_ne_nil _ _) fun other hother => h other (List.mem_cons_of_mem _ hother)]
          exact List.cons_ne_nil _ _

/-- No piece has a slash in it. -/
theorem slash_not_mem_of_split {bytes piece : Bytes} (h : piece ∈ split bytes) :
    slash ∉ piece := by
  induction bytes generalizing piece with
  | nil =>
      rw [split, List.mem_singleton] at h
      rw [h]
      exact List.not_mem_nil
  | cons b rest ih =>
      obtain ⟨first, pieces, hs⟩ := List.exists_cons_of_ne_nil (split_ne_nil rest)
      rw [hs] at ih
      rw [split, hs] at h
      by_cases hb : b = slash
      · rw [if_pos hb] at h
        rcases List.mem_cons.mp h with rfl | h
        · exact List.not_mem_nil
        · exact ih h
      · rw [if_neg hb] at h
        rcases List.mem_cons.mp h with rfl | h
        · exact mt List.mem_cons.mp (not_or.mpr ⟨Ne.symm hb, ih List.mem_cons_self⟩)
        · exact ih (List.mem_cons_of_mem _ h)

/-- A step to a child is a name. -/
theorem isName_of_child_stepsOf {pieces : List Bytes} {name : Bytes}
    (hslash : ∀ piece ∈ pieces, slash ∉ piece) (h : .child name ∈ stepsOf pieces) :
    IsName name := by
  induction pieces using stepsOf.induct with
  | case1 => cases h
  | case2 =>
      rw [stepsOf, List.mem_singleton] at h
      cases h
  | case3 pieces hmore ih =>
      rw [stepsOf.eq_3 pieces hmore] at h
      exact ih (fun piece hpiece => hslash piece (List.mem_cons_of_mem _ hpiece)) h
  | case4 piece pieces hlast hne ih =>
      rw [stepsOf.eq_4 piece pieces hlast hne] at h
      rcases List.mem_cons.mp h with hstep | h
      · split at hstep
        · cases hstep
        · split at hstep
          · cases hstep
          · obtain rfl := Step.child.inj hstep
            exact ⟨hne, hslash name List.mem_cons_self⟩
      · exact ih (fun piece hpiece => hslash piece (List.mem_cons_of_mem _ hpiece)) h

/-- A path leads into names only. -/
theorem isName_of_child {p : Path} {name : Bytes} (h : .child name ∈ p.steps) :
    IsName name :=
  isName_of_child_stepsOf (fun _ => slash_not_mem_of_split) h

/-! ## One path for each place -/

theorem split_unsplit_of_isNamed {place : Location} (hne : place ≠ [])
    (hplace : IsNamed place) : split (unsplit place) = place :=
  split_unsplit hne fun name hname => (hplace name hname).2

/-- Only the root is written without a name. -/
theorem eq_nil_of_unsplit {place : Location} (hplace : IsNamed place)
    (h : unsplit place = []) : place = [] := by
  by_cases hne : place = []
  · exact hne
  · have hback := split_unsplit_of_isNamed hne hplace
    rw [h, split] at hback
    rw [← hback] at hplace
    exact absurd rfl (hplace [] List.mem_cons_self).1

/-- **CANONICAL PATHS** of different places differ. -/
theorem ofLocation_inj {place place' : Location} (hplace : IsNamed place)
    (hplace' : IsNamed place') (h : ofLocation place = ofLocation place') :
    place = place' := by
  have hsame : unsplit place = unsplit place' :=
    (List.cons.inj (congrArg bytes h)).2
  by_cases hne : place = []
  · rw [hne, unsplit] at hsame
    rw [hne, eq_nil_of_unsplit hplace' hsame.symm]
  · by_cases hne' : place' = []
    · rw [hne', unsplit] at hsame
      rw [hne', eq_nil_of_unsplit hplace hsame]
    · rw [← split_unsplit_of_isNamed hne hplace, hsame,
        split_unsplit_of_isNamed hne' hplace']

end Path

/-! ## Where paths lead -/

/-- A hop goes to a named place, and on to steps that do. -/
theorem Hop.named {links left : Nat} {here there : Location} {step : Path.Step}
    {front : List Path.Step} (h : Hop fs links here step left there front)
    (hhere : IsNamed here) (hstep : ∀ name, step = .child name → IsName name) :
    IsNamed there ∧ ∀ name, .child name ∈ front → IsName name := by
  cases h with
  | here => exact ⟨hhere, fun _ hname => nomatch hname⟩
  | directory => exact ⟨hhere, fun _ hname => nomatch hname⟩
  | up =>
      refine ⟨?_, fun _ hname => nomatch hname⟩
      intro name hname
      exact hhere name ((List.dropLast_sublist here).subset hname)
  | @child _ _ name =>
      refine ⟨?_, fun _ hname => nomatch hname⟩
      exact List.forall_mem_append.mpr
        ⟨hhere, List.forall_mem_singleton.mpr (hstep name rfl)⟩
  | @link _ _ _ target =>
      refine ⟨?_, fun _ => Path.isName_of_child⟩
      by_cases habsolute : target.isAbsolute
      · rw [if_pos habsolute]
        exact List.forall_mem_nil _
      · rw [if_neg habsolute]
        exact hhere

/-- Walks along names stay at places that are named. -/
theorem Leads.named {links : Nat} {here place : Location} {steps : List Path.Step}
    (h : Leads fs links here steps place) (hhere : IsNamed here)
    (hsteps : ∀ name, .child name ∈ steps → IsName name) : IsNamed place := by
  induction h with
  | arrived => exact hhere
  | @hop _ _ _ _ _ step steps front _ hhop _ ih =>
      obtain ⟨hthere, hfront⟩ := hhop.named hhere fun name hname =>
        hsteps name (hname ▸ List.mem_cons_self)
      refine ih hthere fun name hname => ?_
      rcases List.mem_append.mp hname with hname | hname
      · exact hfront name hname
      · exact hsteps name (List.mem_cons_of_mem _ hname)

/-- Seen from a named directory, paths lead to named places. -/
theorem isNamed_of_locate (hdir : IsNamed fs.workingDir) {p : Path} {place : Location}
    (h : fs.locate .reach p = .ok place) : IsNamed place := by
  refine (locate_eq_ok_iff.mp h).2.named ?_ fun _ => Path.isName_of_child
  unfold FileSystem.origin
  by_cases habsolute : p.isAbsolute
  · rw [if_pos habsolute]
    exact List.forall_mem_nil _
  · rw [if_neg habsolute]
    exact hdir

end SourceBundle
