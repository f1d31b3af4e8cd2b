import SourceBundle.Bundle.Store

/-! # Directories — what is made on the way to a file

    A walk is taken apart into hops.  A hop looks only at what stands at one
    place and never into a file, so a walk that arrives still arrives after
    something is put where nothing stood or a file gets another content
    (`Leads.keeps`), and a walk to a directory can be carried on from there
    (`Leads.through`).

    Making a directory with its missing parents therefore adds nothing but
    directories, and each of them is where a prefix of the path leads
    (`createDirectories_adds`).  This holds however the making ends. -/

namespace SourceBundle

variable {fs fs' : FileSystem}

/-! ## Hops -/

/-- One step of a walk from `here`, with the number of links that may still be
    followed before and after it.  The steps of a link's target come in front of
    those that are left. -/
inductive Hop (fs : FileSystem) :
    Nat → Location → Path.Step → Nat → Location → List Path.Step → Prop where
  | here {links : Nat} {here : Location} : Hop fs links here .here links here []
  | directory {links : Nat} {here : Location} :
      Hop fs links here .directory links here []
  | up {links : Nat} {here : Location} : Hop fs links here .up links here.dropLast []
  | child {links : Nat} {here : Location} {name : Bytes} {entry : Entry} :
      name.length ≤ FileSystem.maxName → fs.entryOf? (here ++ [name]) = some entry →
      (∀ target, entry ≠ .link target) →
      Hop fs links here (.child name) links (here ++ [name]) []
  | link {links : Nat} {here : Location} {name : Bytes} {target : Path} :
      name.length ≤ FileSystem.maxName →
      fs.entryOf? (here ++ [name]) = some (.link target) →
      Hop fs (links + 1) here (.child name) links
        (if target.isAbsolute then [] else here) target.steps

/-- The steps lead from `here` to `place`, at most `links` links followed. -/
inductive Leads (fs : FileSystem) : Nat → Location → List Path.Step → Location → Prop where
  | arrived {links : Nat} {here : Location} : Leads fs links here [] here
  | hop {links left : Nat} {here there place : Location} {step : Path.Step}
      {steps front : List Path.Step} :
      fs.entryOf? here = some .directory → Hop fs links here step left there front →
      Leads fs left there (front ++ steps) place → Leads fs links here (step :: steps) place

/-- A walk to a directory can be carried on from there, with the links that are
    left. -/
theorem Leads.through {links : Nat} {here dir : Location} {steps : List Path.Step}
    (h : Leads fs links here (steps ++ [.directory]) dir) :
    fs.entryOf? dir = some .directory ∧ ∃ left, ∀ more place,
      Leads fs left dir more place → Leads fs links here (steps ++ more) place := by
  generalize hall : steps ++ [.directory] = all at h
  induction h generalizing steps with
  | arrived => simp at hall
  | @hop links left here there dir step rest front hdir hhop htail ih =>
      cases steps with
      | nil =>
          -- only the slash at the end is left, and it stays where it is
          obtain ⟨rfl, rfl⟩ := List.cons.inj hall
          cases hhop
          cases htail
          exact ⟨hdir, links, fun _ _ h => h⟩
      | cons first steps =>
          obtain ⟨rfl, rfl⟩ := List.cons.inj hall
          obtain ⟨hdir', left', hon⟩ := ih (List.append_assoc front steps [.directory])
          refine ⟨hdir', left', ?_⟩
          intro more place hmore
          have hrest := hon more place hmore
          rw [List.append_assoc] at hrest
          exact .hop hdir hhop hrest

/-- A walk that goes on behind `steps` passes through a directory there. -/
theorem Leads.cut {links : Nat} {here place : Location} {steps more : List Path.Step}
    (h : Leads fs links here (steps ++ more) place) (hmore : more ≠ []) :
    ∃ dir, Leads fs links here (steps ++ [.directory]) dir := by
  generalize hall : steps ++ more = all at h
  induction h generalizing steps with
  | arrived => exact absurd (List.append_eq_nil_iff.mp hall).2 hmore
  | @hop links left here there place step rest front hdir hhop _ ih =>
      cases steps with
      | nil => exact ⟨here, .hop hdir .directory .arrived⟩
      | cons first steps =>
          obtain ⟨rfl, rfl⟩ := List.cons.inj hall
          obtain ⟨dir, hleads⟩ := ih (List.append_assoc front steps more)
          rw [List.append_assoc] at hleads
          exact ⟨dir, .hop hdir hhop hleads⟩

/-! ## Walks on a file system that is written to -/

/-- An entry with the content of a file left out: all that a walk sees of it. -/
def Entry.outline : Entry → Entry
  | .file _ _ => .file [] false
  | entry => entry

/-- Only files look alike without being the same. -/
theorem Entry.eq_of_outline {entry entry' : Entry} (h : entry'.outline = entry.outline)
    (hfile : ∀ content executable, entry ≠ .file content executable) : entry' = entry := by
  cases entry with
  | file content executable => exact absurd rfl (hfile content executable)
  | directory | link | device => cases entry' <;> first | exact h | cases h

/-- What stands on `fs` stands on `fs'`, the contents of files apart, seen from the
    same directory. -/
structure Keeps (fs fs' : FileSystem) : Prop where
  entry : ∀ place entry, fs.entryOf? place = some entry →
    ∃ entry', fs'.entryOf? place = some entry' ∧ entry'.outline = entry.outline
  workingDir : fs'.workingDir = fs.workingDir

theorem Keeps.refl (fs : FileSystem) : Keeps fs fs :=
  ⟨fun _ entry hentry => ⟨entry, hentry, rfl⟩, rfl⟩

theorem Keeps.trans {fs'' : FileSystem} (h : Keeps fs fs') (h' : Keeps fs' fs'') :
    Keeps fs fs'' := by
  refine ⟨?_, h'.workingDir.trans h.workingDir⟩
  intro place entry hentry
  obtain ⟨entry', hentry', houtline⟩ := h.entry place entry hentry
  obtain ⟨entry'', hentry'', houtline'⟩ := h'.entry place entry' hentry'
  exact ⟨entry'', hentry'', houtline'.trans houtline⟩

/-- Directories stay. -/
theorem Keeps.directory (h : Keeps fs fs') {place : Location}
    (hdir : fs.entryOf? place = some .directory) : fs'.entryOf? place = some .directory := by
  obtain ⟨entry', hentry', houtline⟩ := h.entry place _ hdir
  rw [hentry', Entry.eq_of_outline houtline (by simp)]

/-- Links stay and lead to the same target. -/
theorem Keeps.link (h : Keeps fs fs') {place : Location} {target : Path}
    (hlink : fs.entryOf? place = some (.link target)) :
    fs'.entryOf? place = some (.link target) := by
  obtain ⟨entry', hentry', houtline⟩ := h.entry place _ hlink
  rw [hentry', Entry.eq_of_outline houtline (by simp)]

/-- A hop looks at nothing that is changed. -/
theorem Hop.keeps (h : Keeps fs fs') {links left : Nat} {here there : Location}
    {step : Path.Step} {front : List Path.Step} (hhop : Hop fs links here step left there front) :
    Hop fs' links here step left there front := by
  cases hhop with
  | here => exact .here
  | directory => exact .directory
  | up => exact .up
  | child hname hentry hlink =>
      obtain ⟨entry', hentry', houtline⟩ := h.entry _ _ hentry
      refine .child hname hentry' ?_
      rintro target rfl
      exact hlink target (Entry.eq_of_outline houtline.symm (by simp))
  | link hname hentry => exact .link hname (h.link hentry)

/-- A walk that arrives still arrives. -/
theorem Leads.keeps (h : Keeps fs fs') {links : Nat} {here place : Location}
    {steps : List Path.Step} (hleads : Leads fs links here steps place) :
    Leads fs' links here steps place := by
  induction hleads with
  | arrived => exact .arrived
  | hop hdir hhop _ ih => exact .hop (h.directory hdir) (hhop.keeps h) ih

/-- A walk leads to where it arrives.  If it may create a file, it leads there once the
    file stands there. -/
theorem leads_of_walk {purpose : FileSystem.Purpose} (hkeeps : Keeps fs fs') {links : Nat}
    {here place : Location} {steps : List Path.Step}
    (h : fs.walk purpose links here steps = .ok place)
    (hthere : purpose = .create → ∃ entry, fs'.entryOf? place = some entry ∧
      ∀ target, entry ≠ .link target) :
    Leads fs' links here steps place := by
  fun_induction FileSystem.walk fs purpose links here steps with
  | case1 =>
      obtain rfl := Except.ok.inj h
      exact .arrived
  | case3 _ _ _ hdir ih =>
      exact .hop (hkeeps.directory (Classical.not_not.mp hdir)) .here (ih h)
  | case4 _ _ _ hdir ih =>
      exact .hop (hkeeps.directory (Classical.not_not.mp hdir)) .directory (ih h)
  | case5 _ _ _ hdir ih =>
      exact .hop (hkeeps.directory (Classical.not_not.mp hdir)) .up (ih h)
  | case8 _ _ _ hdir _ _ hname _ hcreate =>
      -- the file is new: nothing is left of the steps, and now its name can be taken
      obtain ⟨hpurpose, rfl⟩ := hcreate
      obtain ⟨entry, hentry, hlink⟩ := hthere hpurpose
      obtain rfl := Except.ok.inj h
      exact .hop (hkeeps.directory (Classical.not_not.mp hdir))
        (.child (Nat.not_lt.mp hname) hentry hlink) .arrived
  | case11 _ _ hdir _ _ hname _ htarget _ ih =>
      exact .hop (hkeeps.directory (Classical.not_not.mp hdir))
        (.link (Nat.not_lt.mp hname) (hkeeps.link htarget)) (ih h)
  | case12 _ _ _ hdir _ _ hname _ hplain hchild ih =>
      exact .hop (hkeeps.directory (Classical.not_not.mp hdir))
        ((Hop.child (Nat.not_lt.mp hname) hchild hplain).keeps hkeeps) (ih h)
  | case2 | case6 | case7 | case9 | case10 => cases h

/-- Steps are walked to where they lead, for a file to be created if it is no directory. -/
theorem walk_of_leads {purpose : FileSystem.Purpose} {links : Nat} {here place : Location}
    {steps : List Path.Step} (h : Leads fs links here steps place)
    (hplace : purpose = .create → fs.entryOf? place ≠ some .directory) :
    fs.walk purpose links here steps = .ok place := by
  induction h with
  | arrived => rw [FileSystem.walk]
  | @hop links left here there place step steps front hdir hhop htail ih =>
      -- a slash at the end would have led to a directory
      have hslash : ¬ (purpose = .create ∧ steps = [.directory]) := by
        rintro ⟨hcreate, rfl⟩
        exact hplace hcreate htail.through.1
      cases hhop with
      | here | directory | up => simpa [FileSystem.walk, hdir] using ih hplace
      | child hname hentry hlink =>
          simp only [FileSystem.walk, hdir, hentry, if_neg hslash]
          simpa [Nat.not_lt.mpr hname] using ih hplace
      | link hname hentry =>
          simp only [FileSystem.walk, hdir, hentry, if_neg hslash]
          simpa [Nat.not_lt.mpr hname] using ih hplace

/-- Walks to what stands somewhere are the ones that lead there. -/
theorem walk_eq_ok_iff {links : Nat} {here place : Location} {steps : List Path.Step} :
    fs.walk .reach links here steps = .ok place ↔ Leads fs links here steps place :=
  ⟨fun h => leads_of_walk (.refl fs) h nofun, fun h => walk_of_leads h nofun⟩

theorem origin_keeps (h : Keeps fs fs') (p : Path) : fs'.origin p = fs.origin p := by
  rw [FileSystem.origin, FileSystem.origin, h.workingDir]

theorem locate_eq_ok_iff_walk {purpose : FileSystem.Purpose} {p : Path} {place : Location} :
    fs.locate purpose p = .ok place ↔ FileSystem.checkPath p = .ok () ∧
      fs.walk purpose FileSystem.maxLinks (fs.origin p) p.steps = .ok place := by
  rw [FileSystem.locate]
  cases FileSystem.checkPath p with
  | error cause => simp [bind, Except.bind]
  | ok => simp [bind, Except.bind]

/-- A path leads to a place if it is one and its steps lead there. -/
theorem locate_eq_ok_iff {p : Path} {place : Location} :
    fs.locate .reach p = .ok place ↔ FileSystem.checkPath p = .ok () ∧
      Leads fs FileSystem.maxLinks (fs.origin p) p.steps place := by
  rw [locate_eq_ok_iff_walk, walk_eq_ok_iff]

/-- A path that leads to a place still does when files have other contents and more
    stands around it. -/
theorem locate_keeps (h : Keeps fs fs') {p : Path} {place : Location}
    (hlocate : fs.locate .reach p = .ok place) : fs'.locate .reach p = .ok place := by
  obtain ⟨hcheck, hleads⟩ := locate_eq_ok_iff.mp hlocate
  refine locate_eq_ok_iff.mpr ⟨hcheck, ?_⟩
  rw [origin_keeps h]
  exact hleads.keeps h

/-! ## Walks on a file system that grows -/

/-- All that stands on `fs` stands on `fs'`, seen from the same directory. -/
structure Grows (fs fs' : FileSystem) : Prop where
  entry : ∀ place entry, fs.entryOf? place = some entry → fs'.entryOf? place = some entry
  workingDir : fs'.workingDir = fs.workingDir

theorem Grows.keeps (h : Grows fs fs') : Keeps fs fs' :=
  ⟨fun place entry hentry => ⟨entry, h.entry place entry hentry, rfl⟩, h.workingDir⟩

/-- Something new where nothing stood leaves all else standing. -/
theorem grows_insert {place : Location} (hnone : fs.entryOf? place = none) (entry : Entry) :
    Grows fs (fs.insert place entry) := by
  refine ⟨?_, rfl⟩
  intro other e he
  have hne : other ≠ place := by
    rintro rfl
    cases hnone.symm.trans he
  rw [FileSystem.entryOf?_insert_of_ne fs hne, he]

/-- What can be read still reads the same. -/
theorem contents_grows (h : Grows fs fs') {p : Path} {content : Bytes}
    (hread : fs.contents p = .ok content) : fs'.contents p = .ok content := by
  suffices hopen : fs'.openFile p = fs.openFile p by
    rw [FileSystem.contents, hopen]
    exact hread
  unfold FileSystem.contents FileSystem.openFile at hread
  unfold FileSystem.openFile
  cases hlocate : fs.locate .reach p with
  | error cause =>
      rw [hlocate] at hread
      cases hread
  | ok place =>
      rw [hlocate] at hread
      rw [locate_keeps h.keeps hlocate]
      cases hentry : fs.entryOf? place with
      | none =>
          simp only [hentry] at hread
          cases hread
      | some entry =>
          dsimp only
          rw [h.entry place entry hentry, hentry]

/-! ## One directory -/

/-- Steps with the slash at their end left out. -/
theorem steps_of_body {steps body : List Path.Step}
    (h : (if steps.getLast? = some .directory then steps.dropLast else steps) = body) :
    steps = body ∨ steps = body ++ [.directory] := by
  by_cases hslash : steps.getLast? = some .directory
  · rw [if_pos hslash] at h
    obtain ⟨front, hfront⟩ := List.getLast?_eq_some_iff.mp hslash
    rw [hfront, List.dropLast_concat] at h
    exact .inr (h ▸ hfront)
  · rw [if_neg hslash] at h
    exact .inl h

/-- A path with a last name leads to it through the directory it stands in,
    whatever comes to stand under the name. -/
theorem lastName_eq_ok {p : Path} {dir : Location} {name : Bytes}
    (h : fs.lastName p = .ok (some (dir, name))) :
    FileSystem.checkPath p = .ok () ∧ name.length ≤ FileSystem.maxName ∧
      ∃ steps, Leads fs FileSystem.maxLinks (fs.origin p) (steps ++ [.directory]) dir ∧
        (p.steps = steps ++ [.child name] ∨
          p.steps = steps ++ [.child name, .directory]) := by
  unfold FileSystem.lastName at h
  cases hcheck : FileSystem.checkPath p with
  | error cause =>
      rw [hcheck] at h
      cases h
  | ok =>
      rw [hcheck] at h
      refine ⟨rfl, ?_⟩
      simp only [bind, Except.bind] at h
      generalize hbody : (if p.steps.getLast? = some .directory then p.steps.dropLast
        else p.steps) = body at h
      have hsteps := steps_of_body hbody
      split at h
      · cases Except.ok.inj h
      · next last hlast =>
          obtain ⟨steps, rfl⟩ := List.getLast?_eq_some_iff.mp hlast
          rw [List.dropLast_concat] at h
          split at h
          · cases h
          · next there hwalk =>
              split at h
              · next name' =>
                  split at h
                  · cases h
                  · next hname =>
                      obtain ⟨rfl, rfl⟩ := Prod.mk.inj (Option.some.inj (Except.ok.inj h))
                      refine ⟨Nat.not_lt.mp hname, steps, walk_eq_ok_iff.mp hwalk, ?_⟩
                      simpa using hsteps
              · cases Except.ok.inj h

/-- A directory is made under the last name of its path, where nothing stands. -/
theorem createDirectory_eq_ok {p : Path} (h : fs.createDirectory p = .ok fs') :
    ∃ dir name, fs.lastName p = .ok (some (dir, name)) ∧
      fs.entryOf? (dir ++ [name]) = none ∧ fs' = fs.insert (dir ++ [name]) .directory := by
  unfold FileSystem.createDirectory at h
  split at h
  · cases h
  · cases h
  · next dir name hlast =>
      split at h
      · cases h
      · next hnone => exact ⟨dir, name, hlast, hnone, (Except.ok.inj h).symm⟩

/-- The path of a new directory leads to it. -/
theorem locate_of_lastName {p : Path} {dir : Location} {name : Bytes}
    (hlast : fs.lastName p = .ok (some (dir, name)))
    (hnone : fs.entryOf? (dir ++ [name]) = none) :
    (fs.insert (dir ++ [name]) .directory).locate .reach p = .ok (dir ++ [name]) := by
  obtain ⟨hcheck, hname, steps, hleads, hsteps⟩ := lastName_eq_ok hlast
  have hgrows := grows_insert hnone .directory
  have hnew : (fs.insert (dir ++ [name]) .directory).entryOf? (dir ++ [name])
      = some .directory :=
    fs.entryOf?_insert_self (by simp) .directory
  obtain ⟨hdir, left, hon⟩ := (hleads.keeps hgrows.keeps).through
  have hchild : Hop _ left dir (.child name) left (dir ++ [name]) [] :=
    .child hname hnew (by simp)
  refine locate_eq_ok_iff.mpr ⟨hcheck, ?_⟩
  rw [origin_keeps hgrows.keeps]
  rcases hsteps with hsteps | hsteps
  · rw [hsteps]
    exact hon _ _ (.hop hdir hchild .arrived)
  · rw [hsteps]
    exact hon _ _ (.hop hdir hchild (.hop hnew .directory .arrived))

/-! ## Prefixes of a path -/

/-- The path `q` is `p` or is cut off from it between two names. -/
def Path.IsPrefixOf (q p : Path) : Prop :=
  ∃ rest, p.bytes = q.bytes ++ rest ∧
    (q.bytes = [] ∨ rest = [] ∨ q.bytes.getLast? = some slash ∨ rest.head? = some slash)

namespace Path

theorem IsPrefixOf.refl (p : Path) : p.IsPrefixOf p :=
  ⟨[], (List.append_nil _).symm, .inr (.inl rfl)⟩

theorem IsPrefixOf.trans {p q r : Path} (h : p.IsPrefixOf q) (h' : q.IsPrefixOf r) :
    p.IsPrefixOf r := by
  obtain ⟨rest, hq, hcut⟩ := h
  obtain ⟨rest', hr, hcut'⟩ := h'
  refine ⟨rest ++ rest', by rw [hr, hq, List.append_assoc], ?_⟩
  cases rest with
  | nil =>
      rw [List.append_nil] at hq
      rw [List.nil_append, ← hq]
      exact hcut'
  | cons b rest => simpa using hcut

/-- A slash stands between the pieces of two lists. -/
theorem unsplit_append {left right : List Bytes} (hleft : left ≠ []) (hright : right ≠ []) :
    unsplit (left ++ right) = unsplit left ++ slash :: unsplit right := by
  induction left with
  | nil => exact absurd rfl hleft
  | cons piece left ih =>
      cases left with
      | nil =>
          obtain ⟨next, right, rfl⟩ := List.exists_cons_of_ne_nil hright
          rfl
      | cons next left =>
          have hrest := ih (List.cons_ne_nil next left)
          simp only [List.cons_append, unsplit, List.append_assoc] at hrest ⊢
          rw [hrest]

/-- What stands in front of all names ends in a slash, is nothing or is a dot
    with a slash or nothing behind it. -/
theorem lead_cases (p : Path) : p.lead.1 = [] ∨ p.lead.1 = [slash] ∨
    p.lead.1 = dot ∧ (p.lead.2 = [] ∨ p.lead.2.head? = some slash) := by
  unfold lead
  split
  · exact .inr (.inl rfl)
  · next piece pieces _ hsplit =>
      split
      · next hdot =>
          refine .inr (.inr ⟨rfl, ?_⟩)
          rw [← unsplit_split p.bytes, hsplit, hdot]
          cases pieces with
          | nil => exact .inl rfl
          | cons => exact .inr rfl
      · exact .inl rfl
  · exact .inl rfl

/-- The pieces of a parent, and those behind it: at least the last name. -/
theorem pieces_of_parent {pieces : List Bytes} (hne : dropIdle pieces ≠ []) :
    ∃ behind, behind ≠ [] ∧
      pieces = dropIdle (dropIdle pieces).dropLast ++ behind := by
  obtain ⟨idle, hidle⟩ := dropIdle_append pieces
  obtain ⟨idle', hidle'⟩ := dropIdle_append (dropIdle pieces).dropLast
  refine ⟨idle' ++ (dropIdle pieces).getLast hne :: idle, by simp, ?_⟩
  calc pieces = (dropIdle pieces).dropLast ++ [(dropIdle pieces).getLast hne] ++ idle := by
        rw [List.dropLast_concat_getLast, hidle]
    _ = _ := by
        rw [← List.append_assoc, hidle', List.append_assoc, List.singleton_append]

/-- Taking the parent cuts a path off between two names. -/
theorem isPrefixOf_of_parent? {p q : Path} (h : p.parent? = some q) : q.IsPrefixOf p := by
  simp only [parent?] at h
  split at h
  · split at h
    · obtain rfl := Option.some.inj h
      exact ⟨p.bytes, rfl, .inl rfl⟩
    · cases h
  · next _ hne =>
      obtain rfl := Option.some.inj h
      obtain ⟨behind, hbehind, hpieces⟩ := pieces_of_parent hne
      generalize dropIdle (dropIdle (split p.lead.2)).dropLast = above at hpieces
      have hbody : p.lead.2 = unsplit (above ++ behind) := by
        rw [← hpieces, unsplit_split]
      by_cases habove : above = []
      · -- nothing is left of the body: the front alone is the parent
        subst habove
        refine ⟨p.lead.2, by simp [unsplit, lead_append], ?_⟩
        rcases p.lead_cases with hfront | hfront | ⟨-, hfront | hfront⟩
        · exact .inl (by rw [hfront]; rfl)
        · exact .inr (.inr (.inl (by rw [hfront]; rfl)))
        · exact .inr (.inl hfront)
        · exact .inr (.inr (.inr hfront))
      · refine ⟨slash :: unsplit behind, ?_, .inr (.inr (.inr rfl))⟩
        rw [← p.lead_append, List.append_assoc, ← unsplit_append habove hbehind, ← hbody]

end Path

/-! ## Directories on the way -/

/-- `fs'` is `fs` with new directories, each of them where a path leads that is
    `named`. -/
structure AddsDirectories (named : Path → Prop) (fs fs' : FileSystem) : Prop where
  workingDir : fs'.workingDir = fs.workingDir
  limit : fs'.limit = fs.limit
  entry : ∀ place, fs'.entryOf? place = fs.entryOf? place ∨
    fs.entryOf? place = none ∧ fs'.entryOf? place = some .directory ∧
      ∃ p, named p ∧ fs'.locate .reach p = .ok place

theorem AddsDirectories.refl (named : Path → Prop) (fs : FileSystem) :
    AddsDirectories named fs fs :=
  ⟨rfl, rfl, fun _ => .inl rfl⟩

/-- All that stood still stands. -/
theorem AddsDirectories.grows {named : Path → Prop} (h : AddsDirectories named fs fs') :
    Grows fs fs' := by
  refine ⟨?_, h.workingDir⟩
  intro place entry hentry
  rcases h.entry place with hsame | ⟨hnone, -⟩
  · rw [hsame, hentry]
  · cases hnone.symm.trans hentry

theorem AddsDirectories.mono {named named' : Path → Prop} (hsub : ∀ p, named p → named' p)
    (h : AddsDirectories named fs fs') : AddsDirectories named' fs fs' := by
  refine ⟨h.workingDir, h.limit, ?_⟩
  intro place
  rcases h.entry place with hsame | ⟨hnone, hnew, p, hp, hlocate⟩
  · exact .inl hsame
  · exact .inr ⟨hnone, hnew, p, hsub p hp, hlocate⟩

/-- What is on the way to the parent is on the way to the path. -/
theorem AddsDirectories.of_parent {p parent : Path} (hparent : p.parent? = some parent)
    (h : AddsDirectories (·.IsPrefixOf parent) fs fs') :
    AddsDirectories (·.IsPrefixOf p) fs fs' :=
  h.mono fun _ hq => hq.trans (Path.isPrefixOf_of_parent? hparent)

/-- First some directories, then some more. -/
theorem AddsDirectories.trans {named : Path → Prop} {fs'' : FileSystem}
    (h : AddsDirectories named fs fs') (h' : AddsDirectories named fs' fs'') :
    AddsDirectories named fs fs'' := by
  refine ⟨h'.workingDir.trans h.workingDir, h'.limit.trans h.limit, ?_⟩
  intro place
  rcases h.entry place with hsame | ⟨hnone, hnew, p, hp, hlocate⟩
  · rw [← hsame]
    exact h'.entry place
  · -- what was made first still stands, and its path still leads to it
    have hstays := h'.grows.entry place _ hnew
    exact .inr ⟨hnone, hstays, p, hp, locate_keeps h'.grows.keeps hlocate⟩

/-- One directory is added where its path leads. -/
theorem createDirectory_adds {named : Path → Prop} {p : Path} (hp : named p)
    (h : fs.createDirectory p = .ok fs') : AddsDirectories named fs fs' := by
  obtain ⟨dir, name, hlast, hnone, rfl⟩ := createDirectory_eq_ok h
  refine ⟨rfl, rfl, ?_⟩
  intro place
  by_cases hplace : place = dir ++ [name]
  · subst hplace
    exact .inr ⟨hnone, fs.entryOf?_insert_self (by simp) _, p, hp,
      locate_of_lastName hlast hnone⟩
  · exact .inl (fs.entryOf?_insert_of_ne hplace _)

/-- **DIRECTORIES ON THE WAY**: making a directory and its missing parents,
    whether it succeeds or stops halfway, adds directories where prefixes of the
    path lead, and nothing else changes. -/
theorem createDirectories_adds (fs : FileSystem) (p : Path) :
    AddsDirectories (·.IsPrefixOf p) fs (fs.createDirectories p).2 := by
  fun_induction FileSystem.createDirectories fs p with
  | case1 | case3 | case8 | case9 => exact .refl _ _
  | case2 p _ made hmade => exact createDirectory_adds (.refl p) hmade
  | case4 p _ _ parent hparent _ above habove ih =>
      rw [habove] at ih
      exact ih.of_parent hparent
  | case5 p _ _ parent hparent above habove made hmade ih =>
      rw [habove] at ih
      exact (ih.of_parent hparent).trans (createDirectory_adds (.refl p) hmade)
  | case6 p _ _ parent hparent above habove _ _ _ ih
  | case7 p _ _ parent hparent above habove _ _ _ ih =>
      -- the parents stay, though the path's own directory cannot be made
      rw [habove] at ih
      exact ih.of_parent hparent

/-! ## Directories above a file -/

/-- The path is cut off from the parent of `destination`. -/
def AboveFile (destination p : Path) : Prop :=
  ∃ parent, destination.parent? = some parent ∧ p.IsPrefixOf parent

/-- What is made for a file to stand in is above the file. -/
theorem createDirectories_above {destination parent : Path}
    (hparent : directoryOf? destination = some parent) (fs : FileSystem) :
    AddsDirectories (AboveFile destination) fs (fs.createDirectories parent).2 := by
  refine (createDirectories_adds fs parent).mono ?_
  intro q hq
  exact ⟨parent, (Option.filter_eq_some_iff.mp hparent).1, hq⟩

end SourceBundle
