import SourceBundle.Proofs.Directories
import SourceBundle.Proofs.IncludeGraph

/-! # Stored bundles — what a write leaves

    A write that is refused leaves everything as it was.  Otherwise it touches one
    place, at which all of the text stands afterwards, or what comes before the
    limit (`writing_overwrite`).  The path leads there (`locate_of_written`).

    Storing makes the directories above the file and then writes.  What it leaves is
    told apart by its end (`store_eq_ok`, `store_eq_error`); storing once more finds
    its directory and its file and changes nothing (`store_again`). -/

namespace SourceBundle

variable {fs fs' : FileSystem}

/-! ## Directories made once more -/

theorem isDirectory_iff {p : Path} : fs.isDirectory p = true ↔
    ∃ place, fs.locate .reach p = .ok place ∧ fs.entryOf? place = some .directory := by
  rw [FileSystem.isDirectory, FileSystem.entryAt?]
  cases fs.locate .reach p with
  | error cause => simp
  | ok place => simp

/-- Where a directory was found, one is found. -/
theorem isDirectory_keeps (hkeeps : Keeps fs fs') {p : Path} (h : fs.isDirectory p = true) :
    fs'.isDirectory p = true := by
  obtain ⟨place, hlocate, hdir⟩ := isDirectory_iff.mp h
  exact isDirectory_iff.mpr ⟨place, locate_keeps hkeeps hlocate, hkeeps.directory hdir⟩

/-- The last name of a path that leads somewhere is found, if it is not too long. -/
theorem lastName_of_locate {p : Path} {place : Location}
    (h : fs.locate .reach p = .ok place) :
    (∃ last, fs.lastName p = .ok last) ∨ fs.lastName p = .error .nameTooLong := by
  obtain ⟨hcheck, hleads⟩ := locate_eq_ok_iff.mp h
  unfold FileSystem.lastName
  rw [hcheck]
  simp only [bind, Except.bind]
  generalize hbody : (if p.steps.getLast? = some .directory then p.steps.dropLast
    else p.steps) = body
  split
  · exact .inl ⟨_, rfl⟩
  · next last hlast =>
      obtain ⟨steps, rfl⟩ := List.getLast?_eq_some_iff.mp hlast
      obtain ⟨more, hmore, hsteps⟩ : ∃ more, more ≠ [] ∧ p.steps = steps ++ more := by
        rcases steps_of_body hbody with hsteps | hsteps
        · exact ⟨[last], by simp, hsteps⟩
        · exact ⟨[last, .directory], by simp, by simp [hsteps]⟩
      rw [hsteps] at hleads
      obtain ⟨dir, hdir⟩ := hleads.cut hmore
      rw [List.dropLast_concat, walk_eq_ok_iff.mpr hdir]
      dsimp only
      split
      · split
        · exact .inr rfl
        · exact .inl ⟨_, rfl⟩
      · exact .inl ⟨_, rfl⟩

/-- Where a path leads nothing is made, and its parents are not looked for. -/
theorem createDirectory_of_locate {p : Path} {place : Location} {entry : Entry}
    (hlocate : fs.locate .reach p = .ok place) (hentry : fs.entryOf? place = some entry) :
    fs.createDirectory p = .error .fileExists ∨
      fs.createDirectory p = .error .nameTooLong := by
  unfold FileSystem.createDirectory
  rcases lastName_of_locate hlocate with ⟨last, hlast⟩ | hlong
  · rw [hlast]
    match last with
    | none => exact .inl rfl
    | some (dir, name) =>
        dsimp only
        cases hchild : fs.entryOf? (dir ++ [name]) with
        | some => exact .inl rfl
        | none =>
            -- a directory made here would be where the path leads already
            have hmade := locate_of_lastName hlast hchild
            have hstays := locate_keeps (grows_insert hchild .directory).keeps hlocate
            obtain rfl := Except.ok.inj (hstays.symm.trans hmade)
            cases hchild.symm.trans hentry
  · rw [hlong]
    exact .inr rfl

/-- A directory that is there is not made again. -/
theorem createDirectories_of_isDirectory {p : Path} (h : fs.isDirectory p = true) :
    fs.createDirectories p = (.ok (), fs) := by
  obtain ⟨place, hlocate, hdir⟩ := isDirectory_iff.mp h
  rw [FileSystem.createDirectories]
  split
  · rfl
  · rcases createDirectory_of_locate hlocate hdir with hrefused | hrefused
    · simp only [hrefused]
    · simp only [hrefused]

/-- A directory that was made is there. -/
theorem isDirectory_of_createDirectory {p : Path} (h : fs.createDirectory p = .ok fs') :
    fs'.isDirectory p = true := by
  obtain ⟨dir, name, hlast, hnone, rfl⟩ := createDirectory_eq_ok h
  exact isDirectory_iff.mpr
    ⟨dir ++ [name], locate_of_lastName hlast hnone, fs.entryOf?_insert_self (by simp) _⟩

/-- A directory that was to be made is there. -/
theorem isDirectory_of_createDirectories {p : Path} (hne : p.bytes ≠ [])
    (h : fs.createDirectories p = (.ok (), fs')) : fs'.isDirectory p = true := by
  fun_induction FileSystem.createDirectories fs p with
  | case1 _ hempty => exact absurd hempty hne
  | case2 _ _ _ hmade | case5 _ _ _ _ _ _ _ _ hmade =>
      obtain ⟨-, rfl⟩ := Prod.mk.inj h
      exact isDirectory_of_createDirectory hmade
  | case6 _ _ _ _ _ _ _ _ _ hdir | case8 _ _ _ _ _ hdir =>
      obtain ⟨-, rfl⟩ := Prod.mk.inj h
      exact hdir
  | case3 | case4 | case7 | case9 => cases (Prod.mk.inj h).1

/-! ## One file -/

theorem insert_insert (place : Location) (entry : Entry) :
    (fs.insert place entry).insert place entry = fs.insert place entry := by
  simp [FileSystem.insert]

/-- Nothing stops a file from taking all of the text. -/
def FileSystem.Fits (fs : FileSystem) (text : Bytes) : Prop :=
  ∀ limit, fs.limit = some limit → text.length ≤ limit.bytes

theorem fits_of_no_limit (h : fs.limit = none) (text : Bytes) : fs.Fits text := by
  intro limit hlimit
  cases h.symm.trans hlimit

/-- Under a limit fits what is no longer than it. -/
theorem fits_iff_of_limit {limit : WriteLimit} (hlimit : fs.limit = some limit)
    {text : Bytes} : fs.Fits text ↔ text.length ≤ limit.bytes := by
  constructor
  · intro h
    exact h limit hlimit
  · intro hroom limit' hsome
    obtain rfl := Option.some.inj (hlimit.symm.trans hsome)
    exact hroom

/-- The front of a text up to the limit fits. -/
theorem fits_take {limit : WriteLimit} (hlimit : fs.limit = some limit) (text : Bytes) :
    fs.Fits (text.take limit.bytes) :=
  (fits_iff_of_limit hlimit).mpr (List.length_take_le _ _)

/-- What fits is taken as a whole. -/
theorem taken_of_fits {text : Bytes} (h : fs.Fits text) : fs.taken text = (.ok (), text) := by
  unfold FileSystem.taken
  cases hlimit : fs.limit with
  | none => rfl
  | some limit => exact if_pos (h limit hlimit)

/-- Of what does not fit, the front is taken, and the write fails. -/
theorem taken_of_limit {text : Bytes} {limit : WriteLimit} (hlimit : fs.limit = some limit)
    (hshort : limit.bytes < text.length) :
    fs.taken text = (.error limit.cause, text.take limit.bytes) := by
  unfold FileSystem.taken
  rw [hlimit]
  exact if_neg (Nat.not_le.mpr hshort)

/-- A text fits, or there is a limit in front of its end. -/
theorem fits_or_limit (fs : FileSystem) (text : Bytes) : fs.Fits text ∨
    ∃ limit, fs.limit = some limit ∧ limit.bytes < text.length := by
  cases hlimit : fs.limit with
  | none => exact .inl (fits_of_no_limit hlimit text)
  | some limit =>
      by_cases hroom : text.length ≤ limit.bytes
      · exact .inl ((fits_iff_of_limit hlimit).mpr hroom)
      · exact .inr ⟨limit, rfl, Nat.not_le.mp hroom⟩

/-- All of `text` was written at a place. -/
inductive Written (fs : FileSystem) (place : Location) (text : Bytes) : FileSystem → Prop where
  | swallowed {kind : Device} :
      fs.entryOf? place = some (.device kind) → kind.write text = .ok () →
      Written fs place text fs
  | replaced {old : Bytes} {executable : Bool} :
      fs.entryOf? place = some (.file old executable) → fs.Fits text →
      Written fs place text (fs.insert place (.file text executable))
  | created : fs.entryOf? place = none → fs.Fits text →
      Written fs place text (fs.insert place (.file text false))

namespace Written

variable {place : Location} {text : Bytes}

theorem ne_root (h : Written fs place text fs') : place ≠ [] := by
  rintro rfl
  cases h with
  | swallowed hentry | replaced hentry | created hentry => cases hentry

/-- The text stands at the place, or a device that it went to. -/
theorem entryOf? (h : Written fs place text fs') :
    (∃ executable, fs'.entryOf? place = some (.file text executable)) ∨
      ∃ kind, fs'.entryOf? place = some (.device kind) := by
  have hroot := h.ne_root
  cases h with
  | swallowed hdevice => exact .inr ⟨_, hdevice⟩
  | replaced => exact .inl ⟨_, fs.entryOf?_insert_self hroot _⟩
  | created => exact .inl ⟨_, fs.entryOf?_insert_self hroot _⟩

/-- Nothing changes anywhere else. -/
theorem elsewhere (h : Written fs place text fs') {other : Location} (hne : other ≠ place) :
    fs'.entryOf? other = fs.entryOf? other := by
  cases h with
  | swallowed => rfl
  | replaced | created => exact fs.entryOf?_insert_of_ne hne _

/-- Every path leads where it led before. -/
theorem keeps (h : Written fs place text fs') : Keeps fs fs' := by
  have hroot := h.ne_root
  cases h with
  | swallowed => exact .refl fs
  | created hnone => exact (grows_insert hnone _).keeps
  | replaced hold =>
      refine ⟨?_, rfl⟩
      intro other entry hentry
      by_cases hother : other = place
      · subst hother
        obtain rfl := Option.some.inj (hold.symm.trans hentry)
        exact ⟨_, fs.entryOf?_insert_self hroot _, rfl⟩
      · exact ⟨entry, by rw [fs.entryOf?_insert_of_ne hother, hentry], rfl⟩

/-- The same text once more changes nothing. -/
theorem again (h : Written fs place text fs') : Written fs' place text fs' := by
  have hroot := h.ne_root
  have hagain : fs.Fits text → ∀ executable,
      Written (fs.insert place (.file text executable)) place text
        (fs.insert place (.file text executable)) := by
    intro hfits executable
    have hnew : Written (fs.insert place (.file text executable)) place text _ :=
      .replaced (fs.entryOf?_insert_self hroot _) hfits
    rwa [insert_insert] at hnew
  cases h with
  | swallowed hdevice hwrite => exact .swallowed hdevice hwrite
  | replaced _ hfits => exact hagain hfits _
  | created _ hfits => exact hagain hfits false

end Written

/-- What writing `text` to the file at a path comes to. -/
inductive Writing (fs : FileSystem) (p : Path) (text : Bytes) :
    Except OsError Unit × FileSystem → Prop where
  /-- Nothing is opened, or a device takes nothing. -/
  | refused {cause : OsError} : Writing fs p text (.error cause, fs)
  /-- A file is opened that has no room for all of the text. -/
  | stopped {place : Location} {limit : WriteLimit} {executable : Bool} {fs' : FileSystem} :
      fs.limit = some limit → limit.bytes < text.length →
      fs.locate .create p = .ok place → Written fs place (text.take limit.bytes) fs' →
      fs'.entryOf? place = some (.file (text.take limit.bytes) executable) →
      Writing fs p text (.error limit.cause, fs')
  | done {place : Location} {fs' : FileSystem} :
      fs.locate .create p = .ok place → Written fs place text fs' →
      Writing fs p text (.ok (), fs')

/-- A regular file that is opened takes the text, or the front of it. -/
theorem writing_fill {p : Path} {place : Location} {text : Bytes} {executable : Bool}
    (hlocate : fs.locate .create p = .ok place) (hroot : place ≠ [])
    (hwritten : ∀ front, fs.Fits front →
      Written fs place front (fs.insert place (.file front executable))) :
    Writing fs p text (fs.fill place executable text) := by
  unfold FileSystem.fill
  rcases fits_or_limit fs text with hfits | ⟨limit, hlimit, hshort⟩
  · rw [taken_of_fits hfits]
    exact .done hlocate (hwritten text hfits)
  · rw [taken_of_limit hlimit hshort]
    exact .stopped hlimit hshort hlocate (hwritten _ (fits_take hlimit text))
      (fs.entryOf?_insert_self hroot _)

/-- **A WRITE** is refused, stops at the limit or is done. -/
theorem writing_overwrite (fs : FileSystem) (p : Path) (text : Bytes) :
    Writing fs p text (fs.overwrite p text) := by
  unfold FileSystem.overwrite
  cases hlocate : fs.locate .create p with
  | error cause => exact .refused
  | ok place =>
      dsimp only
      cases hentry : fs.entryOf? place with
      | none =>
          refine writing_fill hlocate ?_ fun front => .created hentry
          rintro rfl
          cases hentry
      | some entry =>
          cases entry with
          | file old executable =>
              refine writing_fill hlocate ?_ fun front => .replaced hentry
              rintro rfl
              cases hentry
          | directory | link => exact .refused
          | device kind =>
              dsimp only
              cases hwrite : kind.write text with
              | error cause => exact .refused
              | ok => exact .done hlocate (.swallowed hentry hwrite)

theorem overwrite_of_written {p : Path} {place : Location} {text : Bytes}
    (hlocate : fs.locate .create p = .ok place) (h : Written fs place text fs') :
    fs.overwrite p text = (.ok (), fs') := by
  unfold FileSystem.overwrite
  rw [hlocate]
  dsimp only
  cases h with
  | swallowed hdevice hwrite => simp only [hdevice, hwrite]
  | replaced hold hfits => simp only [hold, FileSystem.fill, taken_of_fits hfits]
  | created hnone hfits => simp only [hnone, FileSystem.fill, taken_of_fits hfits]

/-- After a write, the path leads to where it went. -/
theorem locate_of_written {p : Path} {place : Location} {text : Bytes}
    (hlocate : fs.locate .create p = .ok place) (h : Written fs place text fs') :
    fs'.locate .reach p = .ok place := by
  obtain ⟨hcheck, hwalk⟩ := locate_eq_ok_iff_walk.mp hlocate
  refine locate_eq_ok_iff.mpr ⟨hcheck, ?_⟩
  rw [origin_keeps h.keeps]
  refine leads_of_walk h.keeps hwalk fun _ => ?_
  rcases h.entryOf? with ⟨executable, hentry⟩ | ⟨kind, hentry⟩
  · exact ⟨_, hentry, nofun⟩
  · exact ⟨_, hentry, nofun⟩

/-- A file that was written takes the same text once more, and nothing changes. -/
theorem overwrite_again {p : Path} {place : Location} {text : Bytes}
    (hlocate : fs.locate .create p = .ok place) (h : Written fs place text fs') :
    fs'.overwrite p text = (.ok (), fs') := by
  obtain ⟨hcheck, hleads⟩ := locate_eq_ok_iff.mp (locate_of_written hlocate h)
  refine overwrite_of_written (locate_eq_ok_iff_walk.mpr ⟨hcheck, ?_⟩) h.again
  refine walk_of_leads hleads fun _ => ?_
  rcases h.entryOf? with ⟨executable, hentry⟩ | ⟨kind, hentry⟩
  · simp [hentry]
  · simp [hentry]

/-! ## One bundle -/

/-- The directory that a bundle's file is to be in is there. -/
def DirectoryReady (fs : FileSystem) (destination : Path) : Prop :=
  ∀ parent, directoryOf? destination = some parent → fs.isDirectory parent = true

theorem directoryReady_of_parent {destination parent : Path}
    (hparent : directoryOf? destination = some parent) (hdir : fs.isDirectory parent = true) :
    DirectoryReady fs destination := by
  intro above habove
  obtain rfl := Option.some.inj (hparent.symm.trans habove)
  exact hdir

theorem storeFile_of_overwrite {destination : Path} {text : Bytes}
    (h : fs.overwrite destination text = (.ok (), fs')) :
    storeFile fs destination text = (.ok (), fs') := by
  rw [storeFile, h]

/-- **FIRST THE DIRECTORY**: storing ends where it cannot be made, or goes on to the file
    with directories added above it. -/
theorem store_cases (fs : FileSystem) (destination : Path) (text : Bytes) :
    ∃ files, AddsDirectories (AboveFile destination) fs files ∧
      ((∃ cause, store fs destination text = (.error cause, files)) ∨
        DirectoryReady files destination ∧
          store fs destination text = storeFile files destination text) := by
  unfold store
  cases hparent : directoryOf? destination with
  | none =>
      refine ⟨fs, .refl _ fs, .inr ⟨?_, rfl⟩⟩
      intro parent hsome
      cases hparent.symm.trans hsome
  | some parent =>
      have hadds := createDirectories_above hparent fs
      dsimp only
      cases hmade : fs.createDirectories parent with
      | mk result files =>
          rw [hmade] at hadds
          refine ⟨files, hadds, ?_⟩
          cases result with
          | error cause => exact .inl ⟨_, rfl⟩
          | ok =>
              have hnamed : parent.bytes ≠ [] := by
                simpa using (Option.filter_eq_some_iff.mp hparent).2
              exact .inr ⟨directoryReady_of_parent hparent
                (isDirectory_of_createDirectories hnamed hmade), rfl⟩

/-- **STORED**: the directory is there and the file was written to its end. -/
theorem store_eq_ok {destination : Path} {text : Bytes}
    (h : store fs destination text = (.ok (), fs')) :
    ∃ files place, AddsDirectories (AboveFile destination) fs files ∧
      DirectoryReady files destination ∧
      files.locate .create destination = .ok place ∧ Written files place text fs' := by
  obtain ⟨files, hadds, ⟨cause, hrefused⟩ | ⟨hready, hfile⟩⟩ := store_cases fs destination text
  · cases hrefused.symm.trans h
  · rw [hfile, storeFile] at h
    have hwriting := writing_overwrite files destination text
    generalize files.overwrite destination text = written at h hwriting
    cases hwriting with
    | refused | stopped => cases h
    | done hlocate hwritten =>
        obtain ⟨-, rfl⟩ := Prod.mk.inj h
        exact ⟨files, _, hadds, hready, hlocate, hwritten⟩

/-- **NOT STORED**: no file was opened, or the file was written up to the limit. -/
theorem store_eq_error {destination : Path} {text : Bytes} {cause : StoreError}
    (h : store fs destination text = (.error cause, fs')) :
    ∃ files, AddsDirectories (AboveFile destination) fs files ∧
      (fs' = files ∨ ∃ place limit executable, files.limit = some limit ∧
        limit.bytes < text.length ∧ cause = .file destination limit.cause ∧
        files.locate .create destination = .ok place ∧
        Written files place (text.take limit.bytes) fs' ∧
        fs'.entryOf? place = some (.file (text.take limit.bytes) executable)) := by
  obtain ⟨files, hadds, ⟨cause', hrefused⟩ | ⟨-, hfile⟩⟩ := store_cases fs destination text
  · obtain ⟨-, rfl⟩ := Prod.mk.inj (hrefused.symm.trans h)
    exact ⟨files, hadds, .inl rfl⟩
  · rw [hfile, storeFile] at h
    refine ⟨files, hadds, ?_⟩
    have hwriting := writing_overwrite files destination text
    generalize files.overwrite destination text = written at h hwriting
    cases hwriting with
    | refused =>
        obtain ⟨-, rfl⟩ := Prod.mk.inj h
        exact .inl rfl
    | stopped hlimit hshort hlocate hwritten hentry =>
        obtain ⟨hcause, rfl⟩ := Prod.mk.inj h
        exact .inr ⟨_, _, _, hlimit, hshort, (Except.error.inj hcause).symm, hlocate, hwritten,
          hentry⟩
    | done => cases h

/-- Where the directory is there, storing is writing the file. -/
theorem store_of_ready {destination : Path} {text : Bytes}
    (hready : DirectoryReady fs destination)
    (h : fs.overwrite destination text = (.ok (), fs')) :
    store fs destination text = (.ok (), fs') := by
  unfold store
  cases hparent : directoryOf? destination with
  | none => exact storeFile_of_overwrite h
  | some parent =>
      dsimp only
      rw [createDirectories_of_isDirectory (hready parent hparent)]
      exact storeFile_of_overwrite h

/-- A bundle whose directory is there is stored by one write. -/
theorem store_of_written {destination parent : Path} {place : Location} {text : Bytes}
    (hparent : directoryOf? destination = some parent) (hdir : fs.isDirectory parent = true)
    (hlocate : fs.locate .create destination = .ok place) (h : Written fs place text fs') :
    store fs destination text = (.ok (), fs') :=
  store_of_ready (directoryReady_of_parent hparent hdir) (overwrite_of_written hlocate h)

/-- **ONCE MORE**: storing a stored bundle changes nothing. -/
theorem store_again {destination : Path} {text : Bytes}
    (h : store fs destination text = (.ok (), fs')) :
    store fs' destination text = (.ok (), fs') := by
  obtain ⟨files, place, -, hready, hlocate, hwritten⟩ := store_eq_ok h
  refine store_of_ready ?_ (overwrite_again hlocate hwritten)
  intro parent hparent
  exact isDirectory_keeps hwritten.keeps (hready parent hparent)

/-- Paths lead where they led before. -/
theorem store_keeps {destination : Path} {text : Bytes}
    (h : store fs destination text = (.ok (), fs')) : Keeps fs fs' := by
  obtain ⟨files, place, hadds, -, -, hwritten⟩ := store_eq_ok h
  exact hadds.grows.keeps.trans hwritten.keeps

/-- Elsewhere than where the destination leads, the same is read. -/
theorem contentAt?_of_store {destination : Path} {text : Bytes}
    (h : store fs destination text = (.ok (), fs')) {other : Location}
    (hother : fs'.locate .reach destination ≠ .ok other) :
    fs'.contentAt? other = fs.contentAt? other := by
  obtain ⟨files, place, hadds, -, hlocate, hwritten⟩ := store_eq_ok h
  have hne : other ≠ place := by
    rintro rfl
    exact hother (locate_of_written hlocate hwritten)
  unfold FileSystem.contentAt?
  rw [hwritten.elsewhere hne]
  rcases hadds.entry other with hsame | ⟨hnone, hnew, -⟩
  · rw [hsame]
  · rw [hnone, hnew]

/-- A stored bundle is read back, unless a device took it. -/
theorem contents_of_store {destination : Path} {text : Bytes}
    (h : store fs destination text = (.ok (), fs')) :
    fs'.contents destination = .ok text ∨
      ∃ kind, fs'.entryAt? destination = some (.device kind) := by
  obtain ⟨files, place, -, -, hlocate, hwritten⟩ := store_eq_ok h
  have hreach := locate_of_written hlocate hwritten
  rcases hwritten.entryOf? with ⟨executable, hentry⟩ | ⟨kind, hentry⟩
  · left
    simp only [FileSystem.contents, FileSystem.openFile, hreach, hentry]
    rfl
  · right
    refine ⟨kind, ?_⟩
    simp only [FileSystem.entryAt?, hreach, hentry]

end SourceBundle
