import SourceBundle.Proofs.StoredBundles

/-! # Destinations — a stored bundle is one file

    Storing a bundle makes directories and then writes at one place, the one that
    the destination leads to afterwards.  A directory stands at none of the places
    written to, so what stood there is what stood there before the directories were
    made; everywhere else all that stood still stands, and what is new are
    directories above the destination (`replaces_of_written`).

    Put together, the destination reads back as the text, nothing else changes, and
    storing once more changes nothing at all (`store_replaces`).  Devices are the
    exception: they keep nothing (`store_into_nullDevice`).

    A bundle that is not stored leaves new directories at most, unless its file was
    opened and has no room for all of the text; then the front of the text replaced
    what the file held (`adds_or_cutShort`). -/

namespace SourceBundle

variable {fs fs' : FileSystem}

/-- What stands at a place that `text` was written to, by what stood there. -/
inductive Overwritten (text : Bytes) : Option Entry → Entry → Prop where
  | created : Overwritten text none (.file text false)
  | replaced {old : Bytes} {executable : Bool} :
      Overwritten text (some (.file old executable)) (.file text executable)
  | swallowed {kind : Device} :
      kind.write text = .ok () → Overwritten text (some (.device kind)) (.device kind)

/-- `fs'` is `fs` with `text` written to `place`, where `destination` leads, and with
    new directories above the destination. -/
structure Replaces (fs : FileSystem) (destination : Path) (text : Bytes) (place : Location)
    (fs' : FileSystem) : Prop where
  leads : fs'.locate .reach destination = .ok place
  there : ∃ entry, fs'.entryOf? place = some entry ∧ Overwritten text (fs.entryOf? place) entry
  kept : ∀ other entry, other ≠ place → fs.entryOf? other = some entry →
    fs'.entryOf? other = some entry
  added : ∀ other entry, other ≠ place → fs.entryOf? other = none →
    fs'.entryOf? other = some entry →
    entry = .directory ∧ ∃ p, AboveFile destination p ∧ fs'.locate .reach p = .ok other
  workingDir : fs'.workingDir = fs.workingDir
  limit : fs'.limit = fs.limit

/-! ## One place -/

/-- What stands at the place is the text, or the device that was there. -/
theorem Written.overwritten {place : Location} {text : Bytes} (h : Written fs place text fs') :
    ∃ entry, fs'.entryOf? place = some entry ∧ Overwritten text (fs.entryOf? place) entry := by
  have hroot := h.ne_root
  cases h with
  | swallowed hdevice hwrite =>
      refine ⟨_, hdevice, ?_⟩
      rw [hdevice]
      exact .swallowed hwrite
  | replaced hold =>
      refine ⟨_, fs.entryOf?_insert_self hroot _, ?_⟩
      rw [hold]
      exact .replaced
  | created hnone =>
      refine ⟨_, fs.entryOf?_insert_self hroot _, ?_⟩
      rw [hnone]
      exact .created

/-- No directory is written to. -/
theorem Written.not_directory {place : Location} {text : Bytes}
    (h : Written fs place text fs') : fs.entryOf? place ≠ some .directory := by
  intro hdir
  cases h with
  | swallowed hentry | replaced hentry | created hentry => cases hdir.symm.trans hentry

theorem Written.workingDir {place : Location} {text : Bytes} (h : Written fs place text fs') :
    fs'.workingDir = fs.workingDir :=
  h.keeps.workingDir

theorem Written.limit {place : Location} {text : Bytes} (h : Written fs place text fs') :
    fs'.limit = fs.limit := by
  cases h with
  | swallowed | replaced | created => rfl

/-- Where no directory stands, none was made. -/
theorem AddsDirectories.entryOf?_eq {named : Path → Prop} {place : Location}
    (h : AddsDirectories named fs fs') (hplain : fs'.entryOf? place ≠ some .directory) :
    fs'.entryOf? place = fs.entryOf? place := by
  rcases h.entry place with hsame | ⟨-, hnew, -⟩
  · exact hsame
  · exact absurd hnew hplain

/-- **ONE FILE**: directories above the destination and a write where it leads change
    nothing but the one file. -/
theorem replaces_of_written {files : FileSystem} {destination : Path} {place : Location}
    {text : Bytes} (hadds : AddsDirectories (AboveFile destination) fs files)
    (hlocate : files.locate .create destination = .ok place)
    (hwritten : Written files place text fs') : Replaces fs destination text place fs' := by
  refine ⟨locate_of_written hlocate hwritten, ?_, ?_, ?_, ?_, ?_⟩
  · -- no directory is written to, so none was made here
    rw [← hadds.entryOf?_eq hwritten.not_directory]
    exact hwritten.overwritten
  · intro other entry hother hentry
    rw [hwritten.elsewhere hother]
    exact hadds.grows.entry other entry hentry
  · -- what is new elsewhere was there before the write
    intro other entry hother hnone hentry
    rw [hwritten.elsewhere hother] at hentry
    rcases hadds.entry other with hsame | ⟨-, hnew, p, hp, hleads⟩
    · cases hnone.symm.trans (hsame.symm.trans hentry)
    · obtain rfl := Option.some.inj (hnew.symm.trans hentry)
      exact ⟨rfl, p, hp, locate_keeps hwritten.keeps hleads⟩
  · exact hwritten.workingDir.trans hadds.workingDir
  · exact hwritten.limit.trans hadds.limit

/-! ## The destination -/

/-- What stands at a path stands where it leads. -/
theorem entryAt?_eq_some_iff {p : Path} {entry : Entry} : fs.entryAt? p = some entry ↔
    ∃ place, fs.locate .reach p = .ok place ∧ fs.entryOf? place = some entry := by
  unfold FileSystem.entryAt?
  cases fs.locate .reach p with
  | error cause => simp
  | ok place => simp

/-- A device reads as it always does. -/
theorem contents_of_device {p : Path} {kind : Device}
    (h : fs.entryAt? p = some (.device kind)) : fs.contents p = kind.read := by
  obtain ⟨place, hlocate, hentry⟩ := entryAt?_eq_some_iff.mp h
  simp only [FileSystem.contents, FileSystem.openFile, hlocate, hentry]
  cases kind.read <;> rfl

/-- **STORING REPLACES ONE FILE**: where a bundle is stored, its destination reads as
    exactly its text, whatever it held before; all else that stood still stands, what
    is new besides are directories where prefixes of the destination's parent lead,
    and the same bundle once more is stored without any change.  Only devices are
    different: they read as ever. -/
theorem store_replaces {destination : Path} {text : Bytes}
    (h : store fs destination text = (.ok (), fs')) :
    (∃ place, Replaces fs destination text place fs') ∧
    ((∀ kind, fs'.entryAt? destination ≠ some (.device kind)) →
      fs'.contents destination = .ok text) ∧
    (∀ kind, fs'.entryAt? destination = some (.device kind) →
      fs'.contents destination = kind.read) ∧
    store fs' destination text = (.ok (), fs') := by
  obtain ⟨files, place, hadds, -, hlocate, hwritten⟩ := store_eq_ok h
  refine ⟨⟨place, replaces_of_written hadds hlocate hwritten⟩, ?_,
    fun _ => contents_of_device, store_again h⟩
  intro hplain
  refine (contents_of_store h).resolve_right ?_
  rintro ⟨kind, hdevice⟩
  exact hplain kind hdevice

/-- A directory `d` with a link `l` in it that leads to the missing file `t`. -/
def danglingLink : FileSystem :=
  ⟨[([Utf8.encode "d"], .directory),
    ([Utf8.encode "d", Utf8.encode "l"], .link (Path.ofText "/t"))], [], none⟩

/-- A path to that link through a missing directory and back. -/
def aroundMissing : Path := Path.ofText "/d/x/../l"

/-- The link is followed once the missing directory is there. -/
theorem store_aroundMissing (text : Bytes) :
    store danglingLink aroundMissing text
      = (.ok (), (danglingLink.insert [Utf8.encode "d", Utf8.encode "x"] .directory).insert
          [Utf8.encode "t"] (.file text false)) := by
  have hparent : directoryOf? aroundMissing = some (Path.ofText "/d/x/..") := by
    decide +kernel
  have hmade : danglingLink.createDirectories (Path.ofText "/d/x/..")
      = (.ok (), danglingLink.insert [Utf8.encode "d", Utf8.encode "x"] .directory) := by
    cbv
  have hlocate : (danglingLink.insert [Utf8.encode "d", Utf8.encode "x"] .directory).locate
      .create aroundMissing = .ok [Utf8.encode "t"] := by
    cbv
  rw [store, hparent]
  dsimp only
  rw [hmade]
  exact storeFile_of_overwrite (overwrite_of_written hlocate (.created (by decide +kernel)
    (fits_of_no_limit rfl text)))

/-- The missing directory and the missing file are made; the link stays. -/
theorem store_replaces_aroundMissing : ∃ fs',
    store danglingLink aroundMissing [0x32] = (.ok (), fs') ∧
    (∃ place, Replaces danglingLink aroundMissing [0x32] place fs') ∧
    fs'.contents aroundMissing = .ok [0x32] ∧
    store fs' aroundMissing [0x32] = (.ok (), fs') := by
  obtain ⟨hreplaces, hread, -, hagain⟩ := store_replaces (store_aroundMissing [0x32])
  refine ⟨_, store_aroundMissing _, hreplaces, hread ?_, hagain⟩
  have hfile : ((danglingLink.insert [Utf8.encode "d", Utf8.encode "x"] .directory).insert
      [Utf8.encode "t"] (.file [0x32] false)).entryAt? aroundMissing
      = some (.file [0x32] false) := by
    cbv
  intro kind hdevice
  cases hfile.symm.trans hdevice

/-- A bundle is stored into the null device, and not read back. -/
theorem store_into_nullDevice :
    store nullDevice (Path.ofText "/dev/null") [0x32] = (.ok (), nullDevice) ∧
    nullDevice.contents (Path.ofText "/dev/null") ≠ .ok [0x32] := by
  have hparent : directoryOf? (Path.ofText "/dev/null") = some (Path.ofText "/dev") := by
    decide +kernel
  have hdirectory : nullDevice.isDirectory (Path.ofText "/dev") = true := by
    cbv
  have hlocate : nullDevice.locate .create (Path.ofText "/dev/null")
      = .ok [Utf8.encode "dev", Utf8.encode "null"] := by
    cbv
  have hnull : nullDevice.entryOf? [Utf8.encode "dev", Utf8.encode "null"]
      = some (.device .null) := by
    decide +kernel
  have hdevice : nullDevice.entryAt? (Path.ofText "/dev/null") = some (.device .null) := by
    cbv
  constructor
  · exact store_of_written hparent hdirectory hlocate (.swallowed hnull rfl)
  · rw [contents_of_device hdevice]
    decide

/-! ## A write that stops -/

/-- The file that `destination` leads to on `fs'` has no room for all of `text`: it holds
    the front of it, up to the limit.  All else is on `fs'` as it is on `fs`, new
    directories above the destination apart. -/
structure CutShort (fs : FileSystem) (destination : Path) (text : Bytes) (limit : WriteLimit)
    (fs' : FileSystem) : Prop where
  limited : fs.limit = some limit
  short : limit.bytes < text.length
  front : ∃ executable,
    fs'.entryAt? destination = some (.file (text.take limit.bytes) executable)
  replaces : ∃ place, Replaces fs destination (text.take limit.bytes) place fs'

/-- **ONE FILE AT MOST**: where a bundle cannot be stored, there are new directories above
    its destination at most, or one file holds the front of the text. -/
theorem adds_or_cutShort {destination : Path} {text : Bytes} {cause : StoreError}
    (h : store fs destination text = (.error cause, fs')) :
    AddsDirectories (AboveFile destination) fs fs' ∨
      ∃ limit, cause = .file destination limit.cause ∧
        CutShort fs destination text limit fs' := by
  obtain ⟨files, hadds, rfl | hstopped⟩ := store_eq_error h
  · exact .inl hadds
  · obtain ⟨place, limit, executable, hlimit, hshort, hcause, hlocate, hwritten, hentry⟩ :=
      hstopped
    refine .inr ⟨limit, hcause, hadds.limit ▸ hlimit, hshort, ⟨executable, ?_⟩,
      place, replaces_of_written hadds hlocate hwritten⟩
    exact entryAt?_eq_some_iff.mpr ⟨place, locate_of_written hlocate hwritten, hentry⟩

end SourceBundle
