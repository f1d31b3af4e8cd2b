import SourceBundle.OsError
import SourceBundle.Path

/-! # File systems — directories, files and links as a finite map

    A file system is a finite map from places to entries, as a process sees it: from
    its working directory, and with a limit to what it may write.  A place
    (`Location`) is the list of names from the root down to it, without links, so two
    paths name the same thing exactly when they lead to the same place.
    `FileSystem.walk` leads from a path to its place; reading goes through it.
    Changing a file system is in `SourceBundle.FileSystem.Change`. -/

namespace SourceBundle

/-- A place in a file system: the names from the root down to it. -/
abbrev Location := List Bytes

/-- Whether a place is in a list of places is decided by comparing names. -/
instance : LawfulBEq Location := inferInstance

/-- The absolute path that leads to a place without links or dots. -/
def Path.ofLocation (place : Location) : Path :=
  ⟨Path.slash :: Path.unsplit place⟩

/-- A device. None keeps what is written to it. -/
inductive Device where
  /-- Takes whatever is written, and reads as nothing. -/
  | null
  /-- Takes whatever is written, and reads as zeros without an end. -/
  | zero
  /-- Has no room for anything, and reads as zeros without an end. -/
  | full
  deriving DecidableEq, Repr

/-- What reading a device to its end gives. Zeros without an end do not fit into any memory. -/
def Device.read : Device → Except OsError Bytes
  | .null => .ok []
  | .zero | .full => .error .outOfMemory

/-- A device that can be read to its end holds nothing. -/
theorem Device.eq_nil_of_read {kind : Device} {content : Bytes} (h : kind.read = .ok content) :
    content = [] := by
  cases kind with
  | null => exact (Except.ok.inj h).symm
  | zero | full => cases h

/-- What writing to a device comes to. -/
def Device.write (kind : Device) (content : Bytes) : Except OsError Unit :=
  match kind with
  | .null | .zero => .ok ()
  | .full => if content = [] then .ok () else .error .noSpace

/-- What stands at a place. -/
inductive Entry where
  | file (content : Bytes) (executable : Bool)
  | directory
  /-- A symbolic link, with its target as written. -/
  | link (target : Path)
  | device (kind : Device)
  deriving DecidableEq, Repr

/-- Where writing a file stops: the disk is full, a quota is used up, or the process may make no
    larger files. -/
structure WriteLimit where
  /-- How many bytes a file takes. -/
  bytes : Nat
  /-- What a write is refused with that goes on behind them. -/
  cause : OsError
  deriving DecidableEq, Repr

/-- A finite file system, as a process sees it. -/
structure FileSystem where
  entries : List (Location × Entry)
  workingDir : Location
  /-- Where writing a file stops; nothing if there is room for everything. -/
  limit : Option WriteLimit := none
  deriving DecidableEq, Repr

namespace FileSystem

variable (fs : FileSystem)

/-- What stands at a place. The root is always a directory. -/
def entryOf? (place : Location) : Option Entry :=
  if place = [] then some .directory else fs.entries.lookup place

/-- The places of what can be read: the files and the devices. -/
def filePlaces : List Location :=
  fs.entries.filterMap fun (place, entry) =>
    match entry with
    | .file _ _ | .device _ => some place
    | _ => none

/-- The most links one walk follows. -/
def maxLinks : Nat := 40

/-- The most bytes of one name. -/
def maxName : Nat := 255

/-- The most bytes of a path, counting the NUL that ends it. -/
def maxPath : Nat := 4096

/-- What a walk is for. -/
inductive Purpose where
  /-- To reach what stands at the path. -/
  | reach
  /-- To open a file for writing, which may be missing in an existing directory. -/
  | create
  deriving DecidableEq, Repr

/-- Follow `steps` from the place `here`, links included, following at most `links` of them. -/
def walk (purpose : Purpose) (links : Nat) (here : Location) :
    (steps : List Path.Step) → Except OsError Location
  | [] => .ok here
  | step :: steps =>
      if fs.entryOf? here ≠ some .directory then .error .notADirectory
      else match step with
        | .here | .directory => walk purpose links here steps
        | .up => walk purpose links here.dropLast steps
        | .child name =>
            if purpose = .create ∧ steps = [.directory] then .error .isADirectory
            else if maxName < name.length then .error .nameTooLong
            else match fs.entryOf? (here ++ [name]) with
              | none =>
                  if purpose = .create ∧ steps = [] then .ok (here ++ [name])
                  else .error .noSuchFile
              | some (.link target) =>
                  match links with
                  | 0 => .error .tooManyLinks
                  | links + 1 =>
                      walk purpose links (if target.isAbsolute then [] else here)
                        (target.steps ++ steps)
              | some _ => walk purpose links (here ++ [name]) steps
termination_by steps => (links, steps.length)

/-- A path the system takes: not empty, without NUL, not too long. -/
def checkPath (p : Path) : Except OsError Unit :=
  if 0 ∈ p.bytes then .error .nulInPath
  else if p.bytes = [] then .error .noSuchFile
  else if maxPath ≤ p.bytes.length then .error .nameTooLong
  else .ok ()

/-- Where a walk along a path starts. -/
def origin (p : Path) : Location :=
  if p.isAbsolute then [] else fs.workingDir

/-- The place a path leads to. -/
def locate (purpose : Purpose) (p : Path) : Except OsError Location := do
  checkPath p
  fs.walk purpose maxLinks (fs.origin p) p.steps

/-- The place and the content of the file at a path. -/
def openFile (p : Path) : Except OsError (Location × Bytes) :=
  match fs.locate .reach p with
  | .error e => .error e
  | .ok place =>
      match fs.entryOf? place with
      | some (.file content _) => .ok (place, content)
      | some (.device kind) => kind.read.map (place, ·)
      | some .directory => .error .isADirectory
      | _ => .error .noSuchFile

/-- The content of the file at a path. -/
def contents (p : Path) : Except OsError Bytes :=
  (fs.openFile p).map (·.2)

/-- What stands at a path, links followed. -/
def entryAt? (p : Path) : Option Entry :=
  match fs.locate .reach p with
  | .ok place => fs.entryOf? place
  | .error _ => none

/-- Does something stand at the path? -/
def pathExists (p : Path) : Bool := (fs.entryAt? p).isSome

/-- Does a file stand at the path? -/
def isFile (p : Path) : Bool :=
  match fs.entryAt? p with
  | some (.file _ _) => true
  | _ => false

/-- Does a directory stand at the path? -/
def isDirectory (p : Path) : Bool :=
  fs.entryAt? p == some .directory

theorem mem_entries_of_entryOf? {place : Location} {entry : Entry}
    (hroot : entry ≠ .directory) (h : fs.entryOf? place = some entry) :
    (place, entry) ∈ fs.entries := by
  unfold entryOf? at h
  split at h
  · exact absurd (Option.some.inj h).symm hroot
  · obtain ⟨l₁, l₂, hl, _⟩ := List.lookup_eq_some_iff.1 h
    simp [hl]

theorem mem_filePlaces_of_entry? {place : Location} {content : Bytes} {executable : Bool}
    (h : fs.entryOf? place = some (.file content executable)) : place ∈ fs.filePlaces := by
  simp only [filePlaces, List.mem_filterMap]
  exact ⟨_, fs.mem_entries_of_entryOf? (by simp) h, rfl⟩

theorem mem_filePlaces_of_device {place : Location} {kind : Device}
    (h : fs.entryOf? place = some (.device kind)) : place ∈ fs.filePlaces := by
  simp only [filePlaces, List.mem_filterMap]
  exact ⟨_, fs.mem_entries_of_entryOf? (by simp) h, rfl⟩

/-- Only places of files and of devices are opened. -/
theorem mem_filePlaces_of_openFile {p : Path} {place : Location} {content : Bytes}
    (h : fs.openFile p = .ok (place, content)) : place ∈ fs.filePlaces := by
  unfold openFile at h
  split at h
  · simp at h
  · split at h
    · next hentry =>
        obtain ⟨rfl, rfl⟩ := by simpa using h
        exact fs.mem_filePlaces_of_entry? hentry
    · next kind hentry =>
        cases hread : kind.read with
        | error e => simp [hread, Except.map] at h
        | ok bytes =>
            obtain ⟨rfl, -⟩ := by simpa [hread, Except.map] using h
            exact fs.mem_filePlaces_of_device hentry
    all_goals simp at h

end FileSystem

end SourceBundle
