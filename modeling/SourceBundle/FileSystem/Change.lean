import SourceBundle.FileSystem

/-! # Changing a file system — entries, directories, files

    Every change is a function to a new file system.  An operation that can stop
    halfway (`createDirectories`, `overwrite`) returns the file system it leaves
    behind beside its result. -/

namespace SourceBundle

namespace FileSystem

variable (fs : FileSystem)

/-- Put an entry at a place, whatever stood there. -/
def insert (place : Location) (entry : Entry) : FileSystem :=
  { fs with entries := (place, entry) :: fs.entries.filter fun e => e.1 ≠ place }

/-- Take away a place and all below it. -/
def eraseTree (place : Location) : FileSystem :=
  { fs with entries := fs.entries.filter fun e => !place.isPrefixOf e.1 }

@[simp] theorem entryOf?_insert_self {place : Location} (h : place ≠ []) (entry : Entry) :
    (fs.insert place entry).entryOf? place = some entry := by
  simp [insert, entryOf?, h]

theorem entryOf?_insert_of_ne {place other : Location} (h : other ≠ place) (entry : Entry) :
    (fs.insert place entry).entryOf? other = fs.entryOf? other := by
  have hne : (other == place) = false := by simpa using h
  unfold insert entryOf?
  split
  · rfl
  · simp only [List.lookup_cons, hne]
    induction fs.entries with
    | nil => rfl
    | cons e entries ih =>
        obtain ⟨key, value⟩ := e
        simp only [List.filter_cons, List.lookup_cons]
        by_cases hkey : key = place
        · simpa [hkey, hne] using ih
        · simp only [hkey, ne_eq, not_false_eq_true, decide_true, if_true, List.lookup_cons, ih]

/-- The directory a path's last name stands in and that name, the last name not followed if it
    is a link. Nothing for a path that ends in dots or is the root. -/
def lastName (p : Path) : Except OsError (Option (Location × Bytes)) := do
  checkPath p
  let steps := if p.steps.getLast? = some .directory then p.steps.dropLast else p.steps
  match steps.getLast? with
  | none => return none
  | some last =>
      let dir ← fs.walk .reach maxLinks (fs.origin p) (steps.dropLast ++ [.directory])
      match last with
      | .child name => if maxName < name.length then throw .nameTooLong else return some (dir, name)
      | _ => return none

/-- Make one directory; its parent has to exist and nothing may stand at the path. -/
def createDirectory (p : Path) : Except OsError FileSystem :=
  match fs.lastName p with
  | .error e => .error e
  | .ok none => .error .fileExists
  | .ok (some (dir, name)) =>
      match fs.entryOf? (dir ++ [name]) with
      | some _ => .error .fileExists
      | none => .ok (fs.insert (dir ++ [name]) .directory)

/-- Make a directory and its missing parents. A directory that is there already is fine. -/
def createDirectories (fs : FileSystem) (p : Path) : Except OsError Unit × FileSystem :=
  if p.bytes = [] then (.ok (), fs)
  else match fs.createDirectory p with
    | .ok fs => (.ok (), fs)
    | .error .noSuchFile =>
        match _h : p.parent? with
        | none => (.error .noSuchFile, fs)
        | some parent =>
            match createDirectories fs parent with
            | (.error e, fs) => (.error e, fs)
            | (.ok (), fs) =>
                match fs.createDirectory p with
                | .ok fs => (.ok (), fs)
                | .error e => if fs.isDirectory p then (.ok (), fs) else (.error e, fs)
    | .error e => if fs.isDirectory p then (.ok (), fs) else (.error e, fs)
termination_by p.bytes.length
decreasing_by exact Path.length_parent?_lt _h

/-- What a file takes of a content, up to the limit, and how writing it ends. -/
def taken (content : Bytes) : Except OsError Unit × Bytes :=
  match fs.limit with
  | none => (.ok (), content)
  | some limit =>
      if content.length ≤ limit.bytes then (.ok (), content)
      else (.error limit.cause, content.take limit.bytes)

/-- Write a file from its start, with nothing in it at first. -/
def fill (place : Location) (executable : Bool) (content : Bytes) :
    Except OsError Unit × FileSystem :=
  ((fs.taken content).1, fs.insert place (.file (fs.taken content).2 executable))

/-- Write a file, new or in place of what the file at the path held. The old content is gone
    before the first byte is written, so a write that stops leaves what came before the limit. -/
def overwrite (p : Path) (content : Bytes) : Except OsError Unit × FileSystem :=
  match fs.locate .create p with
  | .error e => (.error e, fs)
  | .ok place =>
      match fs.entryOf? place with
      | none => fs.fill place false content
      | some (.file _ executable) => fs.fill place executable content
      | some .directory => (.error .isADirectory, fs)
      | some (.link _) => (.error .tooManyLinks, fs)
      | some (.device kind) => (kind.write content, fs)

/-- Write a whole file, or none. -/
def writeFile (p : Path) (content : Bytes) : Except OsError FileSystem :=
  match fs.overwrite p content with
  | (.ok (), fs) => .ok fs
  | (.error e, _) => .error e

/-- Take away the file or link a path names. -/
def removeFile (p : Path) : Except OsError FileSystem :=
  match fs.lastName p with
  | .error e => .error e
  | .ok none => .error .isADirectory
  | .ok (some (dir, name)) =>
      match fs.entryOf? (dir ++ [name]) with
      | none => .error .noSuchFile
      | some .directory => .error .isADirectory
      | some _ => .ok (fs.eraseTree (dir ++ [name]))

/-- Say whether the file at a path may be executed. -/
def setExecutable (p : Path) (executable : Bool) : FileSystem :=
  match fs.locate .reach p with
  | .error _ => fs
  | .ok place =>
      match fs.entryOf? place with
      | some (.file content _) => fs.insert place (.file content executable)
      | _ => fs

/-- Make a link at a path, whatever stood there. -/
def placeLink (p target : Path) : FileSystem :=
  match fs.lastName p with
  | .ok (some (dir, name)) => fs.insert (dir ++ [name]) (.link target)
  | _ => fs

/-- Take away what stands at a path and all below it. -/
def removeTree (p : Path) : FileSystem :=
  match fs.lastName p with
  | .ok (some (dir, name)) => fs.eraseTree (dir ++ [name])
  | _ => fs

end FileSystem

end SourceBundle
