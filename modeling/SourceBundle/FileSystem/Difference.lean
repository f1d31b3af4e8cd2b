import SourceBundle.FileSystem

/-! # Differences — what changed below a directory

    Two file systems are compared place by place below one directory.  The
    difference lists the places that are new, hold something else or are gone, by
    the bytes of their path from there. -/

namespace SourceBundle

/-- A place that differs, and what stands there now. -/
structure Change where
  /-- The path from the directory compared. -/
  path : Bytes
  /-- What stands there now; nothing if it is gone. -/
  now : Option Entry
  deriving DecidableEq, Repr

namespace FileSystem

/-- The part of a place below a directory. -/
def below? (directory place : Location) : Option Location :=
  match directory, place with
  | [], [] => none
  | [], place => some place
  | _ :: _, [] => none
  | name :: directory, name' :: place => if name = name' then below? directory place else none

/-- The places below a directory that hold something. -/
def placesBelow (fs : FileSystem) (directory : Location) : List Location :=
  fs.entries.filterMap fun (place, _) => (below? directory place).map fun _ => place

/-- What changed below a directory from one file system to another. -/
def changesBelow (directory : Location) (before after : FileSystem) : List Change :=
  let gone := (before.placesBelow directory).filter fun place => (after.entryOf? place).isNone
  let places := (after.placesBelow directory).filter fun place =>
    after.entryOf? place ≠ before.entryOf? place
  ((gone ++ places).map fun place =>
    { path := Path.unsplit ((below? directory place).getD []), now := after.entryOf? place
      : Change }).mergeSort fun a b => a.path ≤ b.path

end FileSystem

end SourceBundle
