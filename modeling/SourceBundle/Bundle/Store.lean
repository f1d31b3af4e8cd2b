import SourceBundle.FileSystem.Change

/-! # Storing — a bundle becomes a file

    The directory of the destination is made if it is missing, then the text
    replaces whatever the file held.  A failure is reported with the file system it
    leaves: directories may be new, and a file that could not be written to its end
    holds the front of the text. -/

namespace SourceBundle

/-- Why a bundle cannot be stored. -/
inductive StoreError where
  | directory (path : Path) (cause : OsError)
  | file (path : Path) (cause : OsError)
  deriving DecidableEq, Repr

/-- The wording of a storing error, with its cause. -/
def StoreError.message : StoreError → String
  | .directory path cause =>
      "failed to create bundle directory: " ++ path.display ++ ": " ++ cause.message
  | .file path cause => "failed to write bundle to " ++ path.display ++ ": " ++ cause.message

/-- The directory to make before a file is written: the path's parent, if it names one. -/
def directoryOf? (destination : Path) : Option Path :=
  destination.parent?.filter fun parent => parent.bytes ≠ []

/-- Write the file of a bundle, its directory being there. -/
def storeFile (fs : FileSystem) (destination : Path) (text : Bytes) :
    Except StoreError Unit × FileSystem :=
  match fs.overwrite destination text with
  | (.ok (), fs) => (.ok (), fs)
  | (.error cause, fs) => (.error (.file destination cause), fs)

/-- Write a bundle's text to its destination. -/
def store (fs : FileSystem) (destination : Path) (text : Bytes) :
    Except StoreError Unit × FileSystem :=
  match directoryOf? destination with
  | none => storeFile fs destination text
  | some parent =>
      match fs.createDirectories parent with
      | (.error cause, fs) => (.error (.directory parent cause), fs)
      | (.ok (), fs) => storeFile fs destination text

end SourceBundle
