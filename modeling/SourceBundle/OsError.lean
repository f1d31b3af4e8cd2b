/-! # Refusals of the operating system

    What an operation on files or a start of a process can be refused with, and how
    a refusal is worded. -/

namespace SourceBundle

/-- Why the operating system refuses an operation. -/
inductive OsError where
  | noSuchFile
  | argumentTooLong
  | notExecutableFormat
  | permissionDenied
  | fileExists
  | notADirectory
  | isADirectory
  | noSpace
  | fileTooLarge
  | quotaExceeded
  | inputOutput
  | nameTooLong
  | tooManyLinks
  /-- What is read does not fit into the memory. -/
  | outOfMemory
  /-- A path holds a NUL byte, so it is no path for the system. -/
  | nulInPath
  /-- A word of a command holds a NUL byte, so it cannot be passed on. -/
  | nulInArgument
  deriving DecidableEq, Repr

/-- The wording of a refusal. -/
def OsError.reason : OsError → String
  | .noSuchFile => "No such file or directory"
  | .argumentTooLong => "Argument list too long"
  | .notExecutableFormat => "Exec format error"
  | .permissionDenied => "Permission denied"
  | .fileExists => "File exists"
  | .notADirectory => "Not a directory"
  | .isADirectory => "Is a directory"
  | .noSpace => "No space left on device"
  | .fileTooLarge => "File too large"
  | .quotaExceeded => "Disk quota exceeded"
  | .inputOutput => "Input/output error"
  | .nameTooLong => "File name too long"
  | .tooManyLinks => "Too many levels of symbolic links"
  | .outOfMemory => "out of memory"
  | .nulInPath => "file name contained an unexpected NUL byte"
  | .nulInArgument => "nul byte found in provided data"

/-- The number of a refusal, if the system itself numbers it. -/
def OsError.number? : OsError → Option Nat
  | .noSuchFile => some 2
  | .inputOutput => some 5
  | .argumentTooLong => some 7
  | .notExecutableFormat => some 8
  | .permissionDenied => some 13
  | .fileExists => some 17
  | .notADirectory => some 20
  | .isADirectory => some 21
  | .fileTooLarge => some 27
  | .noSpace => some 28
  | .nameTooLong => some 36
  | .tooManyLinks => some 40
  | .quotaExceeded => some 122
  | .outOfMemory | .nulInPath | .nulInArgument => none

/-- A refusal as a message shows it, with its number if it has one. -/
def OsError.message (e : OsError) : String :=
  match e.number? with
  | some n => e.reason ++ " (os error " ++ toString n ++ ")"
  | none => e.reason

end SourceBundle
