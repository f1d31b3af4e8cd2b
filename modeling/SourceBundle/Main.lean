import SourceBundle.FileSystem.Difference
import SourceBundle.Machine
import SourceBundle.Program

/-! # The command line

    `main` takes what the program may look at from the disk and the environment,
    lets `Program.main` decide, and carries out what that leaves: the changed files,
    the two outputs and the exit code.  The compiler is run on the small machine of
    `SourceBundle.Machine`, so it has to be a script for its shell. -/

namespace SourceBundle.Disk

/-- The bytes of an array, in order. -/
def ofByteArray (bytes : ByteArray) : Bytes := bytes.toList

/-- The array of bytes. -/
def toByteArray (bytes : Bytes) : ByteArray := ⟨bytes.toArray⟩

/-- The variables the program looks at. -/
def variableNames : List String :=
  ["HOME", "XDG_CONFIG_HOME", "PATH", "MLBUNDLE_BACKEND", "MLBUNDLE_COMPILER"]

/-- The environment, as far as the program looks at it. -/
def environment : IO Environment := do
  let mut env : Environment := ⟨[]⟩
  for name in variableNames do
    if let some value ← IO.getEnv name then
      env := env.set name (Utf8.encode value)
  return env

/-- A file system with the machine's own entries and the directories down to the working one. -/
def workingDirectory : IO FileSystem := do
  let here := Path.ofText (toString (← IO.currentDir))
  let place := (Path.split here.bytes).filter (· ≠ [])
  let fs : FileSystem := { entries := Machine.entries, workingDir := place }
  return (fs.createDirectories here).2

/-- What the disk holds at a path, and the directories on the way there. -/
def look (fs : FileSystem) (p : Path) : IO FileSystem := do
  let some name := p.text? | return fs
  let around := match directoryOf? p with
    | some parent => (fs.createDirectories parent).2
    | none => fs
  try
    let content ← IO.FS.readBinFile name
    match around.writeFile p (ofByteArray content) with
    | .ok fs => return fs.setExecutable p true
    | .error _ => return fs
  catch _ =>
    try
      let _ ← IO.FS.realPath (name ++ "/.")
      return (fs.createDirectories p).2
    catch _ => return fs

/-- Look at a file and, in recursive mode, at all it includes. -/
partial def lookAtSource (o : BundleOptions) (depth : Nat) (fs : FileSystem) (p : Path) :
    IO FileSystem := do
  if fs.pathExists p then return fs
  let fs ← look fs p
  match fs.contents p with
  | .error _ => return fs
  | .ok content =>
      if depth = 1 ∧ o.mode = .single then return fs
      ((scan content).filter (·.kind = .inline)).foldlM
        (fun fs d => lookAtSource o (depth + 1) fs (o.includePath d)) fs

/-- The paths a program may be found at. -/
def programPaths (env : Environment) (program : String) : List Path :=
  let name := Utf8.encode program
  if Path.slash ∈ name then [⟨name⟩] else (Machine.searchDirs env).map (Machine.inDir · name)

/-- The user's session, before anything was looked at. -/
def session : IO Session := do
  return Machine.session ⟨← workingDirectory, ← environment⟩

/-- All of the disk that a command line may touch. -/
def sessionFor (c : CommandLine) : IO Session := do
  let s ← session
  let configs := (Config.userFile? s).toList ++ [c.config.getD Config.workspaceFile]
  let s := { s with files := ← configs.foldlM look s.files }
  match Program.configuration s c with
  | .error _ => return s
  | .ok config =>
      let settings := BuildSettings.ofConfig config
      let files ← lookAtSource settings.options 0 s.files settings.entry
      let targets := (directoryOf? settings.bundle).toList ++ [settings.bundle]
        ++ programPaths s.environment settings.program
      return { s with files := ← targets.foldlM look files }

/-- Make a change on the disk. -/
def carryOut (change : Change) : IO Unit := do
  let some name := Path.text? ⟨Path.slash :: change.path⟩ | return
  match change.now with
  | some .directory => IO.FS.createDirAll name
  | some (.file content _) => IO.FS.writeBinFile name (toByteArray content)
  | some (.link _) | some (.device _) => return
  | none => IO.FS.removeFile name

end SourceBundle.Disk

open SourceBundle in
/-- Run the program with the words of its command line. -/
def main (args : List String) : IO UInt32 := do
  let words := args.map Utf8.encode
  let session ← match CommandLine.parse words with
    | .ok c => Disk.sessionFor c
    | .error _ => Disk.session
  let ending := Program.main Machine.launch session words
  (FileSystem.changesBelow [] session.files ending.files).forM Disk.carryOut
  IO.print ending.stdout
  IO.eprint ending.stderr
  return UInt32.ofNat ending.exitCode
