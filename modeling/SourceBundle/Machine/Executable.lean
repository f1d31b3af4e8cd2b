import SourceBundle.Compilation

/-! # Executables — from the words of a command to a program

    The first word of a command names an executable file, by a path or in the
    directories of `PATH`.  A file that starts with `#!` names its interpreter in
    turn.  The only programs of the machine itself are its shell, `rm` and the
    bundler; they stand at fixed places. -/

namespace SourceBundle

namespace Machine

/-- The programs of the machine itself. -/
inductive Program where
  | shell
  | remove
  /-- The program that bundles, where a script finds the program that started it. -/
  | bundler
  deriving DecidableEq, Repr

/-- Where the programs of the machine stand. -/
def programs : List (Location × Program) :=
  let place (names : List String) : Location := names.map Utf8.encode
  [(place ["bin", "sh"], .shell), (place ["usr", "bin", "sh"], .shell),
    (place ["bin", "rm"], .remove), (place ["usr", "bin", "rm"], .remove),
    (place ["proc", "1", "exe"], .bundler)]

/-- The entries of a machine with nothing else on it. -/
def entries : List (Location × Entry) :=
  let directory (names : List String) : Location × Entry := (names.map Utf8.encode, .directory)
  [directory ["bin"], directory ["usr"], directory ["usr", "bin"], directory ["tmp"],
    directory ["etc"], directory ["dev"], directory ["proc"], directory ["proc", "1"]]
    ++ [(["dev", "null"].map Utf8.encode, .device .null),
      (["dev", "zero"].map Utf8.encode, .device .zero),
      (["dev", "full"].map Utf8.encode, .device .full)]
    ++ programs.map fun (place, _) => (place, .file [0x7F, 0x45, 0x4C, 0x46] true)

/-! ## Interpreters -/

/-- The place and the content of the executable file at a path. -/
def executableAt (fs : FileSystem) (path : Path) : Except OsError (Location × Bytes) :=
  match fs.locate .reach path with
  | .error e => .error e
  | .ok place =>
      match fs.entryOf? place with
      | some (.file content true) => .ok (place, content)
      | some _ => .error .permissionDenied
      | none => .error .noSuchFile

/-- A space or a tab. -/
def isBlank (b : UInt8) : Bool := b == 0x20 || b == 0x09

/-- How many bytes of a file are looked at for its interpreter; a shorter file counts as filled
    up with zeros. -/
def interpreterBytes : Nat := 256

/-- The part of a file that names its interpreter, between `#!` and the end of the line. A line
    that does not end within the bytes looked at has to go past the interpreter's name, which
    might be cut off otherwise. -/
def interpreterLine? (content : Bytes) : Option Bytes :=
  let front := content.take interpreterBytes
  match front ++ List.replicate (interpreterBytes - front.length) 0 with
  | 0x23 :: 0x21 :: rest =>
      let line := rest.takeWhile fun b => b ≠ lineFeed && b ≠ 0
      if rest[line.length]? = some lineFeed then some line
      else if (rest.dropWhile isBlank).any fun b => isBlank b || b == 0 then some rest.dropLast
      else none
  | _ => none
where
  /-- The byte that ends a line. -/
  lineFeed : UInt8 := 0x0A

/-- The interpreter that a file names, and the argument that goes with it. -/
def interpreter? (content : Bytes) : Option (Bytes × List Bytes) := do
  let line ← interpreterLine? content
  let line := ((line.reverse.dropWhile isBlank).reverse).dropWhile isBlank
  if line = [] then none
  else
    let ends (b : UInt8) : Bool := isBlank b || b == 0
    let name := line.takeWhile (! ends ·)
    let argument :=
      match line.drop name.length with
      | [] | 0 :: _ => []
      | rest => [(rest.dropWhile isBlank).takeWhile (· ≠ 0)]
    some (name, argument)

/-- How many interpreters may be named one by the other. -/
def maxInterpreters : Nat := 6

/-- The program that an executable file runs in the end, and its words: an interpreter's name, its
    argument and the file come before the arguments. An interpreter without a name is the working
    directory, which cannot be executed. -/
def interpret (fs : FileSystem) : (depth : Nat) → (path : Bytes) → (place : Location) →
    (content : Bytes) → (words : List Bytes) → Except OsError (Program × List Bytes)
  | 0, _, _, _, _ => .error .tooManyLinks
  | depth + 1, path, place, content, words =>
      match programs.lookup place with
      | some program => .ok (program, words)
      | none =>
          match interpreter? content with
          | none => .error .notExecutableFormat
          | some (name, argument) => do
              if name = [] then throw .permissionDenied
              let (place, content) ← executableAt fs ⟨name⟩
              interpret fs depth name place content (name :: argument ++ path :: words.tail)

/-- The most bytes of a word or of a setting that a program is given, counting the NUL that ends
    it. -/
def maxArgument : Nat := 131072

/-- The program that runs when the file at a path is started with these words and settings. -/
def programAt (fs : FileSystem) (path : Bytes) (words settings : List Bytes) :
    Except OsError (Program × List Bytes) := do
  let (place, content) ← executableAt fs ⟨path⟩
  if (words ++ settings).any (maxArgument ≤ ·.length) then throw .argumentTooLong
  interpret fs maxInterpreters path place content words

/-! ## Looking for a program -/

/-- The pieces of a byte string between its colons. -/
def splitColons (bytes : Bytes) : List Bytes :=
  let step (b : UInt8) (pieces : List Bytes) : List Bytes :=
    if b = 0x3A then [] :: pieces
    else match pieces with
      | [] => [[b]]
      | piece :: pieces => (b :: piece) :: pieces
  bytes.foldr step [[]]

/-- The directories of a list in which a program is looked for. One too long for a path is left out
    at the end of the list; elsewhere the working directory stands in its place. -/
def usableDirs : List Bytes → List Bytes
  | [] => []
  | [dir] => if dir.length < FileSystem.maxPath then [dir] else []
  | dir :: dirs => (if dir.length < FileSystem.maxPath then dir else []) :: usableDirs dirs

/-- The directories programs are looked for in. -/
def searchDirs (env : Environment) : List Bytes :=
  usableDirs (splitColons ((env.get? "PATH").getD (Utf8.encode "/bin:/usr/bin")))

/-- A program's path in a directory; the empty name stands for the working directory. -/
def inDir (dir program : Bytes) : Path :=
  if dir = [] then ⟨program⟩ else ⟨dir ++ Path.slash :: program⟩

/-- The first of some attempts that works out. Missing files and those that must not be executed
    are passed over; the latter decide the error if nothing works out, else the last error. -/
def firstStarted {α : Type} (denied : Bool) (last : OsError) :
    List (Except OsError α) → Except OsError α
  | [] => .error (if denied then .permissionDenied else last)
  | .ok a :: _ => .ok a
  | .error .permissionDenied :: rest => firstStarted true .permissionDenied rest
  | .error .noSuchFile :: rest => firstStarted denied .noSuchFile rest
  | .error .notADirectory :: rest => firstStarted denied .notADirectory rest
  | .error e :: _ => .error e

/-- The program that the words of a command start on a host. A name that no file can have keeps
    only its first bytes, which are still too many. -/
def programOf (host : Host) (words : List Bytes) : Except OsError (Program × List Bytes) :=
  let name := words.headD []
  let settings := host.environment.settings
  if name = [] then .error .noSuchFile
  else if Path.slash ∈ name then programAt host.files name words settings
  else
    let name := name.take (FileSystem.maxName + 1)
    let attempt (dir : Bytes) := programAt host.files (inDir dir name).bytes words settings
    firstStarted false .noSuchFile ((searchDirs host.environment).map attempt)

end Machine

end SourceBundle
