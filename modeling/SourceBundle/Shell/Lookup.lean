import SourceBundle.Machine.Executable
import SourceBundle.Shell.Builtin

/-! # What names call — functions, builtins and programs

    A command's name calls a function, a builtin, or a program that is found in one
    of the directories of `PATH`.  The builtins `type`, `command -v` and `hash` tell
    what was found. -/

namespace SourceBundle.Shell

/-- What a name calls. -/
inductive Meaning where
  | function (body : Command)
  | builtin
  /-- A program at the first of the paths that works out. -/
  | program (paths : List Text)
  | unknown (why : OsError)

/-- Why there is no such command, as a complaint says it. -/
def refusalToRun (name : Text) (why : OsError) : Text :=
  let reason :=
    match why with
    | .noSuchFile | .notADirectory => "not found"
    | why => why.reason
  name ++ text ": " ++ text reason

namespace Lookup

/-- The directories programs are looked for in if `PATH` does not matter. -/
def usualDirectories : Text :=
  text "/usr/local/sbin:/usr/local/bin:/usr/sbin:/usr/bin:/sbin:/bin"

/-- The paths from the first on that leads to an executable file; if there is none, the last
    reason for that besides missing files. -/
def fromExecutable (fs : FileSystem) (why : OsError) : List Text → Except OsError (List Text)
  | [] => .error why
  | path :: rest =>
      match Machine.executableAt fs ⟨toBytes path⟩ with
      | .ok _ => .ok (path :: rest)
      | .error .noSuchFile | .error .notADirectory => fromExecutable fs why rest
      | .error e => fromExecutable fs e rest

/-- The paths at which the program of a name may stand: along `PATH`, or along the usual
    directories. -/
def programPaths (usual : Bool) (name : Text) : Shell (List Text) := do
  let directories ← if usual then pure usualDirectories
    else do pure ((← Shell.valueOf? "PATH").getD [])
  return (Builtin.alongPath directories name).map (·.2)

/-- What a name calls. -/
def meaning (functions usual : Bool) (name : Text) : Shell Meaning := do
  let s ← get
  if name.contains '/' then return .program [name]
  else match if functions then s.functions.lookup name else none with
    | some body => return .function body
    | none =>
        if Builtin.isBuiltin (String.ofList name) then return .builtin
        else match fromExecutable s.files .noSuchFile (← programPaths usual name) with
          | .error why => return .unknown why
          | .ok paths => do
              if ! usual then
                modify fun s =>
                  { s with located :=
                      (name, paths.headD []) :: s.located.filter (·.1 ≠ name) }
              return .program paths

/-- What is said about a name, and the exit code for it. -/
def describe (verbose usual : Bool) (name : Text) : Shell (Text × Nat) := do
  let s ← get
  let say (long : String) (short : Text) : Shell (Text × Nat) :=
    return (Builtin.line (if verbose then name ++ text long else short), 0)
  let unknown : Shell (Text × Nat) :=
    return (if verbose then Builtin.line (name ++ text ": not found") else [], 127)
  if keywords.contains (String.ofList name) then say " is a shell keyword" name
  else match s.aliases.lookup name, if usual then none else s.located.lookup name with
    | some value, _ =>
        say (" is an alias for " ++ String.ofList value)
          (text "alias " ++ name ++ '=' :: Shell.singleQuote value)
    | none, some path => say (" is a tracked alias for " ++ String.ofList path) path
    | none, none =>
        match ← meaning true usual name with
        | .function _ => say " is a shell function" name
        | .builtin =>
            say (if specialBuiltins.contains (String.ofList name) then " is a special shell builtin"
              else " is a shell builtin") name
        | .program paths =>
            let path := paths.headD []
            if s.files.pathExists ⟨toBytes path⟩ then say (" is " ++ String.ofList path) path
            else unknown
        | .unknown _ => unknown

/-- The command `type`. -/
def typeOf (names : List Text) : Shell Result :=
  names.foldlM (fun r name => do
    let (said, status) ← describe true false name
    return { r with output := r.output ++ said, status := r.status ||| status }) {}

/-- The command `command`, when it only tells what a name calls. -/
def tell (args : List Text) : Shell Result := do
  let (flags, names) ← Builtin.options "pvV" args
  let has (letter : Char) : Bool := flags.any (·.1 = letter)
  match names with
  | name :: _ =>
      if has 'v' ∨ has 'V' then
        let (said, status) ← describe (has 'V') (has 'p') name
        return { output := said, status := status }
      else return {}
  | [] => return {}

/-- The command `hash`. -/
def hash (args : List Text) : Shell Result := do
  let (flags, names) ← Builtin.options "r" args
  if flags ≠ [] then
    modify fun s => { s with located := [] }
    return {}
  else if names = [] then
    return { output := (← get).located.flatMap fun (_, path) => Builtin.line path }
  else
    names.foldlM (fun r name => do
      match ← meaning true false name with
      | .unknown why => do
          Shell.warn (refusalToRun name why)
          return { r with status := 1 }
      | _ => return r) {}

/-- The file of a script that is read in: a path, or a file along `PATH`. -/
def scriptFile (name : Text) : Shell Text := do
  if name.contains '/' then return name
  else do
    let s ← get
    match (← programPaths false name).find? fun path => s.files.isFile ⟨toBytes path⟩ with
    | some path => return path
    | none => Shell.fail (name ++ text ": not found")

end Lookup

end SourceBundle.Shell
