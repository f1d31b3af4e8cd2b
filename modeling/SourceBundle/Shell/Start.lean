import SourceBundle.Machine.Bundler
import SourceBundle.Machine.Executable
import SourceBundle.Machine.Remove
import SourceBundle.Shell.Life
import SourceBundle.Shell.Lookup

/-! # Starting programs

    A program takes the place of the process that starts it: it keeps the streams,
    the working directory and the process's number, and gets its words and the
    variables that are exported.  The programs of the machine are the shell itself,
    `rm` and the bundler.  A file that is no program and names no interpreter is a
    script for the shell. -/

namespace SourceBundle.Shell

/-- The process of a shell that starts with variables, in the place of another. -/
def Process.fresh (number : Nat) (descriptors : List (Nat × Nat)) (traps : List (Nat × Text))
    (name : Text) (bindings : List (Text × Variable)) (directory : Text) (mask : Mask) :
    Process :=
  { number := number, root := number, descriptors := descriptors, bindings := bindings,
    functions := [], aliases := [], located := [], documents := [], nextDocument := 0,
    name := name, parameters := [], optionIndex := 1, optionOffset := none,
    directory := directory, mask := mask, status := 0, outputStatus := 0, options := [],
    line := 0, scriptLine := 1, commandName := none, loops := 0, calls := 0, kept := [],
    traps := traps, pending := [], trapStatus := none, lastBackground := none, jobs := [] }

namespace Start

/-- The working directory as a shell knows it at its start: as `PWD` says it if that leads
    there. -/
def directoryName (fs : FileSystem) (claimed : Option Text) : Text :=
  let here := ofBytes (Path.ofLocation fs.workingDir).bytes
  match claimed with
  | some ('/' :: rest) =>
      match fs.locate .reach ⟨toBytes ('/' :: rest)⟩ with
      | .ok place => if place = fs.workingDir then '/' :: rest else here
      | .error _ => here
  | _ => here

/-- The variables of a shell that starts: those it is given, and those it sets itself. -/
def startVariables (directory : Text) (given : List (Text × Text)) : List (Text × Variable) :=
  let own (name : String) (value : Text) : Text × Variable :=
    (text name, ⟨some value, false, false⟩)
  let set : List (Text × Variable) :=
    [(text "PWD", ⟨some directory, true, false⟩), own "IFS" (text " \t\n"),
      own "OPTIND" ['1'], own "PPID" ['1']]
  let taken (name : Text) : Bool := set.any fun v => v.1 = name
  let given : List (Text × Variable) :=
    (given.filter fun v => isName v.1 && !taken v.1).map fun (name, value) =>
      (name, ⟨some value, true, false⟩)
  let usual : List (Text × Variable) :=
    [own "PATH" Lookup.usualDirectories, own "PS1" (text "# "), own "PS2" (text "> "),
      own "PS4" (text "+ ")]
  set ++ given ++ usual.filter fun v => ¬ given.any fun w => w.1 = v.1

/-- The variables that programs are given. -/
def exportedVariables (s : State) : List (Text × Text) :=
  s.bindings.filterMap fun (name, v) => if v.exported then v.value.map (name, ·) else none

/-- The host that a program sees in the place of a shell. -/
def hostOf (s : State) : Host :=
  { files := s.files,
    environment := ⟨(exportedVariables s).map fun (name, value) =>
      (String.ofList name, toBytes value)⟩ }

/-- A shell in the place of the given one, at its start. -/
def freshShell (s : State) (name : Text) : State :=
  let given := exportedVariables s
  let directory := directoryName s.files (given.lookup (text "PWD"))
  { s with
    toProcess := .fresh s.number s.descriptors (s.traps.filter (·.2 = [])) name
      (startVariables directory given) directory s.mask }

/-- Read the options in front of a shell's arguments: whether a script is among these, and the
    arguments after the options. -/
def startOptions : (rounds : Nat) → (inArgument : Bool) → List Text → Shell (Bool × List Text)
  | 0, inArgument, args => return (inArgument, args)
  | rounds + 1, inArgument, args => do
      match args with
      | ['-'] :: rest | ['-', '-'] :: rest => return (inArgument, rest)
      | (sign :: letters) :: rest =>
          if sign = '-' ∨ sign = '+' then do
            let ownLetter (c : Char) : Bool := c == 'c' || c == 'l'
            let (shown, rest) ← Builtin.setLetters (sign = '-') (letters.filter (! ownLetter ·)) rest
            let _ ← Shell.writeTo 1 shown
            startOptions rounds (inArgument || letters.contains 'c') rest
          else return (inArgument, args)
      | _ => return (inArgument, args)

/-- The content of a script's file. -/
def scriptAt (name : Text) : Shell Text := do
  match (← get).files.contents ⟨toBytes name⟩ with
  | .ok content => return ofBytes content
  | .error .isADirectory => return []
  | .error e => Redirection.refuse false name e

/-- Run what is left to read of the first stream as a script. -/
def runInput (eval : Evaluator) : Shell Unit := do
  let s ← get
  match s.descriptors.lookup 0 with
  | none => return ()
  | some number => do
      let script := (s.toWorld.unread? number).getD []
      modify fun s => { s with toWorld := s.toWorld.skip number script.length }
      let _ ← runText eval false false true (ofBytes script)

/-- What a shell does with its arguments. -/
def runShell (eval : Evaluator) (args : List Text) : Shell Unit := do
  let (inArgument, args) ← startOptions (args.length + 1) false args
  if inArgument then
    match args with
    | [] => Shell.fail (text "-c requires an argument")
    | script :: rest => do
        match rest with
        | [] => pure ()
        | name :: parameters => modify fun s => { s with name := name, parameters := parameters }
        let fromInput ← Shell.option 's'
        let _ ← runText eval false (!fromInput) false script
        if fromInput then runInput eval
  else match (← Shell.option 's'), args with
    | false, name :: parameters => do
        let script ← scriptAt name
        modify fun s => { s with name := name, parameters := parameters }
        let _ ← runText eval false false true script
    | _, parameters => do
        modify fun s =>
          { s with parameters := parameters,
                   options := if s.options.contains 's' then s.options else 's' :: s.options }
        runInput eval

/-- Run a program in the place of this process: how it ends. -/
def become (eval : Evaluator) (program : Machine.Program) (words : List Text) : Shell Exit := do
  match program with
  | .shell => fun s =>
      match toEnd eval (runShell eval words.tail) (freshShell s (words.headD [])) with
      | .ok exit after => .ok exit { s with toWorld := after.toWorld }
      | .error stop after => .error stop { s with toWorld := after.toWorld }
  | .remove => do
      let r := Machine.remove (← get).files words
      modify fun s => { s with files := r.files }
      let _ ← Shell.writeTo 1 r.output
      let _ ← Shell.writeTo 2 r.complaints
      return .code r.status
  | .bundler => do
      let s ← get
      let host := hostOf s
      let words := words.tail.map toBytes
      let ending := SourceBundle.Program.main s.launch host words
      modify fun s => { s with files := ending.files }
      let _ ← Shell.writeTo 1 (ofBytes (Utf8.encode ending.stdout))
      if Machine.oversteps s.launch host words then Shell.receive Signal.fileTooLarge
      let _ ← Shell.writeTo 2 (ofBytes (Utf8.encode ending.stderr))
      return .code ending.exitCode

/-- The program that runs when the file at a path is started: a file that is none is a script
    for the shell. -/
def programAt (s : State) (path : Text) (words : List Text) :
    Except OsError (Machine.Program × List Bytes) :=
  let words := words.map toBytes
  let settings := (exportedVariables s).map fun (name, value) =>
    Environment.setting (toBytes name) (toBytes value)
  match Machine.programAt s.files (toBytes path) words settings with
  | .error .notExecutableFormat =>
      let shell := Utf8.encode "/bin/sh"
      Machine.programAt s.files shell (shell :: toBytes path :: words.tail) settings
  | result => result

/-- Run the program of a command in the place of this process, from the first of some paths that
    works out. -/
def execute {α : Type} (eval : Evaluator) (paths words : List Text) : Shell α :=
  go .noSuchFile paths
where
  /-- Go on with other paths; if none is left, this is why. -/
  go (why : OsError) : List Text → Shell α
    | [] => do
        let isMissing : Bool := [OsError.noSuchFile, .notADirectory, .nameTooLong,
          .tooManyLinks].contains why
        Shell.exits (if isMissing then 127 else 126)
        Shell.warn (refusalToRun (words.headD []) why)
        throw .ended
    | path :: rest => do
        match programAt (← get) path words with
        | .ok (program, words) => throw (.gone (← become eval program (words.map ofBytes)))
        | .error e => go (if e = .noSuchFile ∨ e = .notADirectory then why else e) rest

end Start

end SourceBundle.Shell
