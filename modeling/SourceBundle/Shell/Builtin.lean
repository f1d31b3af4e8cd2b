import SourceBundle.Shell.Expansion
import SourceBundle.Shell.Printf
import SourceBundle.Shell.Signal
import SourceBundle.Shell.Test

/-! # Builtin commands — what a shell does itself

    A builtin takes its arguments as fields, changes the state of the shell, and
    says what it writes and how it ends (`Result`).  The builtins that look for
    commands are in `SourceBundle.Shell.Lookup`, those that run them in
    `SourceBundle.Shell.Run`. -/

namespace SourceBundle.Shell

/-- What a builtin comes to. -/
structure Result where
  output : Text := []
  status : Nat := 0
  flow : Flow := .next

namespace Builtin

/-! ## Arguments -/

/-- The whole number an argument says, not negative and of 31 bits. -/
def number (arg : Text) : Shell Nat := do
  match wholeNumber? 10 arg with
  | some n => if 0 ≤ n ∧ n < 2147483648 then return n.toNat else Shell.fail (illegal arg)
  | none => Shell.fail (illegal arg)
where
  /-- The complaint about an argument that is no such number. -/
  illegal (arg : Text) : Text := text "Illegal number: " ++ arg

/-- The options at the front of the arguments, each with its own argument if it takes one, and
    the arguments after them. A letter takes one if a colon follows it in `letters`. -/
def options (letters : String) (args : List Text) : Shell (List (Char × Text) × List Text) :=
  go (args.flatten.length + args.length + 1) [] [] args
where
  /-- Go on in an argument that was begun, or with the next one. -/
  go : (fuel : Nat) → List (Char × Text) → Text → List Text →
      Shell (List (Char × Text) × List Text)
    | 0, taken, _, args => return (taken, args)
    | fuel + 1, taken, [], args =>
        match args with
        | ['-', '-'] :: rest => return (taken, rest)
        | ('-' :: c :: letters) :: rest => go fuel taken (c :: letters) rest
        | _ => return (taken, args)
    | fuel + 1, taken, c :: rest, args =>
        match ((text letters).dropWhile (· ≠ c)) with
        | _ :: ':' :: _ =>
            match rest, args with
            | [], [] => Shell.fail (text "No arg for -" ++ c :: text " option")
            | [], arg :: args => go fuel (taken ++ [(c, arg)]) [] args
            | _, _ => go fuel (taken ++ [(c, rest)]) [] args
        | _ :: _ => go fuel (taken ++ [(c, [])]) rest args
        | [] => Shell.fail (text "Illegal option -" ++ [c])

/-- A line of output. -/
def line (s : Text) : Text := s ++ ['\n']

/-! ## Writing and testing -/

/-- The command `printf`. -/
def printf (args : List Text) : Shell Result := do
  let (_, args) ← options "" args
  match args with
  | [] => Shell.fail (text "usage: printf format [arg ...]")
  | format :: args => do
      let p := printed format args
      p.warnings.forM Shell.warn
      match p.failure with
      | some why => do
          let _ ← Shell.writeTo 1 p.text
          Shell.fail why
      | none => return { output := p.text, status := if p.warnings = [] then 0 else 1 }

/-- The commands `test` and `[`. -/
def test (args : List Text) : Shell Result := do
  match Test.truth (← get).files (args.length + 2) args with
  | .ok truth => return { status := if truth then 0 else 1 }
  | .error why => Shell.fail why

/-- The command `[`. Its last argument closes it; only how that begins matters. -/
def bracket (args : List Text) : Shell Result :=
  if (args.getLast?.bind (·.head?)) = some ']' then test args.dropLast
  else Shell.fail (text "missing ]")

/-! ## Directories -/

/-- The path of a directory as one gets there from another, dots resolved in its text. Two
    slashes in front stay. -/
def followed (here there : Text) : Text :=
  let isAbsolute := there.head? = some '/'
  let pieces := (Path.split (toBytes (if isAbsolute then there else here ++ '/' :: there))).map
    ofBytes
  let root : Text :=
    match if isAbsolute then there else here with
    | ['/', '/'] => ['/', '/']
    | '/' :: '/' :: c :: _ => if c = '/' then ['/'] else ['/', '/']
    | _ => ['/']
  let step (names : List Text) (piece : Text) : List Text :=
    if piece = [] ∨ piece = ['.'] then names
    else if piece = ['.', '.'] then names.dropLast
    else names ++ [piece]
  root ++ ['/'].intercalate (pieces.foldl step [])

/-- The places where a name is looked for: in each of the directories of a list. -/
def alongPath (directories name : Text) : List (Text × Text) :=
  let pieces := directories.splitOn ':'
  pieces.map fun d => (d, if d = [] then name else d ++ '/' :: name)

/-- Enter a directory; says whether that was possible. -/
def enter (physical : Bool) (there : Text) : Shell Bool := do
  let s ← get
  let target := if physical then there else followed s.directory there
  match s.files.locate .reach ⟨toBytes target⟩ with
  | .error _ => return false
  | .ok place =>
      if s.files.entryOf? place ≠ some .directory then return false
      else do
        let shown :=
          if physical then ofBytes (Path.ofLocation place).bytes else target
        Shell.declare (text "OLDPWD") (some s.directory) true false
        modify fun s =>
          { s with files := { s.files with workingDir := place }, directory := shown }
        Shell.declare (text "PWD") (some shown) true false
        return true

/-- Does a path say where to begin, so that it is looked for nowhere else? -/
def isAnchored (path : Text) : Bool :=
  match path with
  | '/' :: _ | ['.'] | '.' :: '/' :: _ | ['.', '.'] | '.' :: '.' :: '/' :: _ => true
  | _ => false

/-- The command `cd`. -/
def cd (args : List Text) : Shell Result := do
  let (flags, args) ← options "LP" args
  let physical := (flags.getLast?.map (·.1)) = some 'P'
  let (target, back) ← match args with
    | [] => do pure ((← Shell.valueOf? "HOME").getD [], false)
    | ['-'] :: _ => do pure ((← Shell.valueOf? "OLDPWD").getD [], true)
    | target :: _ => pure (target, false)
  let shown (print : Bool) : Shell Result := do
    let s ← get
    return { output := if print then line s.directory else [] }
  let refuse : Shell Result := Shell.fail (text "can't cd to " ++ target)
  if isAnchored target then
    if ← enter physical target then shown back else refuse
  else do
    let name := if target = [] then ['.'] else target
    let places := alongPath ((← Shell.valueOf? "CDPATH").getD []) name
    let s ← get
    match places.find? fun (_, path) => s.files.isDirectory ⟨toBytes path⟩ with
    | some (directory, path) =>
        if ← enter physical path then shown (back || directory ≠ []) else refuse
    | none => if ← enter physical target then shown back else refuse

/-- The command `pwd`. -/
def pwd (args : List Text) : Shell Result := do
  let (flags, _) ← options "LP" args
  let s ← get
  if (flags.getLast?.map (·.1)) = some 'P' then
    return { output := line (ofBytes (Path.ofLocation s.files.workingDir).bytes) }
  else return { output := line s.directory }

/-! ## Variables and options -/

/-- The name and the value of an argument that assigns to a variable. -/
def splitAssignment (arg : Text) : Text × Option Text :=
  let name := arg.takeWhile (· ≠ '=')
  match arg.drop name.length with
  | _ :: value => (name, some value)
  | [] => (name, none)

/-- Check the name of a variable. -/
def checkName (name : Text) : Shell Unit :=
  if isName name then return () else Shell.fail (name ++ text ": bad variable name")

/-- Variables as they can be read back, after a word. -/
def listing (word : String) (p : Variable → Bool) : Shell Text := do
  let all ← Shell.sortedVariables p
  let front := if word = "" then [] else text (word ++ " ")
  return all.flatMap fun (name, v) =>
    line (front ++ name ++ match v.value with
      | some value => '=' :: Shell.singleQuote value
      | none => [])

/-- The commands `export` and `readonly`. -/
def declare (word : String) (args : List Text) : Shell Result := do
  let readOnly := word = "readonly"
  let (flags, args) ← options "p" args
  if flags ≠ [] ∨ args = [] then
    return { output := ← listing word fun v => if readOnly then v.readOnly else v.exported }
  else do
    args.forM fun arg => do
      let (name, value) := splitAssignment arg
      checkName name
      Shell.declare name value (!readOnly) readOnly
    return {}

/-- The command `local`. -/
def makeLocal (args : List Text) : Shell Result := do
  if (← get).kept.isEmpty then Shell.fail (text "not in a function")
  args.forM fun arg => do
    if arg = ['-'] then
      modify fun s =>
        match s.kept with
        | [] => s
        | frame :: frames => { s with kept := (.options s.options :: frame) :: frames }
    else do
      let (name, value) := splitAssignment arg
      checkName name
      Shell.keep name
      Shell.declare name value false false
  return {}

/-- The command `unset`. -/
def unset (args : List Text) : Shell Result := do
  let (flags, args) ← options "vf" args
  let functions := (flags.getLast?.map (·.1)) = some 'f'
  args.forM fun name =>
    if functions then
      modify fun s => { s with functions := s.functions.filter (·.1 ≠ name) }
    else do
      checkName name
      Shell.unset name
  return {}

/-- Turn an option on or off by its letter. -/
def setOption (on : Bool) (letter : Char) : Shell Unit := do
  if optionNames.any fun o => o.2 = some letter then
    modify fun s =>
      let others := s.options.filter (· ≠ letter)
      { s with options := if on then letter :: others else others }
  else Shell.fail (text "Illegal option -" ++ [letter])

/-- Turn an option on or off by its name. -/
def setNamedOption (on : Bool) (name : Text) : Shell Unit := do
  match optionNames.find? fun o => text o.1 = name with
  | some (_, some letter) => setOption on letter
  | some (_, none) => return ()
  | none => Shell.fail (text "Illegal option -o " ++ name)

/-- The options and their states: as a table, or as commands that set them. -/
def optionListing (asTable : Bool) : Shell Text := do
  let s ← get
  let isOn (letter : Option Char) : Bool :=
    match letter with
    | some c => s.options.contains c
    | none => false
  let row (o : String × Option Char) : Text :=
    if asTable then
      let name := text o.1
      line (name ++ List.replicate (16 - name.length) ' ' ++ text (if isOn o.2 then "on" else "off"))
    else line (text (if isOn o.2 then "set -o " else "set +o ") ++ text o.1)
  return (if asTable then text "Current option settings\n" else []) ++ optionNames.flatMap row

/-- The letters of one argument with options. The name after an `o` is the next argument. -/
def setLetters (on : Bool) : Text → List Text → Shell (Text × List Text)
  | [], args => return ([], args)
  | 'o' :: letters, args =>
      match args with
      | [] => do
          let listing ← optionListing on
          let (more, args) ← setLetters on letters []
          return (listing ++ more, args)
      | name :: args => do
          setNamedOption on name
          setLetters on letters args
  | c :: letters, args => do
      setOption on c
      setLetters on letters args

/-- Set the positional parameters. -/
def setParameters (parameters : List Text) : Shell Unit := modify fun s =>
  { s with parameters := parameters, optionIndex := 1, optionOffset := none }

/-- Go through the arguments of `set`. -/
def setAll : (fuel : Nat) → Text → List Text → Shell Result
  | 0, output, _ => return { output := output }
  | fuel + 1, output, args => do
      match args with
      | [] => return { output := output }
      | ['-', '-'] :: rest => do
          setParameters rest
          return { output := output }
      | ['-'] :: rest => do
          modify fun s => { s with options := s.options.filter fun c => c ≠ 'x' && c ≠ 'v' }
          if rest ≠ [] then setParameters rest
          return { output := output }
      | ('-' :: letters) :: rest => do
          let (more, rest) ← setLetters true letters rest
          setAll fuel (output ++ more) rest
      | ('+' :: letters) :: rest => do
          let (more, rest) ← setLetters false letters rest
          setAll fuel (output ++ more) rest
      | _ => do
          setParameters args
          return { output := output }

/-- The command `set`. -/
def set (args : List Text) : Shell Result := do
  if args = [] then return { output := ← listing "" fun v => v.value.isSome }
  else setAll (args.length + 1) [] args

/-- The command `shift`. -/
def shift (args : List Text) : Shell Result := do
  let n ← match args with
    | [] => pure 1
    | arg :: _ => number arg
  let s ← get
  if s.parameters.length < n then Shell.fail (text "can't shift that many")
  setParameters (s.parameters.drop n)
  return {}

/-! ## Aliases -/

/-- An alias as it can be read back. -/
def showAlias (a : Text × Text) : Text := line (a.1 ++ '=' :: Shell.singleQuote a.2)

/-- The command `alias`. -/
def defineAlias (args : List Text) : Shell Result := do
  if args = [] then
    return { output := (← get).aliases.reverse.flatMap showAlias }
  else
    args.foldlM (fun r arg => do
      match splitAssignment arg with
      | (name, some value) => do
          modify fun s => { s with aliases := (name, value) :: s.aliases.filter (·.1 ≠ name) }
          return r
      | (name, none) =>
          match (← get).aliases.lookup name with
          | some value => return { r with output := r.output ++ showAlias (name, value) }
          | none => do
              let _ ← Shell.writeTo 2 (line (text "alias: " ++ name ++ text " not found"))
              return { r with status := 1 }) {}

/-- The command `unalias`. -/
def unalias (args : List Text) : Shell Result := do
  let (flags, args) ← options "a" args
  if flags ≠ [] then
    modify fun s => { s with aliases := [] }
    return {}
  else
    args.foldlM (fun r name => do
      if ((← get).aliases.lookup name).isSome then
        modify fun s => { s with aliases := s.aliases.filter (·.1 ≠ name) }
        return r
      else do
        let _ ← Shell.writeTo 2 (line (text "unalias: " ++ name ++ text " not found"))
        return { r with status := 1 }) {}

/-! ## Reading -/

/-- The runs of the line that begins the input, the number of bytes it takes, and whether it has
    an end. Unless the input is taken as it is, a backslash keeps the character after it whole
    and joins lines. -/
def inputLine (raw : Bool) : (input : Bytes) → (taken : Nat) → (current : List Cell) →
    List Run × Nat × Bool
  | [], taken, current => ([⟨.atSeparators, current.reverse⟩], taken, false)
  | 0x5C :: b :: rest, taken, current =>
      if raw then
        inputLine raw (b :: rest) (taken + 1) (.char false '\\' :: current)
      else
        let (runs, count, ended) := inputLine raw rest (taken + 2) []
        let kept : List Run := if b = 0x0A then [] else [⟨.never, [.char false (ofByte b)]⟩]
        (⟨.atSeparators, current.reverse⟩ :: kept ++ runs, count, ended)
  | b :: rest, taken, current =>
      if b = 0x0A then ([⟨.atSeparators, current.reverse⟩], taken + 1, true)
      else if b = 0x5C ∧ ¬ raw then ([⟨.atSeparators, current.reverse⟩], taken + 1, false)
      else if b = 0x00 then inputLine raw rest (taken + 1) current
      else inputLine raw rest (taken + 1) (.char false (ofByte b) :: current)

/-- The command `read`. -/
def read (args : List Text) : Shell Result := do
  let (flags, names) ← options "p:r" args
  if names = [] then Shell.fail (text "arg count")
  let s ← get
  let stream := s.descriptors.lookup 0
  let input := (stream.bind s.toWorld.unread?).getD []
  let (runs, count, ended) := inputLine (flags.any (·.1 = 'r')) input 0 []
  match stream with
  | some number => modify fun s => { s with toWorld := s.toWorld.skip number count }
  | none => pure ()
  let fields := (fieldsOf (← Shell.separators) (some names.length) runs).map Cell.text
  let values := fields ++ List.replicate names.length []
  (names.zip values).forM fun (name, value) => do
    checkName name
    Shell.assign name value
  return { status := if ended then 0 else 1 }

/-! ## Options of scripts -/

/-- What `getopts` finds: the letter, its argument, and where to look next. -/
structure Found where
  letter : Char
  /-- The new value of the variable for the argument; nothing if it is taken away. -/
  argument : Option Text
  index : Nat
  offset : Option Nat
  complaint : Option Text

/-- The next option of the arguments; nothing if there is none, and the index after them. -/
def nextOption (letters : Text) (args : List Text) (index : Nat) (offset : Option Nat) :
    Except Nat Found :=
  let begun : Text :=
    match offset with
    | some n => if 1 < index then ((args[index - 2]?).getD []).drop n else []
    | none => []
  let quiet := letters.head? = some ':'
  let after (c : Char) (rest : Text) (index : Nat) : Except Nat Found :=
    let offset := if rest = [] then some ((args[index - 2]?).getD []).length
      else some (((args[index - 2]?).getD []).length - rest.length)
    match knownLetter c letters with
    | none =>
        .ok ⟨'?', if quiet then some [c] else none, index, offset,
          if quiet then none else some (text "Illegal option -" ++ [c])⟩
    | some false => .ok ⟨c, some [], index, offset, none⟩
    | some true =>
        if rest ≠ [] then .ok ⟨c, some rest, index, none, none⟩
        else match args[index - 1]? with
          | some arg => .ok ⟨c, some arg, index + 1, none, none⟩
          | none =>
              if quiet then .ok ⟨':', some [c], index, none, none⟩
              else .ok ⟨'?', none, index, none,
                some (text "No arg for -" ++ c :: text " option")⟩
  match begun with
  | c :: rest => after c rest index
  | [] =>
      match args[index - 1]? with
      | some ['-', '-'] => .error (index + 1)
      | some ('-' :: c :: rest) => after c rest (index + 1)
      | _ => .error index
where
  /-- Is the letter an option, and does it take an argument? -/
  knownLetter (c : Char) : Text → Option Bool
    | [] => none
    | d :: ':' :: rest => if d = c then some true else knownLetter c rest
    | d :: rest => if d = c then some false else knownLetter c rest

/-- The command `getopts`. -/
def getopts (args : List Text) : Shell Result := do
  match args with
  | letters :: name :: rest => do
      let s ← get
      let given := if rest = [] then s.parameters else rest
      let (index, offset) :=
        if given.length + 1 < s.optionIndex then (1, none)
        else (s.optionIndex, s.optionOffset)
      let leave (letter : Char) (index : Nat) (offset : Option Nat) : Shell Unit := do
        Shell.assign (text "OPTIND") (decimal index)
        checkName name
        Shell.assign name [letter]
        modify fun s => { s with optionIndex := index, optionOffset := offset }
      match nextOption letters given index offset with
      | .error index => do
          leave '?' index none
          return { status := 1 }
      | .ok found => do
          match found.argument with
          | some value => Shell.assign (text "OPTARG") value
          | none => do
              if let some why := found.complaint then
                let _ ← Shell.writeTo 2 (line why)
              Shell.unset (text "OPTARG")
          leave found.letter found.index found.offset
          return {}
  | _ => Shell.fail (text "Usage: getopts optstring var [arg...]")

/-! ## Signals and processes -/

/-- The command `trap`. -/
def trap (args : List Text) : Shell Result := do
  let (_, args) ← options "" args
  match args with
  | [] => do
      let traps := (← get).traps.mergeSort fun a b => a.1 ≤ b.1
      return { output := traps.flatMap shown }
  | first :: rest => do
      let isNumber := first ≠ [] ∧ first.all Char.isDigit ∧ (Signal.ofText? first).isSome
      if rest = [] ∨ isNumber then change none args else change (some first) rest
where
  /-- A trap as it can be read back. -/
  shown (t : Nat × Text) : Text :=
    line (text "trap -- " ++ Shell.singleQuote t.2 ++ ' ' :: Signal.name t.1)
  /-- Change what is done on signals. -/
  change (action : Option Text) : List Text → Shell Result
    | [] => return {}
    | name :: names => do
        match Signal.ofText? name with
        | none => do
            let _ ← Shell.writeTo 2 (line (text "trap: " ++ name ++ text ": bad trap"))
            return { status := 1 }
        | some n => do
            let others := (← get).traps.filter (·.1 ≠ n)
            let traps := match action with
              | none | some ['-'] => others
              | some action => (n, action) :: others
            modify fun s => { s with traps := traps }
            change action names

/-- The complaint of `kill` about its arguments. -/
def killUsage {α : Type} : Shell α :=
  Shell.fail (text ("Usage: kill [-s sigspec | -signum | -sigspec] [pid | job]... or\n"
    ++ "kill -l [exitstatus]"))

/-- Send a signal to processes by their numbers; those that are gone are complained about. -/
def send (signal : Nat) (targets : List Text) : Shell Result :=
  targets.foldlM (fun r target => do
    let (group, digits) :=
      match target with
      | '-' :: digits => (true, digits)
      | digits => (false, digits)
    let n ← number digits
    let s ← get
    if ! group ∧ n = s.number then
      Shell.receive signal
      return r
    else if ! group ∧ (n = s.root ∨ s.jobs.any (·.1 = n)) then
      modify fun s => { s with signals := s.signals ++ [(n, signal)] }
      return r
    else do
      Shell.warn (text "No such process\n")
      return { r with status := 1 }) {}

/-- The command `kill`. -/
def kill (args : List Text) : Shell Result := do
  let signalOf? (name : Text) : Option Nat := (Signal.ofText? name).filter fun n =>
    n ≠ 0 || name.all Char.isDigit
  let (signal, list, targets) ← match args with
    | [] => killUsage
    | ('-' :: name) :: rest =>
        match signalOf? name with
        | some n => pure (n, false, rest)
        | none => do
            let (flags, rest) ← options "ls:" args
            let signal ← flags.foldlM (fun signal (letter, arg) =>
              if letter = 's' then
                match signalOf? arg with
                | some n => pure n
                | none => Shell.fail (text "invalid signal number or name: " ++ arg)
              else pure signal) 15
            pure (signal, flags.any (·.1 = 'l'), rest)
    | _ => pure (15, false, args)
  if list then
    match targets with
    | [] =>
        return { output := line ['0'] ++ (Signal.names.drop 1).flatMap fun n => line (text n) }
    | target :: _ => do
        let n ← number target
        let n := if 128 < n then n - 128 else n
        if 0 < n ∧ n < Signal.names.length then return { output := line (Signal.name n) }
        else Shell.fail (text "invalid signal number or exit status: " ++ target)
  else if targets = [] then killUsage
  else send signal targets

/-- The command `wait`: the processes of the background are over when they have been started. -/
def wait (args : List Text) : Shell Result := do
  let (_, args) ← options "" args
  if args = [] then return {}
  else
    args.foldlM (fun _ arg => do
      let n ← number arg
      match (← get).jobs.lookup n with
      | some exit => do
          let _ ← Shell.writeTo 2 exit.notice
          return { status := exit.status }
      | none => return { status := 127 }) {}

/-- The command `umask`, which shows the mask or sets it. -/
def umask (args : List Text) : Shell Result := do
  let (flags, args) ← options "S" args
  let mask := (← get).mask
  match args with
  | [] => return { output := line (if flags = [] then mask.toOctal else mask.toSymbols) }
  | arg :: _ =>
      let isNumber := arg.head?.any (·.isDigit)
      match if isNumber then Mask.ofOctal arg else mask.ofSymbols arg with
      | some mask => do
          modify fun s => { s with mask := mask }
          return {}
      | none => Shell.fail (text (if isNumber then "Illegal number: " else "Illegal mode: ") ++ arg)

/-- The size of the blocks that `ulimit` counts the size of files by. -/
def blockSize : Nat := 512

/-- The command `ulimit`. It shows and lowers the size of the files that may be made; there is
    plenty of all else. -/
def ulimit (args : List Text) : Shell Result := do
  let (flags, args) ← options "HSatfdscmlpnvwr" args
  let what := ((flags.map (·.1)).filter fun c => !(text "HSa").contains c).getLastD 'f'
  let s ← get
  let limit : Option WriteLimit := if what = 'f' then s.files.limit else none
  match args with
  | [] =>
      return { output := line (match limit with
        | some limit => decimal (limit.bytes / blockSize)
        | none => text "unlimited") }
  | [arg] => do
      let size : Option Nat ←
        if arg = text "unlimited" then pure none
        else if arg.all Char.isDigit then pure (some (ofDigits 10 arg * blockSize))
        else Shell.fail (text "bad number")
      let raises : Bool :=
        match limit, size with
        | none, _ => false
        | some _, none => true
        | some limit, some size => limit.bytes < size
      if raises then Shell.fail (text "error setting limit (Operation not permitted)")
      if what = 'f' then
        modify fun s =>
          { s with files := { s.files with limit := size.map fun n => ⟨n, .fileTooLarge⟩ } }
      return {}
  | _ => Shell.fail (text "too many arguments")

/-! ## Leaving -/

/-- The commands `break` and `continue`; outside of loops they do nothing. -/
def leaveLoops (again : Bool) (args : List Text) : Shell Result := do
  let n ← match args with
    | [] => pure 1
    | arg :: _ => do
        let n ← number arg
        if n = 0 then Shell.fail (text "Illegal number: " ++ arg) else pure n
  let n := min n (← get).loops
  return { flow := if n = 0 then .next else .leave n again }

/-- The command `return`. -/
def leaveFunction (args : List Text) : Shell Result := do
  let status ← match args with
    | [] => do pure (← get).status
    | arg :: _ => number arg
  return { status := status, flow := .back }

/-- The command `exit`. -/
def exit (args : List Text) : Shell Result := do
  match args with
  | [] => throw .exited
  | arg :: _ => do
      let n ← number arg
      modify fun s => { s with trapStatus := some n }
      throw .exited

/-! ## All of them -/

/-- The builtins that need nothing but their arguments. -/
def find? (name : String) : Option (List Text → Shell Result) :=
  match name with
  | ":" | "true" => some fun _ => return {}
  | "false" => some fun _ => return { status := 1 }
  | "echo" => some fun args => return { output := echoText args }
  | "printf" => some printf
  | "test" => some test
  | "[" => some bracket
  | "cd" | "chdir" => some cd
  | "pwd" => some pwd
  | "export" | "readonly" => some (declare name)
  | "local" => some makeLocal
  | "unset" => some unset
  | "set" => some set
  | "shift" => some shift
  | "alias" => some defineAlias
  | "unalias" => some unalias
  | "read" => some read
  | "getopts" => some getopts
  | "trap" => some trap
  | "kill" => some kill
  | "wait" => some wait
  | "umask" => some umask
  | "ulimit" => some ulimit
  | "times" => some fun _ =>
      return { output := text "0m0.000000s 0m0.000000s\n0m0.000000s 0m0.000000s\n" }
  | "jobs" => some fun _ => return {}
  | "fg" | "bg" => some fun _ => Shell.fail (text "No current job")
  | "break" => some (leaveLoops false)
  | "continue" => some (leaveLoops true)
  | "return" => some leaveFunction
  | "exit" => some exit
  | _ => none

/-- The builtins that run other commands, or look for them. -/
def runners : List String := ["eval", ".", "exec", "command", "type", "hash"]

/-- Is the name that of a builtin? -/
def isBuiltin (name : String) : Bool := runners.contains name || (find? name).isSome

/-- The builtins whose arguments may be assignments. -/
def declaring : List String := ["export", "readonly", "local", "alias"]

end Builtin

end SourceBundle.Shell
