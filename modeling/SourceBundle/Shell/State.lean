import SourceBundle.Shell.Grammar
import SourceBundle.Shell.Mask
import SourceBundle.Shell.Signal
import SourceBundle.Shell.Stream

/-! # The state of a shell

    A shell that runs a script has variables, functions, parameters and options of
    its own (`Process`) and shares the file system and the open streams with all
    others (`World`).  A step of running a script (`Shell`) changes this state, and
    may stop the shell. -/

namespace SourceBundle.Shell

/-- A variable of a shell; it may have properties before it has a value. -/
structure Variable where
  value : Option Text
  exported : Bool
  readOnly : Bool

/-- Something a function keeps to put it back when it returns. -/
inductive Kept where
  | variable (name : Text) (before : Option Variable)
  | options (before : List Char)

/-- What a shell has of its own. -/
structure Process where
  number : Nat
  /-- The number of the shell that started the script. -/
  root : Nat
  /-- The streams by the numbers that commands know them by. -/
  descriptors : List (Nat × Nat)
  bindings : List (Text × Variable)
  functions : List (Text × Command)
  aliases : List (Text × Text)
  /-- The programs found so far along `PATH`, and where. -/
  located : List (Text × Text)
  /-- The documents of the commands read so far. -/
  documents : List (Nat × Document)
  nextDocument : Nat
  /-- The name the shell or the script was started with. -/
  name : Text
  parameters : List Text
  /-- The parameter that `getopts` looks at next, and how far it is in that. -/
  optionIndex : Nat
  optionOffset : Option Nat
  /-- The working directory as the shell got there. -/
  directory : Text
  /-- The permissions that new files are denied. -/
  mask : Mask
  /-- The exit code of the last command. -/
  status : Nat
  /-- The exit code of the last command substitution of this command. -/
  outputStatus : Nat
  /-- The letters of the options that are on. -/
  options : List Char
  /-- The line that complaints name. -/
  line : Nat
  /-- The line that has been read up to. -/
  scriptLine : Nat
  /-- The builtin that is running. -/
  commandName : Option Text
  /-- How many loops are running. -/
  loops : Nat
  /-- How many functions are running. -/
  calls : Nat
  /-- What each running function keeps; the last called comes first. -/
  kept : List (List Kept)
  /-- What to do on a signal, and on the end of the shell as number 0. -/
  traps : List (Nat × Text)
  /-- Signals that have come and whose actions have not run. -/
  pending : List Nat
  /-- The exit code to go back to after an action. -/
  trapStatus : Option Nat
  /-- The last process started in the background. -/
  lastBackground : Option Nat
  /-- The processes of the background that are over, and how they ended. -/
  jobs : List (Nat × Exit)

/-- The state of a shell. -/
structure State extends World, Process

/-- Why a shell stops. -/
inductive Stop where
  /-- It was told to exit. -/
  | exited
  /-- It has nothing left to do. -/
  | ended
  /-- A command of its own went wrong. -/
  | failed
  /-- There is no shell any more: something else took its place, or it was killed. -/
  | gone (exit : Exit)

end SourceBundle.Shell

namespace SourceBundle

/-- A step of a shell. -/
abbrev Shell := EStateM Shell.Stop Shell.State

end SourceBundle

namespace SourceBundle.Shell

/-- What follows a command. -/
inductive Flow where
  | next
  /-- Leave this many loops, or begin the next round of the last of them. -/
  | leave (loops : Nat) (again : Bool)
  /-- Leave the function, or the script that was read in. -/
  | back
  deriving DecidableEq, Repr

/-- The options by their names, with the letters that turn them on. -/
def optionNames : List (String × Option Char) :=
  [("errexit", some 'e'), ("noglob", some 'f'), ("ignoreeof", some 'I'),
    ("interactive", some 'i'), ("monitor", some 'm'), ("noexec", some 'n'), ("stdin", some 's'),
    ("xtrace", some 'x'), ("verbose", some 'v'), ("vi", some 'V'), ("emacs", some 'E'),
    ("noclobber", some 'C'), ("allexport", some 'a'), ("notify", some 'b'),
    ("nounset", some 'u'), ("privileged", some 'p'), ("nolog", none), ("debug", none)]

/-- Is the option on? -/
def option (letter : Char) : Shell Bool := do return (← get).options.contains letter

/-- Leave the exit code. -/
def exits (status : Nat) : Shell Unit := modify fun s => { s with status := status }

/-- Let a signal come to this shell. -/
def receive (signal : Nat) : Shell Unit := do
  let s ← get
  match if Signal.unstoppable.contains signal then none else s.traps.lookup signal with
  | some [] => return ()
  | some _ => modify fun s => { s with pending := s.pending ++ [signal] }
  | none => if Signal.unnoticed.contains signal then return () else throw (.gone (.signal signal))

/-! ## Writing -/

/-- Write to a stream by the number a command knows it by; says whether that was possible. A file
    that becomes too large is a signal as well. -/
def writeTo (descriptor : Nat) (output : Text) : Shell Bool := fun s =>
  if output = [] then .ok true s
  else match s.descriptors.lookup descriptor with
    | none => .ok false s
    | some number =>
        match s.toWorld.write number (toBytes output) with
        | (.ok (), w) => .ok true { s with toWorld := w }
        | (.error cause, w) =>
            (do
              if cause = .fileTooLarge then receive Signal.fileTooLarge
              return false : Shell Bool) { s with toWorld := w }

/-- A complaint as it is written: the script, the line, the builtin and the text. -/
def complaint (message : Text) : Shell Text := do
  let s ← get
  let command := match s.commandName with
    | some name => name ++ text ": "
    | none => []
  return s.name ++ text ": " ++ decimal s.line ++ text ": " ++ command ++ message ++ ['\n']

/-- Complain. -/
def warn (message : Text) : Shell Unit := do
  let _ ← writeTo 2 (← complaint message)

/-- Complain and stop. -/
def fail {α : Type} (message : Text) : Shell α := do
  exits 2
  warn message
  throw .failed

/-! ## Variables -/

/-- The value of a variable. -/
def value? (name : Text) : Shell (Option Text) := do
  return ((← get).bindings.lookup name).bind (·.value)

/-- The value of a variable named by a string. -/
def valueOf? (name : String) : Shell (Option Text) := value? (text name)

/-- Put a variable in the place of another of that name. -/
def replaceVariable (name : Text) (v : Option Variable) : Shell Unit := modify fun s =>
  let others := s.bindings.filter (·.1 ≠ name)
  { s with bindings := match v with
    | some v => (name, v) :: others
    | none => others }

/-- Do what a new value of some variables asks for: let `getopts` begin again, or forget where
    programs were found. -/
def noteAssignment (name : Text) (value : Option Text) : Shell Unit := do
  if name = text "PATH" then
    modify fun s => { s with located := [] }
  else if name = text "OPTIND" then
    let index ← match value with
      | none => pure 1
      | some value =>
          match wholeNumber? 10 value with
          | some n => if 0 ≤ n then pure n.toNat else fail (text "Illegal number: " ++ value)
          | none => fail (text "Illegal number: " ++ value)
    modify fun s => { s with optionIndex := if index = 0 then 1 else index, optionOffset := none }

/-- Set a variable, or only its properties. -/
def declare (name : Text) (value : Option Text) (exported readOnly : Bool) : Shell Unit := do
  let s ← get
  let before := (s.bindings.lookup name).getD ⟨none, false, false⟩
  if before.readOnly ∧ value.isSome then fail (name ++ text ": is read only")
  else do
    let v : Variable :=
      { value := if value.isSome then value else before.value,
        exported := before.exported || exported || s.options.contains 'a',
        readOnly := before.readOnly || readOnly }
    if value.isSome then noteAssignment name value
    replaceVariable name (some v)

/-- Set a variable. -/
def assign (name value : Text) : Shell Unit := declare name (some value) false false

/-- Take a variable away. -/
def unset (name : Text) : Shell Unit := do
  match (← get).bindings.lookup name with
  | none => return ()
  | some v =>
      if v.readOnly then fail (name ++ text ": is read only")
      else do
        noteAssignment name none
        replaceVariable name none

/-- Keep a variable for the end of the function that was called last. -/
def keep (name : Text) : Shell Unit := modify fun s =>
  match s.kept with
  | [] => s
  | frame :: frames =>
      if frame.any (isFor name) then s
      else { s with kept := (.variable name (s.bindings.lookup name) :: frame) :: frames }
where
  /-- Is a variable of this name kept? -/
  isFor (name : Text) : Kept → Bool
    | .variable name' _ => name == name'
    | .options _ => false

/-- Put back what the last frame keeps. -/
def putBack : Shell Unit := do
  match (← get).kept with
  | [] => return ()
  | frame :: frames => do
      modify fun s => { s with kept := frames }
      frame.forM fun
        | .variable name before => do
            replaceVariable name before
            noteAssignment name (before.bind (·.value))
        | .options before => modify fun s => { s with options := before }

/-- Characters that separate fields. -/
def separators : Shell Text := do return (← valueOf? "IFS").getD (text " \t\n")

/-! ## Text in quotes -/

/-- A text in single quotes that a shell reads back. -/
def singleQuote (s : Text) : Text := go (s.length + 1) s
where
  /-- Runs without quotes in single quotes, runs of quotes in double quotes. -/
  go : (fuel : Nat) → Text → Text
    | 0, _ => []
    | fuel + 1, s =>
        let plain := s.takeWhile (· ≠ '\'')
        let rest := s.dropWhile (· ≠ '\'')
        let quotes := rest.takeWhile (· = '\'')
        let rest := rest.dropWhile (· = '\'')
        '\'' :: plain ++ ['\'']
          ++ (if quotes = [] then [] else '\x22' :: quotes ++ ['\x22'])
          ++ (if rest = [] then [] else go fuel rest)

/-- The variables that satisfy a test, by their names. -/
def sortedVariables (p : Variable → Bool) : Shell (List (Text × Variable)) := do
  return ((← get).bindings.filter fun v => p v.2).mergeSort fun a b =>
    toBytes a.1 ≤ toBytes b.1

end SourceBundle.Shell
