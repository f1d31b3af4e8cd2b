import SourceBundle.Shell.Expansion

/-! # Redirections — leading the streams of a command elsewhere

    The words of all redirections of a command are expanded first (`Destination`);
    then its streams are led there one after the other.  A command gets its own
    streams back afterwards, so what they were before is remembered
    (`Shell.restoring`). -/

namespace SourceBundle.Shell

/-- A redirection with its word expanded. -/
inductive Destination where
  | file (stream : Nat) (mode : OpenMode) (name : Text)
  /-- Where another stream leads; nothing to close the stream. -/
  | copy (stream : Nat) (source : Option Nat)
  | document (stream number : Nat)

/-- The stream a redirection changes. -/
def Redirect.stream : Redirect → Nat
  | .file n _ _ | .copy n _ | .document n _ => n

namespace Redirection

/-- Expand the word of a redirection. -/
def destination (outputs : Outputs) : Redirect → Shell Destination
  | .file stream mode name => do
      return .file stream mode (← Expansion.asText outputs .atStart name)
  | .copy stream source => do
      match ← Expansion.asText outputs .atStart source with
      | ['-'] => return .copy stream none
      | [c] => if c.isDigit then return .copy stream (digitValue? c) else bad
      | _ => bad
  | .document stream number => return .document stream number
where
  /-- Complain about a word that says no stream. -/
  bad : Shell Destination := do
    modify fun s => { s with line := s.scriptLine }
    Shell.fail (text "Syntax error: Bad fd number")

/-- Complain about a file that is not opened. -/
def refuse {α : Type} (creating : Bool) (name : Text) (cause : OsError) : Shell α :=
  let why :=
    match cause with
    | .noSuchFile | .notADirectory => if creating then "Directory nonexistent" else "No such file"
    | cause => cause.reason
  Shell.fail (text (if creating then "cannot create " else "cannot open ") ++ name ++ text ": "
    ++ text why)

/-- Add a stream to those of the world; its number. -/
def addStream (channel : Channel) (readable writable : Bool) : Shell Nat := do
  let s ← get
  let (number, world) := s.toWorld.add ⟨channel, 0, readable, writable⟩
  modify fun s => { s with toWorld := world }
  return number

/-- The stream that a path under `/dev` names by its number. -/
def ownStream? (name : Text) : Option Nat :=
  match String.ofList name with
  | "/dev/stdin" => some 0
  | "/dev/stdout" => some 1
  | "/dev/stderr" => some 2
  | _ =>
      let inDirectory (directory : String) : Option Nat :=
        let digits := name.drop directory.length
        if (text directory).isPrefixOf name ∧ digits ≠ [] ∧ digits.all Char.isDigit then
          some (ofDigits 10 digits)
        else none
      (inDirectory "/dev/fd/").or (inDirectory "/proc/self/fd/")

/-- Open what stands at a place, made empty unless it is read or written at its end. -/
def openPlace (mode : OpenMode) (name : Text) (place : Location) : Shell Nat := do
  let s ← get
  let readable : Bool := mode = .read || mode = .both
  match s.files.entryOf? place with
  | some .directory =>
      if mode = .read then addStream .directory true false
      else refuse (mode ≠ .read) name .isADirectory
  | some (.device kind) => addStream (.device kind) readable (mode ≠ .read)
  | entry => do
      let keeps : Bool := mode = .read || mode = .both || mode = .append
      let files :=
        match entry with
        | some (.file content executable) =>
            s.files.insert place (.file (if keeps then content else []) executable)
        | _ => s.files.insert place (.file [] false)
      modify fun s => { s with files := files }
      addStream (.file place (mode = .append)) readable (mode ≠ .read)

/-- Is this a name of a file that must not be written over? -/
def isProtected (name : Text) : Shell Bool := do
  let s ← get
  match s.files.entryAt? ⟨toBytes name⟩ with
  | some (.file _ _) => return true
  | some _ => return false
  | none => return standsAt s.files ⟨toBytes name⟩

/-- Open a file by its name; the number of the stream. -/
def openFile (mode : OpenMode) (name : Text) : Shell Nat := do
  let s ← get
  let creating := mode ≠ .read
  match ownStream? name with
  | some n =>
      match s.descriptors.lookup n with
      | none => refuse creating name .noSuchFile
      | some number =>
          match s.streams[number]? with
          | some ⟨.file place _, _, _, _⟩ => openPlace mode name place
          | _ => return number
  | none => do
      if mode = .write ∧ (← Shell.option 'C') then
        if ← isProtected name then refuse true name .fileExists
      match s.files.locate (if creating then .create else .reach) ⟨toBytes name⟩ with
      | .error e => refuse creating name e
      | .ok place => openPlace mode name place

/-- Let a stream of the shell lead to a stream of the world, or to nothing. -/
def lead (stream : Nat) (number : Option Nat) : Shell Unit := modify fun s =>
  let others := s.descriptors.filter (·.1 ≠ stream)
  { s with descriptors := match number with
    | some number => (stream, number) :: others
    | none => others }

/-- Make a redirection. -/
def make (outputs : Outputs) : Destination → Shell Unit
  | .file stream mode name => do lead stream (some (← openFile mode name))
  | .copy stream none => lead stream none
  | .copy stream (some source) => do
      if stream ≠ source then
        match (← get).descriptors.lookup source with
        | none => Shell.fail (decimal source ++ text ": Bad file descriptor")
        | some number => lead stream (some number)
  | .document stream number => do
      match (← get).documents.lookup number with
      | none => lead stream none
      | some d => do
          let content ← if d.expands then Expansion.asQuoted outputs d.text
            else pure d.text.unquoted
          let s ← get
          let (number, world) := s.toWorld.addPipe (toBytes content)
          modify fun s => { s with toWorld := world }
          lead stream (some number)

/-- Make redirections in their order. -/
def makeAll (outputs : Outputs) (destinations : List Destination) : Shell Unit :=
  destinations.forM (make outputs)

/-- Expand the words of redirections. -/
def destinations (outputs : Outputs) (redirects : List Redirect) : Shell (List Destination) :=
  redirects.mapM (destination outputs)

/-- Make redirections; says whether all went well. A complaint about one of them is no more than
    that. -/
def attempt (outputs : Outputs) (destinations : List Destination) : Shell Bool :=
  tryCatch (do
    makeAll outputs destinations
    return true) fun
    | .failed => do
        Shell.exits 2
        return false
    | stop => throw stop

end Redirection

/-- Run a step, and then let the streams that redirections change lead where they led before;
    they may be kept as they are if the step goes well. -/
def restoring {α : Type} (redirects : List Redirect) (keeps : Bool) (step : Shell α) :
    Shell α := do
  let before := (← get).descriptors
  let putBack : Shell Unit := redirects.forM fun r =>
    Redirection.lead r.stream (before.lookup r.stream)
  let result ← tryCatch step fun stop => do
    putBack
    throw stop
  if ! keeps then putBack
  return result

end SourceBundle.Shell
