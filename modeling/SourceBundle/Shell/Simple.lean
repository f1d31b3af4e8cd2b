import SourceBundle.Shell.Start

/-! # Simple commands

    The words of a simple command are expanded to fields, and the first of them says
    what is called (`Call`).  Its redirections and assignments hold while it runs.
    What they change is put back afterwards, unless the command is one of the
    special builtins, whose assignments stay. -/

namespace SourceBundle.Shell

/-- What the fields of a simple command call. -/
structure Call where
  /-- The name and the arguments, without a `command` in front. -/
  words : List Text
  /-- Is this a special builtin, called without `command`? -/
  special : Bool
  /-- May the name be that of a function? -/
  functions : Bool
  /-- Is a program looked for in the usual directories? -/
  usual : Bool

namespace Call

/-- What `command` calls with its arguments; nothing if it only tells something. -/
def afterCommand (usual : Bool) : List Text → Option (Bool × List Text)
  | [] => none
  | ['-', '-'] :: rest => if rest = [] then none else some (usual, rest)
  | ('-' :: c :: letters) :: rest =>
      if (c :: letters).all (· = 'p') then afterCommand true rest else none
  | words => some (usual, words)

/-- What fields call, where some names are those of functions. -/
def ofFields (isFunction : Text → Bool) (fields : List Text) : Call :=
  go fields.length true false fields
where
  /-- Go on after a `command`. -/
  go : (rounds : Nat) → (functions usual : Bool) → List Text → Call
    | 0, functions, usual, words => ⟨words, false, functions, usual⟩
    | rounds + 1, functions, usual, words =>
        let name := words.headD []
        let direct : Call :=
          ⟨words, functions && specialBuiltins.contains (String.ofList name), functions, usual⟩
        if name = text "command" ∧ ¬ (functions ∧ isFunction name) then
          match afterCommand usual words.tail with
          | some (usual, words) => go rounds false usual words
          | none => { direct with special := false }
        else direct

/-- The call that fields make in the present shell. -/
def make (fields : List Text) : Shell Call := do
  let functions := (← get).functions
  return ofFields (fun name => (functions.lookup name).isSome) fields

/-- Is this a call of the builtin? -/
def isOf (c : Call) (name : String) : Bool := c.words.head? = some (text name)

/-- Are arguments of the call taken as assignments? -/
def declares (c : Call) : Shell Bool := do
  let functions := (← get).functions
  match c.words with
  | [] => return false
  | name :: _ =>
      return Builtin.declaring.contains (String.ofList name)
        && !(c.functions && (functions.lookup name).isSome)

end Call

namespace Simple

/-- The name and the value of an assignment. -/
def assignment? (outputs : Outputs) (word : Word) : Shell (Option (Text × Text)) := do
  match word.assignment? with
  | none => return none
  | some (name, value) => return some (name, ← Expansion.asText outputs .afterColons value)

/-- Expand the words of a command. Those that assign are not cut into fields if what is called
    takes assignments. -/
def fields (outputs : Outputs) (words : List Word) : Shell (List Text) :=
  words.foldlM (fun fields word => do
    let whole ← if ← (← Call.make fields).declares then assignment? outputs word else pure none
    match whole with
    | some (name, value) => return fields ++ [name ++ '=' :: value]
    | none => return fields ++ (← Expansion.asFields outputs word)) []

/-- Show a command before it runs, as the option `xtrace` asks for. -/
def trace (outputs : Outputs) (errors : Option Nat) (words : List Text) : Shell Unit := do
  let s ← get
  if s.options.contains 'x' then
    let front := (← Shell.valueOf? "PS4").getD []
    modify fun s => { s with options := s.options.filter (· ≠ 'x') }
    let front ← match Scanner.wordOf front with
      | some word => Expansion.asQuoted outputs word
      | none => pure front
    modify fun t => { t with options := s.options }
    let shown := front ++ [' '].intercalate words ++ ['\n']
    modify fun s =>
      match errors with
      | some number => { s with toWorld := (s.toWorld.write number (toBytes shown)).2 }
      | none => s

/-- Make the assignments of a command; as they are shown. -/
def assignAll (outputs : Outputs) (framed exported : Bool) (words : List Word) :
    Shell (List Text) :=
  words.filterMapM fun word => do
    match ← assignment? outputs word with
    | none => return none
    | some (name, value) => do
        if framed then Shell.keep name
        Shell.declare name (some value) (framed || exported) false
        return some (name ++ '=' :: value)

/-- How many functions may call each other. -/
def maxCalls : Nat := 1000

/-- Call a function. -/
def callFunction (eval : Evaluator) (tested : Bool) (body : Command) (args : List Text) :
    Shell Flow := do
  let outer ← get
  if maxCalls ≤ outer.calls then
    Shell.fail (text "Maximum function recursion depth (" ++ decimal maxCalls
      ++ text ") reached")
  modify fun s =>
    { s with parameters := args, optionIndex := 1, optionOffset := none, loops := 0,
             calls := outer.calls + 1 }
  let leave : Shell Unit := modify fun s =>
    { s with parameters := outer.parameters, optionIndex := outer.optionIndex,
             optionOffset := outer.optionOffset, loops := outer.loops, calls := outer.calls }
  let flow ← tryCatch (eval tested false body) fun stop => do
    leave
    throw stop
  leave
  return if flow = .back then .next else flow

/-- The command `eval`. -/
def runArguments (eval : Evaluator) (tested : Bool) (args : List Text) : Shell Result := do
  let flow ← runText eval tested false false ([' '].intercalate args)
  return { status := (← get).status, flow := flow }

/-- The command `.`. -/
def readIn (eval : Evaluator) (args : List Text) : Shell Result := do
  let (_, args) ← Builtin.options "" args
  match args with
  | [] => return {}
  | name :: _ => do
      let file ← Lookup.scriptFile name
      let script ← Start.scriptAt file
      modify fun s => { s with commandName := some file }
      let flow ← runText eval false false true script
      return { status := (← get).status, flow := if flow = .back then .next else flow }

/-- The command `exec`. -/
def exec (eval : Evaluator) (args : List Text) : Shell Result := do
  match args with
  | [] => return {}
  | name :: _ => do
      let paths ← if name.contains '/' then pure [name] else Lookup.programPaths false name
      Start.execute eval paths args

/-- The builtin of a name. -/
def builtin? (eval : Evaluator) (tested : Bool) (name : String) :
    Option (List Text → Shell Result) :=
  match name with
  | "eval" => some (runArguments eval tested)
  | "." => some (readIn eval)
  | "exec" => some (exec eval)
  | "command" => some Lookup.tell
  | "type" => some Lookup.typeOf
  | "hash" => some Lookup.hash
  | name => Builtin.find? name

/-- Put back what frames above the first ones keep. -/
def putBackTo (frames : Nat) : Shell Unit := do
  for _ in List.range ((← get).kept.length - frames) do
    Shell.putBack

/-- Run a builtin and write what it says. A failure is the end of the shell only if the builtin
    is special. -/
def runBuiltin (special : Bool) (name : Text) (run : Shell Result) : Shell Flow := do
  let outer ← get
  modify fun s => { s with commandName := some name }
  let leave : Shell Unit := modify fun s => { s with commandName := outer.commandName }
  let act : Shell Flow := do
    let r ← run
    let written ← Shell.writeTo 1 r.output
    if ! written then Shell.warn (name ++ text ": I/O error")
    Shell.exits (r.status ||| if written then 0 else 1)
    return r.flow
  let flow ← tryCatch act fun stop => do
    leave
    match stop, special with
    | .failed, false => do
        putBackTo outer.kept.length
        modify fun s => { s with scriptLine := outer.scriptLine }
        return .next
    | stop, _ => throw stop
  leave
  return flow

/-- Run what a command calls. -/
def perform (eval : Evaluator) (tested last : Bool) (call : Call) : Shell Flow := do
  match call.words with
  | [] => do
      Shell.exits (← get).outputStatus
      return .next
  | name :: args =>
      match ← Lookup.meaning call.functions call.usual name with
      | .unknown why => do
          Shell.exits 127
          Shell.warn (refusalToRun name why)
          return .next
      | .function body => callFunction eval tested body args
      | .builtin =>
          match builtin? eval tested (String.ofList name) with
          | some run => runBuiltin call.special name (run args)
          | none => return .next
      | .program paths => do
          let start : Shell Unit := Start.execute eval paths call.words
          if last ∧ ¬ (← Shell.hasTraps) then start
          else Shell.takeOver (← inChild eval start)
          return .next

/-- Run a simple command. -/
def run (eval : Evaluator) (tested last : Bool) (line : Nat) (assignments words : List Word)
    (redirects : List Redirect) : Shell Flow := do
  modify fun s => { s with line := line, outputStatus := 0 }
  let outputs := outputsOf eval
  let fields ← fields outputs words
  let call ← Call.make fields
  let errors := (← get).descriptors.lookup 2
  let framed : Bool := !fields.isEmpty && !call.special
  if framed then modify fun s => { s with kept := [] :: s.kept }
  let destinations ← Redirection.destinations outputs redirects
  let isExec := call.isOf "exec"
  let flow ← Shell.restoring redirects isExec do
    if ← Redirection.attempt outputs destinations then
      let assigned ← assignAll outputs framed (isExec && 1 < call.words.length) assignments
      trace outputs errors (assigned ++ fields)
      perform eval tested last call
    else if call.special then throw .failed
    else return .next
  if framed then Shell.putBack
  return flow

end Simple

end SourceBundle.Shell
