import SourceBundle.Shell.Builtin
import SourceBundle.Shell.Redirection

/-! # The life of a shell — scripts, traps, children and the end

    A script is read and run one complete command at a time.  How a command is run
    is handed in (`Evaluator`): this module says what happens around it.  Signals
    that have come are seen to between commands.  A shell ends after its last
    command, or when it is told to; a trap may still act then.  A child of a shell
    begins as its copy, shares the world with it, and is over before the shell goes
    on. -/

namespace SourceBundle.Shell

/-- A way to run commands. A command may be told that its exit code is looked at, so that a
    failure is no reason to exit, and that it is the last one, so that the shell ends with it. -/
abbrev Evaluator := (tested last : Bool) → Command → Shell Flow

/-- How many times anything is repeated at most. -/
def maxRounds : Nat := 1000000000

/-! ## Scripts -/

/-- Show the lines that a reading has taken, as the option `verbose` asks for. -/
def echoLines (before after : Scanner) : Shell Unit := do
  if ← Shell.option 'v' then
    let taken := before.rest.length - after.rest.length
    let line := (before.rest.drop taken).takeWhile (· ≠ '\n')
    let cut : Bool := taken ≠ 0 && (before.rest[taken - 1]?) ≠ some '\n'
    let _ ← Shell.writeTo 2 (before.rest.take taken ++ if cut then line else [])

/-- Read and run commands; says whether there was any. A script from a file may be shown. -/
def runCommands (eval : Evaluator) (tested last shows : Bool) :
    (rounds : Nat) → (any : Bool) → Scanner → Shell (Flow × Bool)
  | 0, _, _ => throw .failed
  | rounds + 1, any, scanner => do
      let s ← get
      let before := { scanner with
        aliases := s.aliases, documents := s.documents, nextDocument := s.nextDocument }
      let (reading, after) := before.nextCommand
      if shows then echoLines before after
      modify fun s =>
        { s with documents := after.documents, nextDocument := after.nextDocument,
                 scriptLine := after.line }
      match reading with
      | .error refusal => do
          modify fun s => { s with line := refusal.line }
          Shell.fail (text ("Syntax error: " ++ refusal.error.message))
      | .ok .endOfFile => return (.next, any)
      | .ok .emptyLine => runCommands eval tested last shows rounds any after
      | .ok (.command c) => do
          match ← eval tested (last && after.atEnd) c with
          | .next => runCommands eval tested last shows rounds true after
          | flow => return (flow, true)

/-- Run a text as a script; the exit code is 0 if there is no command in it. -/
def runText (eval : Evaluator) (tested last shows : Bool) (script : Text) : Shell Flow := do
  let line := (← get).scriptLine
  let script := script.filter (· ≠ '\x00')
  let (flow, any) ← runCommands eval tested last shows maxRounds false (Scanner.ofText script)
  if ! any then Shell.exits 0
  modify fun s => { s with scriptLine := line }
  return flow

/-! ## Traps -/

/-- Are there actions to be taken on signals or at the end? -/
def hasTraps : Shell Bool := do return (← get).traps.any fun t => t.2 ≠ []

/-- Take the actions for the signals that have come. The exit code is what it was before. -/
def runTraps (eval : Evaluator) : Shell Flow := do
  let s ← get
  let (mine, others) := s.signals.partition fun signal => signal.1 = s.number
  modify fun s => { s with signals := others }
  mine.forM fun (_, signal) => Shell.receive signal
  let s ← get
  if s.pending = [] then return .next
  else do
    let outer := s.trapStatus
    let status := outer.getD s.status
    modify fun s => { s with pending := [], trapStatus := some status }
    let act (flow : Flow) (signal : Nat) : Shell Flow :=
      match flow, s.traps.lookup signal with
      | .next, some action => do
          let flow ← runText eval false false false action
          if flow ≠ .back then Shell.exits status
          return flow
      | .next, none => return .next
      | flow, _ => do
          modify fun s => { s with pending := signal :: s.pending }
          return flow
    let flow ← ((List.range Signal.names.length).filter s.pending.contains).foldlM act .next
    modify fun s => { s with trapStatus := outer }
    return flow

/-! ## The end -/

/-- Do a step up to the point where the shell would end. The exit code is then that of the
    shell, unless it is gone already. -/
def settled (step : Shell Unit) : Shell Unit :=
  tryCatch step fun
    | .gone exit => throw (.gone exit)
    | .exited => modify fun s => { s with status := s.trapStatus.getD s.status, trapStatus := none }
    | .ended | .failed => return ()

/-- Do a step and all that comes at the end of a shell: how it ends. -/
def toEnd (eval : Evaluator) (step : Shell Unit) : Shell Exit :=
  tryCatch (do
    settled step
    let s ← get
    match s.traps.lookup 0 with
    | none | some [] => return .code (s.status % 256)
    | some action => do
        modify fun s =>
          { s with traps := s.traps.filter (·.1 ≠ 0), trapStatus := some s.status,
                   commandName := none, loops := 0 }
        settled do
          let _ ← runText eval false false false action
          modify fun s => { s with status := s.trapStatus.getD s.status }
        return .code ((← get).status % 256)) fun
    | .gone exit => return exit
    | _ => do return .code ((← get).status % 256)

/-! ## Children -/

/-- A shell that begins as the copy of another. It does not share the other's actions on signals,
    but what is ignored stays ignored. -/
def State.copied (s : State) : State :=
  let number := s.lastProcess + 1
  { s with lastProcess := number, number := number, traps := s.traps.filter (·.2 = []),
           pending := [], jobs := [] }

/-- Run a step in a process of its own, up to its end. -/
def inChild (eval : Evaluator) (step : Shell Unit) : Shell Exit := fun s =>
  let after (w : World) : State :=
    let files :=
      { w.files with workingDir := s.files.workingDir, limit := s.files.limit }
    { s with toWorld := { w with files := files } }
  match toEnd eval step s.copied with
  | .ok exit child => .ok exit (after child.toWorld)
  | .error stop child => .error stop (after child.toWorld)

/-- Take over the end of a child as the exit code, and say so if a signal ended it. -/
def takeOver (exit : Exit) : Shell Unit := do
  let _ ← Shell.writeTo 2 exit.notice
  Shell.exits exit.status

/-- Run commands for their output. -/
def outputsOf (eval : Evaluator) : Outputs
  | none => return []
  | some c => do
      let s ← get
      let (pipe, world) := s.toWorld.addPipe []
      modify fun s => { s with toWorld := world }
      let exit ← inChild eval do
        Redirection.lead 1 (some pipe)
        let _ ← eval false true c
      let _ ← Shell.writeTo 2 exit.notice
      modify fun s => { s with outputStatus := exit.status }
      return ofBytes ((← get).toWorld.pipeContent pipe)

/-- Run commands each in a child of its own, the output of one led to the next. The first of them
    reads from the given stream, if there is one; a step is taken before each. -/
def pipeline (eval : Evaluator) (tested : Bool) (input : Option Nat) (first : Shell Unit) :
    List Command → Shell (List (Nat × Exit))
  | [] => return []
  | c :: rest => do
      let s ← get
      let (pipe, world) := s.toWorld.addPipe []
      if ! rest.isEmpty then modify fun s => { s with toWorld := world }
      let number := s.lastProcess + 1
      let exit ← inChild eval do
        first
        if input.isSome then Redirection.lead 0 input
        if ! rest.isEmpty then Redirection.lead 1 (some pipe)
        let _ ← eval tested true c
      return (number, exit) :: (← pipeline eval tested (some pipe) (return ()) rest)

/-- Run commands in the background, joined like a pipeline. They read from nothing, and are not
    interrupted. -/
def inBackground (eval : Evaluator) (tested : Bool) (commands : List Command) : Shell Unit := do
  let first : Shell Unit := do
    Redirection.lead 0 (some (← Redirection.addStream (.device .null) true false))
    modify fun s => { s with traps := [(2, []), (3, [])] ++ s.traps }
  let all ← pipeline eval tested none first commands
  match all.getLast? with
  | none => return ()
  | some (number, exit) =>
      modify fun s =>
        { s with lastBackground := some number, jobs := (number, exit) :: s.jobs, status := 0 }

end SourceBundle.Shell
