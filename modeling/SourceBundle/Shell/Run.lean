import SourceBundle.Shell.Simple

/-! # Running commands

    `evaluator` runs a command of any kind.  Its parts are run by the evaluator of
    the next lower depth, so it ends on every command; a shell that goes deeper than
    there is room for is gone. -/

namespace SourceBundle.Shell

namespace Run

/-- Run commands in order, up to one that is left. -/
def sequence (eval : Evaluator) (tested last : Bool) : List Command → Shell Flow
  | [] => return .next
  | [c] => eval tested last c
  | c :: rest => do
      match ← eval tested false c with
      | .next => sequence eval tested last rest
      | flow => return flow

/-- How a loop goes on after a part of it: with the next round, or out of the loop. -/
inductive Course where
  | onward
  | nextRound
  | out (flow : Flow)

/-- What leaving a part of a loop means to the loop. -/
def courseOf : Flow → Course
  | .next => .onward
  | .back => .out .back
  | .leave n again =>
      if 1 < n then .out (.leave (n - 1) again) else if again then .nextRound else .out .next

/-- Run the rounds of a loop; `status` is the exit code if there are no more. -/
def rounds (eval : Evaluator) (tested untilTrue : Bool) (test body : Command) :
    (rounds : Nat) → (status : Nat) → Shell Flow
  | 0, _ => throw .failed
  | n + 1, status => do
      let flow ← eval true false test
      let tested' := (← get).status
      match courseOf flow with
      | .nextRound => rounds eval tested untilTrue test body n status
      | .out flow => do
          Shell.exits (if flow = .back then tested' else status)
          return flow
      | .onward =>
          if (tested' = 0) = untilTrue then do
            Shell.exits status
            return .next
          else
            match courseOf (← eval tested false body) with
            | .out flow => return flow
            | _ => do rounds eval tested untilTrue test body n (← get).status

/-- Run the body of a loop for each of the values of a variable. -/
def each (eval : Evaluator) (tested : Bool) (name : Text) (body : Command) :
    List Text → Shell Flow
  | [] => return .next
  | value :: values => do
      Shell.assign name value
      match courseOf (← eval tested false body) with
      | .out flow => return flow
      | _ => each eval tested name body values

/-- Run a step as the inside of a loop. -/
def inLoop (step : Shell Flow) : Shell Flow := do
  modify fun s => { s with loops := s.loops + 1 }
  let flow ← step
  modify fun s => { s with loops := s.loops - 1 }
  return flow

/-- The body of the first branch with a pattern that fits a text. -/
def choose (outputs : Outputs) (value : Text) : List Branch → Shell (Option Command)
  | [] => return none
  | .branch patterns body :: rest => do
      let fitting ← patterns.findM? fun pattern => do
        return (← Expansion.asPattern outputs pattern).fits value
      if fitting.isSome then return body else choose outputs value rest

/-- Look for the programs of a pipeline before it starts. -/
def locate (commands : List Command) : Shell Unit :=
  commands.forM fun
    | .simple _ _ (word :: _) _ =>
        match Word.plain? word with
        | some name => do
            if isName name then
              let _ ← Lookup.meaning true false name
        | none => return ()
    | _ => return ()

/-- Run the parts of a command. -/
def parts (eval : Evaluator) (tested last : Bool) (command : Command) : Shell Flow := do
  let outputs := outputsOf eval
  match command with
  | .simple line assignments words redirects =>
      Simple.run eval tested last line assignments words redirects
  | .sequence commands => sequence eval tested last commands
  | .both first second => do
      match ← eval true false first with
      | .next => if (← get).status = 0 then eval tested last second else return .next
      | flow => return flow
  | .either first second => do
      match ← eval true false first with
      | .next => if (← get).status = 0 then return .next else eval tested last second
      | flow => return flow
  | .negated inner => do
      let flow ← eval true false inner
      if flow = .next then Shell.exits (if (← get).status = 0 then 1 else 0)
      return flow
  | .redirected line inner redirects => do
      modify fun s => { s with line := line }
      let destinations ← Redirection.destinations outputs redirects
      Shell.restoring redirects false do
        if ← Redirection.attempt outputs destinations then eval tested false inner
        else if !tested && (← Shell.option 'e') then throw .ended
        else return .next
  | .subshell line inner redirects => do
      modify fun s => { s with line := line }
      let destinations ← Redirection.destinations outputs redirects
      let step : Shell Unit := do
        Redirection.makeAll outputs destinations
        let _ ← eval tested true inner
      if last ∧ ¬ (← Shell.hasTraps) then step
      else Shell.takeOver (← inChild eval step)
      return .next
  | .pipeline commands => do
      locate commands
      let all ← pipeline eval tested none (return ()) commands
      all.forM fun (_, exit) => Shell.takeOver exit
      return .next
  | .background inner => do
      match inner with
      | .pipeline commands => inBackground eval tested commands
      | inner => inBackground eval false [inner]
      return .next
  | .choice test yes no => do
      match ← eval true false test with
      | .next =>
          if (← get).status = 0 then eval tested last yes
          else match no with
            | some no => eval tested last no
            | none => do
                Shell.exits 0
                return .next
      | flow => return flow
  | .loop untilTrue test body =>
      inLoop (rounds eval tested untilTrue test body maxRounds 0)
  | .each line name words body => do
      modify fun s => { s with line := line }
      let values ← Expansion.allFields outputs words
      if values = [] then Shell.exits 0
      inLoop (each eval tested name body values)
  | .select line word branches => do
      modify fun s => { s with line := line }
      let value ← Expansion.asText outputs .atStart word
      match ← choose outputs value branches with
      | some body => eval tested last body
      | none => do
          Shell.exits 0
          return .next
  | .define name body => do
      modify fun s =>
        { s with functions := (name, body) :: s.functions.filter (·.1 ≠ name), status := 0 }
      return .next

/-- Is a failure of the command a reason to exit under the option `errexit`? -/
def mayExit : Command → Bool
  | .simple _ _ _ _ | .subshell _ _ _ | .pipeline _ | .background _ => true
  | _ => false

/-- Run a command and what comes after it: the actions for signals, and the end of the shell if
    it is due. -/
def whole (eval : Evaluator) (tested last : Bool) (command : Command) : Shell Flow := do
  let skips ← Shell.option 'n'
  let flow ← if skips then pure .next else parts eval tested last command
  let status := (← get).status
  let flow ← match ← runTraps eval with
    | .next => pure flow
    | flow => pure flow
  let fails : Bool := status ≠ 0 && !tested && !skips && mayExit command
  if fails ∧ (← Shell.option 'e') then throw .ended
  if last then throw .ended
  return flow

end Run

/-- Run commands, going down to a depth. -/
def evaluator : (depth : Nat) → Evaluator
  | 0 => fun _ _ _ => throw (.gone (.signal 11))
  | depth + 1 => Run.whole (evaluator depth)

/-- How deep commands may go into each other. -/
def maxDepth : Nat := 100000

end SourceBundle.Shell
