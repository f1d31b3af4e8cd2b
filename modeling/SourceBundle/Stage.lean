/-! # Stages — the way of a build

    A build goes from the start through bundling, writing and compiling to success
    or failure, and never back. -/

namespace SourceBundle

/-- Where a build stands. -/
inductive Stage where
  | start
  | bundling
  | writing
  | compiling
  | success
  | failure
  deriving DecidableEq, Repr

namespace Stage

/-- The stage's name in messages. -/
def name : Stage → String
  | .start => "Start"
  | .bundling => "Bundling"
  | .writing => "Writing"
  | .compiling => "Compiling"
  | .success => "Success"
  | .failure => "Failure"

/-- May a build enter the second stage from the first? -/
def canAdvanceTo : Stage → Stage → Bool
  | .start, .bundling => true
  | .bundling, .writing => true
  | .writing, .compiling => true
  | .compiling, .success => true
  | .compiling, .failure => true
  | _, _ => false

end Stage

/-- A step that a build must not take. -/
structure InvalidTransition where
  source : Stage
  target : Stage
  deriving DecidableEq, Repr

/-- The wording for a step that a build must not take. -/
def InvalidTransition.message (t : InvalidTransition) : String :=
  "invalid build transition from " ++ t.source.name ++ " to " ++ t.target.name

/-- The stage after a step to `next`, if the step may be taken. -/
def Stage.advance (current next : Stage) : Except InvalidTransition Stage :=
  if current.canAdvanceTo next then .ok next else .error ⟨current, next⟩

end SourceBundle
