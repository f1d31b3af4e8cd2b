import SourceBundle.Shell.Arithmetic
import SourceBundle.Shell.Glob
import SourceBundle.Shell.State

/-! # Expansion — from words to text

    A word becomes text part by part: tildes, parameters, the output of commands and
    the values of expressions.  Expansion gives runs (`Run`) that say how they may
    be cut; the readings of a word (as fields, as one text, as a pattern) are made
    of these.  How a command is run for its output is handed in. -/

namespace SourceBundle.Shell

/-- Where tildes stand for a home directory. -/
inductive TildeRule where
  | nowhere
  | atStart
  /-- At the start and after colons, as in the value of an assignment. -/
  | afterColons
  deriving DecidableEq, Repr

/-- How parts are expanded. -/
structure Expanding where
  quoted : Bool
  /-- Is this a word in the braces of a parameter, whose text may be cut? -/
  inBraces : Bool
  /-- Are fields wanted, so that parameters may stay apart? -/
  fields : Bool
  tilde : TildeRule

/-- Runs a command for its output. -/
abbrev Outputs := Option Command → Shell Text

namespace Expansion

/-- The home directories of users by their names. -/
def homes : List (Text × Text) := [(text "root", text "/root")]

/-- The home directory that a tilde in front of a word stands for, and the parts after the
    user's name. -/
def tilde? (rule : TildeRule) (word : Word) : Shell (Option (Text × Word)) := do
  match word with
  | .char false '~' :: rest =>
      match name? [] rest with
      | none => return none
      | some (name, after) => do
          let home ← if name = [] then Shell.valueOf? "HOME" else pure (homes.lookup name)
          return home.map (·, after)
  | _ => return none
where
  /-- The user's name, if it is plain, and what follows it. -/
  name? (taken : Text) : Word → Option (Text × Word)
    | [] => some (taken.reverse, [])
    | .char false c :: rest =>
        if c = '/' ∨ (c = ':' ∧ rule = .afterColons) then
          some (taken.reverse, .char false c :: rest)
        else name? (c :: taken) rest
    | _ => none

/-- Runs that are being made: the last comes first, and in each the last cell. -/
abbrev Draft := List Run

namespace Draft

/-- Add a cell, to the last run if that is cut by the same rule. -/
def cell (d : Draft) (cutting : Cutting) (c : Cell) : Draft :=
  match d with
  | r :: rest => if r.cutting = cutting then ⟨cutting, c :: r.cells⟩ :: rest else ⟨cutting, [c]⟩ :: d
  | [] => [⟨cutting, [c]⟩]

/-- Add finished runs; what comes after them is a run of its own. -/
def add (d : Draft) (made : List Run) : Draft :=
  ⟨.never, []⟩ :: made.foldl (fun d r => ⟨r.cutting, r.cells.reverse⟩ :: d) d

/-- The runs in order. -/
def finish (d : Draft) : List Run := d.reverse.map fun r => ⟨r.cutting, r.cells.reverse⟩

end Draft

/-- All the text of runs. -/
def textOf (runs : List Run) : Text := Cell.text (runs.flatMap (·.cells))

/-- The positional parameters as one text, with what stands between them. -/
def joinedParameters (e : Expanding) (apart : Bool) : Shell Text := do
  let s ← get
  let separators ← Shell.valueOf? "IFS"
  let between : Text :=
    if e.fields ∧ e.quoted ∧ apart then [parameterBreak]
    else if e.fields ∧ ¬ e.quoted then
      match separators with
      | none => [' ']
      | some _ => [parameterBreak]
    else match separators with
      | none => [' ']
      | some separators => separators.take 1
  return between.intercalate s.parameters

/-- The value of a parameter of any kind; nothing if it is missing. -/
def parameter? (e : Expanding) (name : Text) : Shell (Option Text) := do
  let s ← get
  match name with
  | ['#'] => return some (decimal s.parameters.length)
  | ['?'] => return some (decimal s.status)
  | ['$'] => return some (decimal s.root)
  | ['!'] => return s.lastBackground.map fun n => decimal n
  | ['-'] =>
      return some ((optionNames.filterMap (·.2)).filter s.options.contains).reverse
  | ['@'] => return some (← joinedParameters e true)
  | ['*'] => return some (← joinedParameters e false)
  | c :: _ =>
      if c.isDigit then
        let n := ofDigits 10 name
        return if n = 0 then some s.name else s.parameters[n - 1]?
      else Shell.value? name
  | [] => return none

/-- The complaint about a parameter that is missing. -/
def missing {α : Type} (name : Text) : Shell α :=
  Shell.fail (name ++ text ": parameter not set")

/-- A value as a run. -/
def runOf (e : Expanding) (name value : Text) : Shell (List Run) := do
  let cells := Cell.ofText e.quoted value
  if ! e.quoted then return [⟨.atSeparators, cells⟩]
  else if name = ['@'] ∧ (← get).parameters ≠ [] then return [⟨.betweenParameters, cells⟩]
  else return [⟨.never, cells⟩]

mutual

/-- Expand the parts of a word after a draft; the part before them may have opened quotes or a
    place for a tilde. -/
def expand (outputs : Outputs) :
    (fuel : Nat) → Expanding → (inQuotes tildeHere : Bool) → Draft → Word → Shell (List Run)
  | 0, _, _, _, _, _ => throw .failed
  | _, _, _, _, runs, [] => return runs.finish
  | fuel + 1, e, inQuotes, tildeHere, runs, part :: rest => do
      let inner : Expanding := { e with quoted := e.quoted || inQuotes }
      let more (made : List Run) (rest : Word) : Shell (List Run) :=
        expand outputs fuel e inQuotes false (runs.add made) rest
      let home ← if tildeHere then tilde? e.tilde (part :: rest) else pure none
      match home with
      | some (home, rest) => more [⟨.never, Cell.ofText true home⟩] rest
      | none =>
          match part with
          | .char quoted c =>
              let cutting : Cutting :=
                if e.inBraces ∧ ¬ e.quoted ∧ ¬ inQuotes ∧ ¬ quoted then .atSeparators
                else .never
              let colon : Bool := e.tilde = .afterColons && c = ':' && !quoted
              expand outputs fuel e inQuotes colon (runs.cell cutting (.char quoted c)) rest
          | .mark =>
              match inQuotes, rest with
              | false, .parameter ['@'] .value [] :: .mark :: rest => do
                  let all ← expandParameter outputs fuel { e with quoted := true } ['@'] .value []
                  more all rest
              | _, _ =>
                  expand outputs fuel e (!inQuotes) false (runs.cell .never .mark) rest
          | .parameter name use word => do
              more (← expandParameter outputs fuel inner name use word) rest
          | .output command => do
              let output := (← outputs command).filter (· ≠ '\x00')
              let output := (output.reverse.dropWhile (· = '\n')).reverse
              more [⟨if inner.quoted then .never else .atSeparators,
                Cell.ofText inner.quoted output⟩] rest
          | .arithmetic expression => do
              let value ← expandArithmetic outputs fuel expression
              more [⟨if inner.quoted then .never else .atSeparators,
                Cell.ofText inner.quoted (decimal value)⟩] rest

/-- The value of an expression; the assignments in it are made. -/
def expandArithmetic (outputs : Outputs) : (fuel : Nat) → Word → Shell Int
  | 0, _ => throw .failed
  | fuel + 1, expression => do
      let e : Expanding := ⟨true, false, false, .nowhere⟩
      let expression := textOf (← expand outputs fuel e false false [] expression)
      let bindings := (← get).bindings
      match Arithmetic.evaluate (fun name => (bindings.lookup name).bind (·.value)) expression with
      | .error cause => Shell.fail (cause.message expression)
      | .ok (value, assigned) => do
          assigned.forM fun (name, n) => Shell.assign name (decimal n)
          return value

/-- What a parameter stands for. -/
def expandParameter (outputs : Outputs) :
    (fuel : Nat) → Expanding → Text → ParameterUse → Word → Shell (List Run)
  | 0, _, _, _, _ => throw .failed
  | fuel + 1, e, name, use, word => do
      let inWord (e : Expanding) : Shell (List Run) :=
        expand outputs fuel { e with inBraces := true } false true [] word
      let wordText : Shell Text := do
        let e : Expanding := { e with quoted := false, inBraces := false, fields := false }
        return textOf (← expand outputs fuel e false true [] word)
      if use = .malformed then Shell.fail (text "Bad substitution")
      let e := { e with tilde := if e.tilde = .nowhere then .atStart else e.tilde }
      let value ← parameter? e name
      let isMissing (orEmpty : Bool) : Bool :=
        match value with
        | none => true
        | some value => orEmpty && value.isEmpty
      let here : Shell (List Run) :=
        match value with
        | some value => runOf e name value
        | none => return []
      match use with
      | .default orEmpty => if isMissing orEmpty then inWord e else here
      | .alternative orEmpty => if isMissing orEmpty then return [] else inWord e
      | .assign orEmpty =>
          if isMissing orEmpty then do
            let value ← wordText
            if ! isName name then Shell.fail (name ++ text ": bad variable name")
            Shell.assign name value
            runOf e name value
          else here
      | .insist orEmpty =>
          if isMissing orEmpty then do
            let message ← wordText
            let message :=
              if word ≠ [] then message
              else text (if orEmpty then "parameter not set or null" else "parameter not set")
            Shell.fail (name ++ text ": " ++ message)
          else here
      | _ =>
          if value.isNone ∧ (← Shell.option 'u') then missing name
          else match use with
            | .length =>
                runOf e [] (decimal (value.getD []).length)
            | .trim atEnd longest =>
                match value with
                | none => return []
                | some value => do
                    let pattern ← expandPattern outputs fuel word
                    runOf e name
                      (if value.contains parameterBreak then
                        pattern.trimJoined atEnd longest e.quoted value
                      else pattern.trim atEnd longest value)
            | _ => here

/-- The pattern a word stands for. -/
def expandPattern (outputs : Outputs) : (fuel : Nat) → Word → Shell Pattern
  | 0, _ => throw .failed
  | fuel + 1, word => do
      let e : Expanding := ⟨false, false, false, .atStart⟩
      let runs ← expand outputs fuel e false true [] word
      return Pattern.ofGlyphs (Cell.glyphs (runs.flatMap (·.cells)))

end

/-- How many parts one expansion may go through. -/
def maxParts : Nat := 1000000

/-- The runs of a word. -/
def runs (outputs : Outputs) (e : Expanding) (word : Word) : Shell (List Run) :=
  expand outputs maxParts e false (e.tilde ≠ .nowhere) [] word

/-- A word as one text. -/
def asText (outputs : Outputs) (tilde : TildeRule) (word : Word) : Shell Text := do
  return textOf (← runs outputs ⟨false, false, false, tilde⟩ word)

/-- A word as one text, as if it stood between quotes. -/
def asQuoted (outputs : Outputs) (word : Word) : Shell Text := do
  return textOf (← runs outputs ⟨true, false, false, .nowhere⟩ word)

/-- A word as a pattern. -/
def asPattern (outputs : Outputs) (word : Word) : Shell Pattern :=
  expandPattern outputs maxParts word

/-- A word as fields, patterns in them replaced by the paths that fit. -/
def asFields (outputs : Outputs) (word : Word) : Shell (List Text) := do
  let runs ← runs outputs ⟨false, false, true, .atStart⟩ word
  let fields := fieldsOf (← Shell.separators) none runs
  let s ← get
  let paths (field : List Cell) : List Text :=
    match if s.options.contains 'f' then [] else pathsOf s.files field with
    | [] => [Cell.text field]
    | paths => paths
  return fields.flatMap paths

/-- The words of a command as fields. -/
def allFields (outputs : Outputs) (words : List Word) : Shell (List Text) := do
  return (← words.mapM (asFields outputs)).flatten

end Expansion

end SourceBundle.Shell
