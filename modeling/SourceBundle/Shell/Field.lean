import SourceBundle.Shell.Pattern

/-! # Fields — how expanded text is cut into arguments

    Expanding a word gives runs of characters (`Run`), each with its own rule for
    being cut (`Cutting`).  `fieldsOf` cuts runs at the separators: blanks among
    them count once however many they are, any other separator ends a field of its
    own.  A field that is empty stays only if quotes ask for it, or if it is a
    positional parameter of its own. -/

namespace SourceBundle.Shell

/-- A piece of a field. -/
inductive Cell where
  | char (quoted : Bool) (c : Char)
  /-- A quotation began or ended here, so there is a field even if it is empty. -/
  | mark
  deriving DecidableEq, Repr

namespace Cell

/-- The text of cells. -/
def text (cells : List Cell) : Text :=
  cells.filterMap fun cell =>
    match cell with
    | .char _ c => some c
    | .mark => none

/-- Cells as the characters of a pattern. -/
def glyphs (cells : List Cell) : List Glyph :=
  cells.filterMap fun cell =>
    match cell with
    | .char quoted c => some ⟨quoted, c⟩
    | .mark => none

/-- The cells of a text. -/
def ofText (quoted : Bool) (s : Text) : List Cell := s.map (.char quoted)

end Cell

/-- How a run may be cut into fields. -/
inductive Cutting where
  | never
  /-- At the separators. -/
  | atSeparators
  /-- Between the positional parameters only. -/
  | betweenParameters
  deriving DecidableEq, Repr

/-- What stands between two positional parameters. -/
def parameterBreak : Char := '\x00'

/-- A run of cells that are cut by one rule. -/
structure Run where
  cutting : Cutting
  cells : List Cell
  deriving Repr

/-- How far the cutting of runs has come. -/
structure Cut where
  /-- The fields that are complete, the last first. -/
  fields : List (List Cell)
  /-- The cells of the field at work, the last first. -/
  current : List Cell
  /-- Was the last separator a blank, so that more of them are left out? -/
  inBlanks : Bool
  /-- How many fields may still be cut off; nothing if there is no limit. -/
  room : Option Nat
  /-- With no room left: how many cells to keep if nothing but blanks follows. -/
  keep : Option Nat

namespace Cut

/-- Go on by one cell of a run that is cut. -/
def step (separators : Text) (hard afterHard : Bool) (cut : Cut) (cell : Cell) : Cut :=
  match cell with
  | .mark => { cut with current := cell :: cut.current, inBlanks := false }
  | .char _ c =>
      let isBreak := c = parameterBreak
      let separates : Bool := isBreak || (!hard && separators.contains c)
      let blank : Bool := separates && (isBreak || isDefaultBlank c)
      let extended : Cut := { cut with current := cell :: cut.current }
      if cut.room = some 0 then
        if blank then { extended with keep := cut.keep.or (some cut.current.length) }
        else
          { extended with
            keep := if separates ∧ cut.inBlanks then cut.keep else none, inBlanks := false }
      else if cut.inBlanks ∧ separates then
        { cut with current := [], inBlanks := blank }
      else if separates then
        let inBlanks := blank && !afterHard && !hard
        if cut.current = [] ∧ inBlanks then { cut with inBlanks := false }
        else match cut.room with
          | some (room + 1) =>
              if room = 0 then
                { extended with inBlanks := inBlanks, room := some 0,
                                keep := some cut.current.length }
              else
                { cut with fields := cut.current.reverse :: cut.fields, current := [],
                           inBlanks := inBlanks, room := some room }
          | _ =>
              { cut with fields := cut.current.reverse :: cut.fields, current := [],
                         inBlanks := inBlanks }
      else { extended with inBlanks := false }

/-- Go on by a run; `afterHard` says whether the run before it was cut between parameters. -/
def run (separators : Text) (state : Cut × Bool) (r : Run) : Cut × Bool :=
  let (cut, afterHard) := state
  match r.cutting with
  | .never => ({ cut with current := r.cells.reverse ++ cut.current }, afterHard)
  | cutting =>
      let hard := cutting = .betweenParameters
      (r.cells.foldl (step separators hard afterHard) { cut with inBlanks := false }, hard)

end Cut

/-- The fields that runs are cut into, at most as many as there is room for if that is limited:
    the last of them then takes all the rest, but for blanks at its end. -/
def fieldsOf (separators : Text) (room : Option Nat) (runs : List Run) : List (List Cell) :=
  let start : Cut := ⟨[], [], false, room, none⟩
  let (cut, afterHard) := runs.foldl (Cut.run separators) (start, false)
  let last := match cut.keep with
    | some n => cut.current.reverse.take n
    | none => cut.current.reverse
  let fields := if last = [] ∧ ¬ afterHard then cut.fields else last :: cut.fields
  fields.reverse

end SourceBundle.Shell
