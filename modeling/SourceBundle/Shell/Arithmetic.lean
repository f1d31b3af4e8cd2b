import SourceBundle.Shell.Text

/-! # Arithmetic — the value of `$((…))`

    Whole numbers of 64 bits with the usual operators, their precedence, and
    assignments to variables.  What an operator does not need is read but not
    evaluated: there no variable is looked at, nothing is assigned and nothing
    divided.  `Arithmetic.evaluate` gives the value together with the assignments
    that were made on the way. -/

namespace SourceBundle.Shell

/-- Why an expression has no value. -/
inductive ArithmeticError where
  | expectedPrimary
  | expectedClosing
  | expectedColon
  | expectedEnd
  | divisionByZero
  /-- A variable holds no number. -/
  | notANumber (value : Text)
  | tooLong
  deriving DecidableEq, Repr

/-- The wording of an error in an expression. -/
def ArithmeticError.message (expression : Text) : ArithmeticError → Text
  | .expectedPrimary => inExpression "expecting primary"
  | .expectedClosing => inExpression "expecting ')'"
  | .expectedColon => inExpression "expecting ':'"
  | .expectedEnd => inExpression "expecting EOF"
  | .divisionByZero => inExpression "division by zero"
  | .notANumber value => text "Illegal number: " ++ value
  | .tooLong => inExpression "too long"
where
  /-- The complaint about an expression. -/
  inExpression (why : String) : Text :=
    text ("arithmetic expression: " ++ why ++ ": \x22") ++ expression ++ ['\x22']

/-- Where the evaluation of an expression stands. -/
structure Calculation where
  rest : Text
  /-- The values of the variables before the evaluation. -/
  valueOf : Text → Option Text
  /-- The variables assigned to, the last first. -/
  assigned : List (Text × Int)

/-- A step of evaluating an expression. -/
abbrev Calculate := EStateM ArithmeticError Calculation

namespace Arithmetic

/-- A number brought into 64 bits, as a sum that runs over is. -/
def wrap (n : Int) : Int := (Int64.ofInt n).toInt

/-- The operators, longer ones before those they begin with. -/
def operators : List Text :=
  ["<<=", ">>=", "||", "&&", "==", "!=", "<=", ">=", "<<", ">>", "*=", "/=", "%=", "+=", "-=",
    "&=", "^=", "|=", "*", "/", "%", "+", "-", "<", ">", "&", "^", "|", "=", "!", "~", "(", ")",
    "?", ":"].map text

/-- How loosely an operator on two values binds: those of the least level bind first. -/
def levelOf? (operator : Text) : Option Nat :=
  let levels := ["* / %", "+ -", "<< >>", "< <= > >=", "== !=", "&", "^", "|"]
  levels.findIdx? fun level => ((level.splitOn " ").map text).contains operator

/-- More than the level of any operator. -/
def looseLevel : Nat := 8

/-- The assignments and the operators they apply; none for the plain one. -/
def assignments : List (Text × Option Text) :=
  (text "=", none) ::
    ["<<", ">>", "*", "/", "%", "+", "-", "&", "^", "|"].map fun o =>
      (text (o ++ "="), some (text o))

/-- An operator on the bits of two numbers. -/
def onBits (f : Int64 → Int64 → Int64) (a b : Int) : Int :=
  (f (Int64.ofInt a) (Int64.ofInt b)).toInt

/-- The number that stands for a truth. -/
def ofBool (p : Bool) : Int := if p then 1 else 0

/-- The value of an operator on two values; nothing for a division by zero. -/
def operate? (operator : Text) (a b : Int) : Option Int :=
  match String.ofList operator with
  | "*" => some (wrap (a * b))
  | "/" => if b = 0 then none else some (wrap (a.tdiv b))
  | "%" => if b = 0 then none else some (a.tmod b)
  | "+" => some (wrap (a + b))
  | "-" => some (wrap (a - b))
  | "<<" => some (onBits (· <<< ·) a b)
  | ">>" => some (onBits (· >>> ·) a b)
  | "<" => some (ofBool (a < b))
  | "<=" => some (ofBool (a ≤ b))
  | ">" => some (ofBool (b < a))
  | ">=" => some (ofBool (b ≤ a))
  | "==" => some (ofBool (a = b))
  | "!=" => some (ofBool (a ≠ b))
  | "&" => some (onBits (· &&& ·) a b)
  | "^" => some (onBits (· ^^^ ·) a b)
  | "|" => some (onBits (· ||| ·) a b)
  | _ => some 0

/-- The value of an operator, unless it is not needed. -/
def applied (needed : Bool) (operator : Text) (a b : Int) : Calculate Int :=
  if ¬ needed then return b
  else match operate? operator a b with
    | some n => return n
    | none => throw .divisionByZero

/-- The operator that comes next, and nothing if something else does. -/
def peekOperator : Calculate Text := fun s =>
  let rest := s.rest.dropWhile isDefaultBlank
  .ok ((operators.find? (·.isPrefixOf rest)).getD []) { s with rest := rest }

/-- Leave out as many characters. -/
def drop (n : Nat) : Calculate Unit := modify fun s => { s with rest := s.rest.drop n }

/-- Take an operator if it comes next. -/
def accept (operator : String) : Calculate Bool := do
  if (← peekOperator) = text operator then
    drop operator.length
    return true
  else return false

/-- The number a variable holds; a missing or empty one holds 0. -/
def valueOfName (needed : Bool) (name : Text) : Calculate Int := do
  let s ← get
  if ¬ needed then return 0
  else match s.assigned.lookup name with
    | some n => return n
    | none =>
        let value := (s.valueOf name).getD []
        if value.all isSpace then return 0
        else match wholeNumber? 0 value with
          | some n => return n
          | none => throw (.notANumber value)

/-- The name that comes next, and the assignment after it; nothing is taken if there is none. -/
def assignment? : Calculate (Option (Text × Option Text)) := do
  let before ← get
  let rest := before.rest.dropWhile isDefaultBlank
  let name := rest.takeWhile isNameChar
  if ! isName name then return none
  else do
    set { before with rest := rest.drop name.length }
    let operator ← peekOperator
    match assignments.lookup operator with
    | some applied => do
        drop operator.length
        return some (name, applied)
    | none => do
        set before
        return none

mutual

/-- An assignment, or an expression without one. -/
def assignment : (fuel : Nat) → (needed : Bool) → Calculate Int
  | 0, _ => throw .tooLong
  | fuel + 1, needed => do
      match ← assignment? with
      | none => choice fuel needed
      | some (name, operator) => do
          let right ← assignment fuel needed
          if ¬ needed then return right
          else do
            let value ← match operator with
              | none => pure right
              | some operator => do applied true operator (← valueOfName true name) right
            modify fun s => { s with assigned := (name, value) :: s.assigned }
            return value

/-- A choice between two expressions. -/
def choice : (fuel : Nat) → (needed : Bool) → Calculate Int
  | 0, _ => throw .tooLong
  | fuel + 1, needed => do
      let test ← disjunction fuel needed
      if ← accept "?" then do
        let yes ← assignment fuel (needed && test ≠ 0)
        if ! (← accept ":") then throw .expectedColon
        let no ← choice fuel (needed && test = 0)
        return if test ≠ 0 then yes else no
      else return test

/-- Expressions joined by `||`. -/
def disjunction : (fuel : Nat) → (needed : Bool) → Calculate Int
  | 0, _ => throw .tooLong
  | fuel + 1, needed => do
      let a ← conjunction fuel needed
      if ← accept "||" then do
        let b ← disjunction fuel (needed && a = 0)
        return ofBool (a ≠ 0 || b ≠ 0)
      else return a

/-- Expressions joined by `&&`. -/
def conjunction : (fuel : Nat) → (needed : Bool) → Calculate Int
  | 0, _ => throw .tooLong
  | fuel + 1, needed => do
      let a ← operation fuel needed looseLevel
      if ← accept "&&" then do
        let b ← conjunction fuel (needed && a ≠ 0)
        return ofBool (a ≠ 0 && b ≠ 0)
      else return a

/-- Values joined by operators that bind closer than a level. -/
def operation : (fuel : Nat) → (needed : Bool) → (level : Nat) → Calculate Int
  | 0, _, _ => throw .tooLong
  | fuel + 1, needed, level => do operationAfter fuel needed level (← primary fuel needed)

/-- What operators that bind closer than a level make of a first value. -/
def operationAfter : (fuel : Nat) → (needed : Bool) → (level : Nat) → Int → Calculate Int
  | 0, _, _, _ => throw .tooLong
  | fuel + 1, needed, level, a => do
      let operator ← peekOperator
      match levelOf? operator with
      | none => return a
      | some own =>
          if level ≤ own then return a
          else do
            drop operator.length
            let b ← operation fuel needed own
            operationAfter fuel needed level (← applied needed operator a b)

/-- A number, a variable, an expression in parentheses, or one of these with a sign. -/
def primary : (fuel : Nat) → (needed : Bool) → Calculate Int
  | 0, _ => throw .tooLong
  | fuel + 1, needed => do
      if ← accept "(" then do
        let value ← assignment fuel needed
        if ← accept ")" then return value else throw .expectedClosing
      else if ← accept "+" then primary fuel needed
      else if ← accept "-" then return wrap (-(← primary fuel needed))
      else if ← accept "!" then return ofBool ((← primary fuel needed) = 0)
      else if ← accept "~" then return -(← primary fuel needed) - 1
      else do
        let rest := (← get).rest
        match rest with
        | c :: _ =>
            if c.isDigit then
              match numeral? 0 rest with
              | some n => do
                  modify fun s => { s with rest := n.rest }
                  return n.value
              | none => throw .expectedPrimary
            else if isNameStart c then do
              let name := rest.takeWhile isNameChar
              drop name.length
              valueOfName needed name
            else throw .expectedPrimary
        | [] => throw .expectedPrimary

end

/-- The value of a whole expression and the assignments it makes, the first of them first. -/
def evaluate (valueOf : Text → Option Text) (expression : Text) :
    Except ArithmeticError (Int × List (Text × Int)) :=
  let start : Calculation := { rest := expression, valueOf := valueOf, assigned := [] }
  let whole : Calculate Int := do
    let value ← assignment (12 * expression.length + 12) true
    let _ ← peekOperator
    if (← get).rest = [] then return value else throw .expectedEnd
  match whole.run start with
  | .ok value s => .ok (value, s.assigned.reverse)
  | .error e _ => .error e

end Arithmetic

end SourceBundle.Shell
