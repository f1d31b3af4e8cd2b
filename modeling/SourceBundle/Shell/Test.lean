import SourceBundle.FileSystem.Change
import SourceBundle.Shell.Text

/-! # Tests — what `test` and `[` find true

    A test is a list of arguments, read as operators and operands by position.
    `Test.truth` gives its truth in a file system, or the complaint about it.  The
    system is one of a single user who may read and write everything. -/

namespace SourceBundle.Shell

namespace Test

/-- An operator of a test. -/
inductive Operator where
  | unary
  | binary
  | not
  | and
  | or
  | opening
  | closing
  deriving DecidableEq, Repr

/-- What an argument is at its place. -/
inductive Role where
  | operator (o : Operator)
  | operand
  | missing
  deriving DecidableEq, Repr

/-- The operator an argument says, wherever it stands. -/
def operator? (arg : Text) : Option Operator :=
  let s := String.ofList arg
  if ["-r", "-w", "-x", "-e", "-f", "-d", "-c", "-b", "-p", "-u", "-g", "-k", "-s", "-t", "-z",
      "-n", "-h", "-O", "-G", "-L", "-S"].contains s then some .unary
  else if ["=", "!=", "<", ">", "-eq", "-ne", "-ge", "-gt", "-le", "-lt", "-nt", "-ot",
      "-ef"].contains s then some .binary
  else if s = "!" then some .not
  else if s = "-a" then some .and
  else if s = "-o" then some .or
  else if s = "(" then some .opening
  else if s = ")" then some .closing
  else none

/-- What the first of the arguments is. An operator on one operand is an operand itself if
    nothing follows, or if what follows joins it to another. -/
def role : List Text → Role
  | [] => .missing
  | arg :: rest =>
      match operator? arg with
      | none => .operand
      | some .unary =>
          let isOperand : Bool :=
            match rest with
            | [] => true
            | [_] => false
            | next :: _ => operator? next == some .binary
          if isOperand then .operand else .operator .unary
      | some .opening => if rest = [] then .operand else .operator .opening
      | some o => .operator o

/-- A step through the arguments; what is thrown is a complaint. -/
abbrev Step := EStateM Text (List Text)

/-- The whole number an argument says. -/
def number (arg : Text) : Step Int :=
  match wholeNumber? 10 arg with
  | some n => return n
  | none => throw (text "Illegal number: " ++ arg)

/-- The entry at a path, links not followed at the end. -/
def linkAt? (fs : FileSystem) (path : Path) : Option Entry :=
  match fs.lastName path with
  | .ok (some (dir, name)) => fs.entryOf? (dir ++ [name])
  | _ => none

/-- The truth of an operator on one operand. -/
def unary (fs : FileSystem) (o arg : Text) : Step Bool := do
  let path : Path := ⟨toBytes arg⟩
  let entry := fs.entryAt? path
  match String.ofList o with
  | "-n" => return arg ≠ []
  | "-z" => return arg = []
  | "-t" => do
      let _ ← number arg
      return false
  | "-e" | "-r" | "-w" | "-O" | "-G" => return entry.isSome
  | "-f" =>
      return match entry with
        | some (.file _ _) => true
        | _ => false
  | "-d" => return entry = some .directory
  | "-c" => return (entry matches some (.device _))
  | "-x" =>
      return match entry with
        | some (.file _ executable) => executable
        | some .directory => true
        | _ => false
  | "-s" =>
      return match entry with
        | some (.file content _) => content ≠ []
        | some .directory => true
        | _ => false
  | "-h" | "-L" =>
      return match linkAt? fs path with
        | some (.link _) => true
        | _ => false
  | _ => return false

/-- The truth of an operator on two operands. -/
def binary (fs : FileSystem) (o a b : Text) : Step Bool := do
  let compare (f : Int → Int → Bool) : Step Bool := do
    let m ← number a
    return f m (← number b)
  match String.ofList o with
  | "=" => return a = b
  | "!=" => return a ≠ b
  | "<" => return toBytes a < toBytes b
  | ">" => return toBytes b < toBytes a
  | "-eq" => compare fun m n => m = n
  | "-ne" => compare fun m n => m ≠ n
  | "-ge" => compare fun m n => n ≤ m
  | "-gt" => compare fun m n => n < m
  | "-le" => compare fun m n => m ≤ n
  | "-lt" => compare fun m n => m < n
  | "-ef" =>
      return match fs.locate .reach ⟨toBytes a⟩, fs.locate .reach ⟨toBytes b⟩ with
        | .ok p, .ok q => p = q
        | _, _ => false
  | _ => return false

mutual

/-- Tests joined by `-o`. -/
def disjunction (fs : FileSystem) : (fuel : Nat) → (first : Role) → Step Bool
  | 0, _ => return false
  | fuel + 1, first => do
      let truth ← conjunction fs fuel first
      if role ((← get).drop 1) = .operator .or then do
        modify (·.drop 2)
        let other ← disjunction fs fuel (role (← get))
        return truth || other
      else return truth

/-- Tests joined by `-a`. -/
def conjunction (fs : FileSystem) : (fuel : Nat) → (first : Role) → Step Bool
  | 0, _ => return false
  | fuel + 1, first => do
      let truth ← negation fs fuel first
      if role ((← get).drop 1) = .operator .and then do
        modify (·.drop 2)
        let other ← conjunction fs fuel (role (← get))
        return truth && other
      else return truth

/-- A test, perhaps negated. -/
def negation (fs : FileSystem) : (fuel : Nat) → (first : Role) → Step Bool
  | 0, _ => return false
  | fuel + 1, first => do
      if first = .operator .not then do
        let next := role ((← get).drop 1)
        if next ≠ .missing then modify (·.drop 1)
        return !(← negation fs fuel next)
      else primary fs fuel first

/-- A test in parentheses, an operator with its operands, or a lone operand. -/
def primary (fs : FileSystem) : (fuel : Nat) → (first : Role) → Step Bool
  | 0, _ => return false
  | fuel + 1, first => do
      let args ← get
      match first, args with
      | .missing, _ | _, [] => return false
      | .operator .opening, _ => do
          modify (·.drop 1)
          let next := role (← get)
          if next = .operator .closing then return false
          else do
            let truth ← disjunction fs fuel next
            modify (·.drop 1)
            if role (← get) = .operator .closing then return truth
            else throw (text "closing paren expected")
      | .operator .unary, o :: rest => do
          set rest
          match rest with
          | [] => throw (o ++ text ": argument expected")
          | arg :: _ => unary fs o arg
      | _, a :: rest =>
          if role rest = .operator .binary then
            match rest with
            | o :: b :: more => do
                set (b :: more)
                binary fs o a b
            | [o] => throw (o ++ text ": argument expected")
            | [] => return false
          else return a ≠ []

end

/-- The truth of all the arguments; those of few are first read by their number. -/
def truth (fs : FileSystem) : (fuel : Nat) → List Text → Except Text Bool
  | 0, _ => .ok false
  | fuel + 1, args =>
      let whole (first : Role) (args : List Text) : Except Text Bool :=
        match (disjunction fs (4 * args.length + 4) first).run args with
        | .error complaint _ => .error complaint
        | .ok truth rest =>
            match rest with
            | a :: _ :: _ =>
                .error ((if a = [] then [] else a ++ text ": ") ++ text "unexpected operator")
            | _ => .ok truth
      let few (args : List Text) : Except Text Bool :=
        if args.head? = some ['('] ∧ args.getLast? = some [')'] then
          let inner := (args.drop 1).dropLast
          whole (role inner) inner
        else if args.head? = some ['!'] then (truth fs fuel (args.drop 1)).map (! ·)
        else whole (role args) args
      match args with
      | [] => .ok false
      | [_, o, _] => if operator? o = some .binary then whole .operand args else few args
      | [_, _, _, _] => few args
      | _ => whole (role args) args

end Test

end SourceBundle.Shell
