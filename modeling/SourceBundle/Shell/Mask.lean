import SourceBundle.Shell.Text

/-! # Masks — the permissions that new files are denied

    A mode is nine bits: read, write and execute for the owner, the group and all
    others.  A mask holds the bits that a new file does not get, so it is the
    complement of a mode.  It is shown and changed as an octal number, or by what is
    to be permitted (`Mask.ofSymbols`). -/

namespace SourceBundle.Shell

/-- A mode, or a mask of one. -/
abbrev Mask := Nat

namespace Mask

/-- All nine bits. -/
def all : Mask := 0o777

/-- The mask of a shell that was told nothing else. -/
def usual : Mask := 0o022

/-- The mode a mask leaves, and the other way round. -/
def complement (m : Mask) : Mask := all - m

/-- The groups of users by their letters: the bits of each, and how far those are from the last. -/
def groups : List (Char × Mask × Nat) :=
  [('u', 0o700, 6), ('g', 0o070, 3), ('o', 0o007, 0)]

/-- The permissions by their letters, for all users. -/
def permissions : List (Char × Mask) := [('r', 0o444), ('w', 0o222), ('x', 0o111)]

/-- The bits of a group's letter. -/
def usersOf (c : Char) : Mask :=
  if c = 'a' then all else ((groups.lookup c).map (·.1)).getD 0

/-- The permissions that a letter stands for, for all users: those of another group, or execution
    if the mode before permits it to someone, or nothing that counts here. -/
def permissionsOf (before : Mask) (c : Char) : Option Mask :=
  match permissions.lookup c, groups.lookup c with
  | some bits, _ => some bits
  | none, some (_, place) => some (0o111 * (before >>> place &&& 7))
  | none, none =>
      if c = 'X' then some (if before &&& 0o111 = 0 then 0 else 0o111)
      else if c = 's' then some 0
      else none

/-- A mode with some bits added, taken away, or instead of the others of these users. -/
def change (users : Mask) (operator : Char) (bits mode : Mask) : Mask :=
  let bits := bits &&& users
  match operator with
  | '+' => mode ||| bits
  | '-' => mode - (mode &&& bits)
  | _ => (mode - (mode &&& users)) ||| bits

/-- Is it the letter of a change? -/
def isOperator (c : Char) : Bool := c == '+' || c == '-' || c == '='

/-- Make the changes to a mode that are left of a clause, the first of which is half read. -/
def applyFrom (users before : Mask) (operator : Char) (bits : Mask) : Text → Mask → Option Mask
  | [], mode => some (change users operator bits mode)
  | c :: rest, mode =>
      if isOperator c then
        applyFrom users before c 0 rest (change users operator bits mode)
      else do
        applyFrom users before operator (bits ||| (← permissionsOf before c)) rest mode

/-- Make the changes of a clause, such as `go-w`, to a mode. -/
def applyClause (before : Mask) (clause : Text) (mode : Mask) : Option Mask :=
  let named := clause.takeWhile fun c => usersOf c ≠ 0
  let users := if named = [] then all else named.foldl (fun bits c => bits ||| usersOf c) 0
  match clause.drop named.length with
  | [] => none
  | c :: rest => if isOperator c then applyFrom users before c 0 rest mode else none

/-- The clauses between the commas of a text. -/
def clauses : Text → List Text
  | [] => [[]]
  | c :: rest =>
      match c, clauses rest with
      | ',', more => [] :: more
      | c, clause :: more => (c :: clause) :: more
      | c, [] => [[c]]

/-- Make the changes of clauses to a mode. The last one may be empty. -/
def applyClauses (before : Mask) : List Text → Mask → Option Mask
  | [], mode | [[]], mode => some mode
  | clause :: rest, mode => do applyClauses before rest (← applyClause before clause mode)

/-- The mask after changes to what it permits; nothing if a clause is none. -/
def ofSymbols (m : Mask) (symbols : Text) : Option Mask :=
  let before := complement m
  (applyClauses before (clauses symbols) before).map complement

/-- The mask that octal digits stand for, of which the last ones count. -/
def ofOctal (digits : Text) : Option Mask :=
  if digits.all (isDigitOf 8) then some (ofDigits 8 digits &&& all) else none

/-- A mask in octal digits. -/
def toOctal (m : Mask) : Text :=
  '0' :: [m / 64, m / 8 % 8, m % 8].map Nat.digitChar

/-- A mask as what it permits. -/
def toSymbols (m : Mask) : Text :=
  let ofGroup (letter : Char) (users : Mask) : Text :=
    let kept := permissions.filter fun (_, bits) => complement m &&& users &&& bits ≠ 0
    letter :: '=' :: kept.map (·.1)
  [','].intercalate (groups.map fun (letter, users, _) => ofGroup letter users)

end Mask

end SourceBundle.Shell
