import SourceBundle.Shell.Syntax

/-! # Reading a script — tokens

    A script is read token by token.  What has been read so far, and what has been
    put off, is the state of a reading (`Scanner`): a token that was looked at and
    put back, and the documents whose text begins after the end of the line.  A
    reading that fails says at which line and why (`Refusal`). -/

namespace SourceBundle.Shell

/-- What the operator of a redirection asks for. -/
inductive Operator where
  | file (mode : OpenMode)
  | copy
  /-- A document, perhaps without the tabs its lines begin with. -/
  | document (stripTabs : Bool)
  deriving DecidableEq, Repr

/-- A token of a script. -/
inductive Token where
  | endOfFile
  | newline
  | semicolon
  | ampersand
  | andThen
  | orElse
  | bar
  | opening
  | closing
  | endBranch
  | redirect (stream : Nat) (operator : Operator)
  | word (word : Word)
  | keyword (name : String)

/-- The words that stand for themselves where a command may begin. -/
def keywords : List String :=
  ["!", "case", "do", "done", "elif", "else", "esac", "fi", "for", "if", "in", "then", "until",
    "while", "\x7b", "\x7d"]

namespace Token

/-- A token as a complaint names it. -/
def describe : Token → String
  | .endOfFile => "end of file"
  | .newline => "newline"
  | .semicolon => "\";\""
  | .ampersand => "\"&\""
  | .andThen => "\"&&\""
  | .orElse => "\"||\""
  | .bar => "\"|\""
  | .opening => "\"(\""
  | .closing => "\")\""
  | .endBranch => "\";;\""
  | .redirect _ _ => "redirection"
  | .word _ => "word"
  | .keyword name => "\"" ++ name ++ "\""

/-- Is the token this keyword? -/
def isKeyword (name : String) : Token → Bool
  | .keyword name' => name == name'
  | _ => false

/-- Can no command begin with the token, because it ends a list of them? -/
def endsList : Token → Bool
  | .endOfFile | .closing | .endBranch => true
  | .keyword name => ["do", "done", "elif", "else", "esac", "fi", "then", "\x7d"].contains name
  | _ => false

/-- The token as a keyword, if it is a word that says one. -/
def toKeyword (t : Token) : Token :=
  match t with
  | .word w =>
      match w.plain? with
      | some s => if keywords.contains (String.ofList s) then .keyword (String.ofList s) else t
      | none => t
  | _ => t

end Token

/-- Why a script cannot be read. -/
inductive SyntaxError where
  | unexpected (found : Token) (expected : Option Token)
  | unterminatedQuote
  | missingBrace
  | missingParentheses
  | unterminatedOutput
  | loopVariable
  | functionName
  | streamNumber
  /-- The reading took more steps than it was given. -/
  | tooLong

/-- The wording of a syntax error. -/
def SyntaxError.message : SyntaxError → String
  | .unexpected found none => found.describe ++ " unexpected"
  | .unexpected found (some expected) =>
      found.describe ++ " unexpected (expecting " ++ expected.describe ++ ")"
  | .unterminatedQuote => "Unterminated quoted string"
  | .missingBrace => "Missing '\x7d'"
  | .missingParentheses => "Missing '))'"
  | .unterminatedOutput => "EOF in backquote substitution"
  | .loopVariable => "Bad for loop variable"
  | .functionName => "Bad function name"
  | .streamNumber => "Bad fd number"
  | .tooLong => "too long"

/-- A syntax error and the line it was found at. -/
structure Refusal where
  line : Nat
  error : SyntaxError

/-- A document whose text has not been reached yet. -/
structure Awaited where
  number : Nat
  /-- The line that ends the text. -/
  delimiter : Text
  expands : Bool
  stripTabs : Bool

/-- Where the reading of a script stands. -/
structure Scanner where
  rest : Text
  line : Nat
  /-- What follows the document that is being read, once its end has been seen. -/
  beyond : Option Text
  awaited : List Awaited
  /-- The documents read, by their numbers. -/
  documents : List (Nat × Document)
  nextDocument : Nat
  /-- The last token. -/
  last : Token
  /-- Is the last token to be read again? -/
  putBack : Bool
  /-- Words that stand for other texts where a command may begin. -/
  aliases : List (Text × Text)
  /-- The aliases at work, each with the length of the script after it. -/
  active : List (Text × Nat)

/-- A step of reading a script. -/
abbrev Scan := EStateM Refusal Scanner

namespace Scan

/-- Fail at the current line. -/
def fail {α : Type} (error : SyntaxError) : Scan α := fun s => .error ⟨s.line, error⟩ s

/-- The next character, taken as it is. -/
def takeChar : Scan (Option Char) := fun s =>
  match s.rest with
  | [] => .ok none s
  | c :: rest =>
      .ok (some c) { s with rest := rest, line := if c = '\n' then s.line + 1 else s.line }

/-- The next character, taken as it is; a line that it ends is not counted. -/
def takeUncounted : Scan (Option Char) := fun s =>
  match s.rest with
  | [] => .ok none s
  | c :: rest => .ok (some c) { s with rest := rest }

/-- Leave out line ends after a backslash. -/
def joinLines : Scan Unit := fun s =>
  let (rest, line) := go s.line s.rest
  .ok () { s with rest := rest, line := line }
where
  /-- The text after the joined line ends at its front, and the line there. -/
  go (line : Nat) : Text → Text × Nat
    | '\\' :: '\n' :: rest => go (line + 1) rest
    | rest => (rest, line)

/-- The next character, lines joined. -/
def next : Scan (Option Char) := do joinLines; takeChar

/-- The next character, lines joined, without taking it. -/
def peek : Scan (Option Char) := do joinLines; return (← get).rest.head?

/-- Take the next character if it is this one. -/
def accept (c : Char) : Scan Bool := do
  if (← peek) = some c then
    let _ ← takeChar
    return true
  else return false

/-- Take characters of a kind, lines joined. -/
def takeWhile (p : Char → Bool) : Scan Text := do
  let fuel := (← get).rest.length
  go fuel []
where
  /-- Go on after the characters taken, the last first. -/
  go : (fuel : Nat) → Text → Scan Text
    | 0, taken => return taken.reverse
    | fuel + 1, taken => do
        match ← peek with
        | some c =>
            if p c then
              let _ ← takeChar
              go fuel (c :: taken)
            else return taken.reverse
        | none => return taken.reverse

end Scan

end SourceBundle.Shell
