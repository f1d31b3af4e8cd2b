import SourceBundle.Shell.Word

/-! # Reading a script — commands

    Commands are read by descent: lists of commands, those joined by `&&` and `||`,
    pipelines, single commands.  A script is read one complete command at a time
    (`Scanner.nextCommand`), since what a command does may change how the rest is
    read. -/

namespace SourceBundle.Shell

/-- The builtin commands that are part of the language; no function may have their names. -/
def specialBuiltins : List String :=
  [".", ":", "break", "continue", "eval", "exec", "exit", "export", "local", "readonly", "return",
    "set", "shift", "times", "trap", "unset"]

namespace Scan

/-- Fail because of a token, perhaps where another was expected. -/
def unexpected {α : Type} (found : Token) (expected : Option Token) : Scan α :=
  fail (.unexpected found expected)

/-- Where a list of commands ends. -/
inductive ListKind where
  /-- At a line end: a complete command. -/
  | line
  /-- At a closing word, after at least one command. -/
  | body
  /-- At a closing word, perhaps at once. -/
  | optional
  deriving DecidableEq, Repr

/-- The words and redirections of a simple command as they are read, the last first. -/
structure SimpleDraft where
  assignments : List Word
  words : List Word
  redirects : List Redirect

/-- The tokens at the start of a command, where line ends do not count. -/
def anyLine : TokenRules := { lines := true, keywords := true, aliases := true }

/-- The tokens at the start of a command. -/
def sameLine : TokenRules := { keywords := true, aliases := true }

/-- A word that has to follow, whatever it says. -/
def wordToken (nested : Nested) (verbatim : Bool) : Scan Word := do
  match ← token nested { verbatim := verbatim } with
  | .word w => return w
  | t => unexpected t none

/-- The redirection that an operator begins. -/
def redirection (nested : Nested) (stream : Nat) (operator : Operator) : Scan Redirect := do
  match operator with
  | .file mode => return .file stream mode (← wordToken nested false)
  | .copy => return .copy stream (← wordToken nested false)
  | .document stripTabs => do
      let word ← wordToken nested true
      let number := (← get).nextDocument
      let awaited : Awaited :=
        { number := number, delimiter := word.unquoted, expands := word.plain?.isSome,
          stripTabs := stripTabs }
      modify fun s =>
        { s with nextDocument := number + 1, awaited := s.awaited ++ [awaited] }
      return .document stream number

/-- The redirections that follow a command. A keyword is one right behind the command only, not
    behind a redirection. -/
def redirections (nested : Nested) : (fuel : Nat) → List Redirect → Scan (List Redirect)
  | 0, _ => fail .tooLong
  | fuel + 1, taken => do
      match ← token nested (if taken.isEmpty then sameLine else {}) with
      | .redirect stream operator => do
          redirections nested fuel (taken ++ [← redirection nested stream operator])
      | _ => do
          putBack
          return taken

/-- The words a `for` runs through, and the token after them. -/
def loopWords (nested : Nested) : (fuel : Nat) → List Word → Scan (List Word × Token)
  | 0, _ => fail .tooLong
  | fuel + 1, taken => do
      match ← token nested {} with
      | .word w => loopWords nested fuel (taken ++ [w])
      | t => return (taken, t)

/-- The patterns of a branch after the first, through the parenthesis. -/
def morePatterns (nested : Nested) : (fuel : Nat) → List Word → Scan (List Word)
  | 0, _ => fail .tooLong
  | fuel + 1, taken => do
      match ← token nested {} with
      | .bar => do morePatterns nested fuel (taken ++ [pattern (← token nested {})])
      | .closing => return taken
      | t => unexpected t (some .closing)
where
  /-- The word a token is as a pattern. Keywords are words here, and what is no word at all
      stands for the one before the patterns. -/
  pattern : Token → Word
    | .word w => w
    | .keyword name => Word.ofText false name.toList
    | _ => Word.ofText false (text "in")

/-- The commands in order as one. -/
def inOrder : List Command → Option Command
  | [] => none
  | [c] => some c
  | cs => some (.sequence cs)

/-- Expect a token that satisfies a test. -/
def expect (nested : Nested) (rules : TokenRules) (expected : Token) (fits : Token → Bool) :
    Scan Unit := do
  let t ← token nested rules
  if fits t then return () else unexpected t (some expected)

/-- Expect a keyword. -/
def expectKeyword (nested : Nested) (rules : TokenRules) (name : String) : Scan Unit :=
  expect nested rules (.keyword name) (·.isKeyword name)

/-- Is the token a closing parenthesis? -/
def isClosing : Token → Bool
  | .closing => true
  | _ => false

mutual

/-- The readers of the commands inside words. -/
def nestedReaders : (fuel : Nat) → Nested
  | 0 => ⟨fail .tooLong, fail .tooLong⟩
  | fuel + 1 =>
      { parenthesised := do
          let awaited := (← get).awaited
          modify fun s => { s with awaited := [] }
          let body ← list fuel .optional
          expect (nestedReaders fuel) {} .closing isClosing
          within [] (do
            modify fun s => { s with awaited := [] }
            readDocuments (nestedReaders fuel))
          modify fun s => { s with awaited := awaited }
          return body
        whole := list fuel .optional }

/-- A list of commands. -/
def list : (fuel : Nat) → ListKind → Scan (Option Command)
  | 0, _ => fail .tooLong
  | fuel + 1, kind => do
      let commands ← listAfter fuel kind []
      return inOrder commands

/-- The commands of a list after those read. -/
def listAfter : (fuel : Nat) → ListKind → List Command → Scan (List Command)
  | 0, _, _ => fail .tooLong
  | fuel + 1, kind, taken => do
      let nested := nestedReaders fuel
      let rules := if kind = .line then sameLine else anyLine
      match ← token nested rules with
      | .newline => do
          readDocuments nested
          return taken
      | .endOfFile => do
          putBack
          return taken
      | t => do
          putBack
          if t.endsList ∧ kind ≠ .line ∧ (kind = .optional ∨ taken ≠ []) then return taken
          else do
            let command ← andOr fuel
            match ← token nested {} with
            | .ampersand => listAfter fuel kind (taken ++ [.background command])
            | .semicolon => listAfter fuel kind (taken ++ [command])
            | .newline => do
                putBack
                listAfter fuel kind (taken ++ [command])
            | .endOfFile => do
                putBack
                return taken ++ [command]
            | t =>
                if kind = .line then unexpected t none
                else do
                  putBack
                  return taken ++ [command]

/-- Pipelines joined by `&&` and `||`. -/
def andOr : (fuel : Nat) → Scan Command
  | 0 => fail .tooLong
  | fuel + 1 => do
      let first ← pipeline fuel
      andOrAfter fuel first

/-- What is joined to a first command. -/
def andOrAfter : (fuel : Nat) → Command → Scan Command
  | 0, _ => fail .tooLong
  | fuel + 1, first => do
      match ← token (nestedReaders fuel) {} with
      | .andThen => do
          let _ ← token (nestedReaders fuel) anyLine
          putBack
          andOrAfter fuel (.both first (← pipeline fuel))
      | .orElse => do
          let _ ← token (nestedReaders fuel) anyLine
          putBack
          andOrAfter fuel (.either first (← pipeline fuel))
      | _ => do
          putBack
          return first

/-- Commands joined by `|`, perhaps negated. -/
def pipeline : (fuel : Nat) → Scan Command
  | 0 => fail .tooLong
  | fuel + 1 => do
      let negated := (← token (nestedReaders fuel) {}).isKeyword "!"
      if negated then
        let _ ← token (nestedReaders fuel) sameLine
      putBack
      let first ← command fuel
      let all ← pipelineAfter fuel [first]
      let whole : Command :=
        match all with
        | [c] => c
        | cs => .pipeline cs
      return if negated then .negated whole else whole

/-- The commands of a pipeline after those read. -/
def pipelineAfter : (fuel : Nat) → List Command → Scan (List Command)
  | 0, _ => fail .tooLong
  | fuel + 1, taken => do
      match ← token (nestedReaders fuel) {} with
      | .bar => do
          let _ ← token (nestedReaders fuel) anyLine
          putBack
          pipelineAfter fuel (taken ++ [← command fuel])
      | _ => do
          putBack
          return taken

/-- One command. -/
def command : (fuel : Nat) → Scan Command
  | 0 => fail .tooLong
  | fuel + 1 => do
      let nested := nestedReaders fuel
      let t ← token nested {}
      let line := (← get).line
      let followed (c : Command) : Scan Command := do
        let redirects ← redirections nested ((← get).rest.length + 2) []
        match redirects, c with
        | [], c => return c
        | _, .subshell line inner _ => return .subshell line inner redirects
        | _, c => return .redirected line c redirects
      match t with
      | .word _ | .redirect _ _ => do
          putBack
          simple fuel line ⟨[], [], []⟩
      | .opening => do
          let body ← required fuel
          expect nested {} .closing isClosing
          followed (.subshell line body [])
      | .keyword "\x7b" => do
          let body ← required fuel
          expectKeyword nested {} "\x7d"
          followed body
      | .keyword "if" => do
          let c ← choice fuel
          expectKeyword nested {} "fi"
          followed c
      | .keyword "while" => do
          let (test, body) ← loopParts fuel
          followed (.loop false test body)
      | .keyword "until" => do
          let (test, body) ← loopParts fuel
          followed (.loop true test body)
      | .keyword "for" => do
          let name ← match ← token nested {} with
            | .word w =>
                match w.plain? with
                | some name => if isName name then pure name else fail .loopVariable
                | none => fail .loopVariable
            | _ => fail .loopVariable
          let words ← match ← token nested anyLine with
            | .keyword "in" => do
                let (words, t) ← loopWords nested ((← get).rest.length + 2) []
                match t with
                | .newline | .semicolon => pure words
                | t => unexpected t none
            | .semicolon => pure [Word.everyParameter]
            | _ => do
                putBack
                pure [Word.everyParameter]
          expectKeyword nested anyLine "do"
          let body ← required fuel
          expectKeyword nested {} "done"
          followed (.each line name words body)
      | .keyword "case" => do
          let word ← match ← token nested {} with
            | .word w => pure w
            | t => unexpected t (some (.word []))
          expectKeyword nested anyLine "in"
          let all ← branches fuel []
          followed (.select line word all)
      | t => unexpected t none

/-- A list of at least one command. At the end of the text there is none; the caller complains
    there, since it expects a word that ends the list. -/
def required : (fuel : Nat) → Scan Command
  | 0 => fail .tooLong
  | fuel + 1 => do return (← list fuel .body).getD (.sequence [])

/-- The test and the branches of an `if`, up to the closing word. -/
def choice : (fuel : Nat) → Scan Command
  | 0 => fail .tooLong
  | fuel + 1 => do
      let nested := nestedReaders fuel
      let test ← required fuel
      expectKeyword nested {} "then"
      let yes ← required fuel
      match ← token nested {} with
      | .keyword "elif" => return .choice test yes (some (← choice fuel))
      | .keyword "else" => return .choice test yes (some (← required fuel))
      | _ => do
          putBack
          return .choice test yes none

/-- The test and the body of a loop, through the closing word. -/
def loopParts : (fuel : Nat) → Scan (Command × Command)
  | 0 => fail .tooLong
  | fuel + 1 => do
      let nested := nestedReaders fuel
      let test ← required fuel
      expectKeyword nested {} "do"
      let body ← required fuel
      expectKeyword nested {} "done"
      return (test, body)

/-- The branches of a `case` after those read, through the closing word. -/
def branches : (fuel : Nat) → List Branch → Scan (List Branch)
  | 0, _ => fail .tooLong
  | fuel + 1, taken => do
      let nested := nestedReaders fuel
      let rules : TokenRules := { lines := true, keywords := true }
      match ← token nested rules with
      | .keyword "esac" => return taken
      | t => do
          let first ← match t with
            | .opening => token nested {}
            | t => pure t
          let pattern := morePatterns.pattern first
          let patterns ← morePatterns nested ((← get).rest.length + 2) [pattern]
          let body ← list fuel .optional
          let taken := taken ++ [.branch patterns body]
          match ← token nested rules with
          | .keyword "esac" => return taken
          | .endBranch => branches fuel taken
          | t => unexpected t (some .endBranch)

/-- A simple command, or the definition of a function. -/
def simple : (fuel : Nat) → (line : Nat) → SimpleDraft → Scan Command
  | 0, _, _ => fail .tooLong
  | fuel + 1, line, draft => do
      let nested := nestedReaders fuel
      match ← token nested { aliases := draft.words = [] } with
      | .word w =>
          if draft.words = [] ∧ w.assignment?.isSome then
            simple fuel line { draft with assignments := draft.assignments ++ [w] }
          else simple fuel line { draft with words := draft.words ++ [w] }
      | .redirect stream operator => do
          let r ← redirection nested stream operator
          simple fuel line { draft with redirects := draft.redirects ++ [r] }
      | t =>
          match t, draft with
          | .opening, ⟨[], [name], []⟩ => do
              expect nested {} .closing isClosing
              match name.plain? with
              | some name =>
                  if isName name ∧ String.ofList name ∉ specialBuiltins then do
                    let _ ← token nested anyLine
                    putBack
                    return .define name (← command fuel)
                  else fail .functionName
              | none => fail .functionName
          | _, _ => do
              putBack
              return .simple line draft.assignments draft.words draft.redirects

end

/-- How many steps the reading of a text may take at most. -/
def maxSteps (text : Text) : Nat := 16 * text.length + 64

end Scan

/-- What is found where a complete command may stand. -/
inductive Reading where
  | endOfFile
  /-- A line with no command on it. -/
  | emptyLine
  | command (c : Command)

/-- A reading that begins at the front of a text. -/
def Scanner.ofText (text : Text) : Scanner :=
  { rest := text, line := 1, beyond := none, awaited := [], documents := [], nextDocument := 0,
    last := .newline, putBack := false, aliases := [], active := [] }

/-- Read the next complete command. -/
def Scanner.nextCommand (s : Scanner) : Except Refusal Reading × Scanner :=
  let start := { s with awaited := [], putBack := false }
  match Scan.list (Scan.maxSteps s.rest) .line start with
  | .ok (some c) s => (.ok (.command c), s)
  | .ok none s =>
      match s.last with
      | .endOfFile => (.ok .endOfFile, s)
      | _ => (.ok .emptyLine, s)
  | .error e s => (.error e, s)

/-- A text as a word, its parameters expanded as in a document; nothing if it is none. -/
def Scanner.wordOf (s : Text) : Option Word :=
  let document : Awaited :=
    { number := 0, delimiter := ['\n'], expands := true, stripTabs := false }
  match Scan.readDocument (Scan.nestedReaders (Scan.maxSteps s)) document (.ofText s) with
  | .ok _ s => (s.documents.lookup 0).map (·.text)
  | .error _ _ => none

/-- Has the reading seen the end of the text? -/
def Scanner.atEnd (s : Scanner) : Bool :=
  match s.last with
  | .endOfFile => s.putBack
  | _ => false

end SourceBundle.Shell
