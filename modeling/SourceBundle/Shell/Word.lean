import SourceBundle.Shell.Token

/-! # Reading a script — words

    A word is read part by part.  What a character means depends on where it stands
    (`Setting`): bare, between quotes, between the braces of a parameter, in an
    expression or in a document.  The commands of a substitution are read by a
    reader that is handed in (`Nested`), since they are read by the grammar, which
    reads words in turn. -/

namespace SourceBundle.Shell

/-- Where a character stands. -/
inductive Setting where
  /-- In a bare word, which ends at a blank or an operator. -/
  | bare
  /-- Between the braces of a parameter, outside of quotes. -/
  | braces
  /-- Between double quotes, which may stand between braces themselves. -/
  | quoted (inBraces : Bool)
  /-- Between the braces of a parameter that stands between double quotes. -/
  | quotedBraces
  /-- Between single quotes. -/
  | single
  | arithmetic
  /-- In a document whose parameters are expanded. -/
  | document
  /-- In a document that says just what it says. -/
  | plainDocument
  deriving DecidableEq, Repr

namespace Setting

/-- Do characters here count as quoted? -/
def quotes : Setting → Bool
  | .bare | .braces | .arithmetic => false
  | _ => true

/-- Do the rules for double quotes hold here? -/
def isDouble : Setting → Bool
  | .quoted _ | .quotedBraces | .arithmetic | .document => true
  | _ => false

/-- Is this between braces, with no expression or document in between? -/
def isInBraces : Setting → Bool
  | .braces | .quotedBraces => true
  | .quoted inBraces => inBraces
  | _ => false

/-- Where the word in a parameter's braces stands. -/
def ofBraces (s : Setting) (use : ParameterUse) : Setting :=
  match use with
  | .trim _ _ => .braces
  | _ => if s.isDouble then .quotedBraces else .braces

end Setting

/-- The readers of the commands inside a word. -/
structure Nested where
  /-- Commands up to a closing parenthesis. -/
  parenthesised : Scan (Option Command)
  /-- Commands up to the end of the text. -/
  whole : Scan (Option Command)

/-- How a word is read: the readers of commands inside it, the document it belongs to, and
    whether only quotes mean something in it. -/
structure WordRules where
  nested : Nested
  document : Option Awaited
  verbatim : Bool

namespace Scan

/-- Read from another text, and then go on where the reading stood. -/
def within {α : Type} (text : Text) (inner : Scan α) : Scan α := do
  let outer ← get
  set { outer with rest := text, line := 1, beyond := none, awaited := [], putBack := false,
                   active := [] }
  let result ← inner
  modify fun s =>
    { s with rest := outer.rest, line := outer.line, beyond := outer.beyond,
             awaited := outer.awaited, putBack := false, active := outer.active }
  return result

/-- Begin a line of a document. If the document ends with it, the rest of the reading sees the end
    of the text. Tabs at the front of the line are left out if the document says so. Where lines
    are joined, they are before that; a backslash and a line end after such tabs are characters
    of the document, and returned. -/
def beginLine (d : Awaited) (joins : Bool) : Scan Word := do
  if joins then joinLines
  let s ← get
  let rest := if d.stripTabs then s.rest.dropWhile (· = '\t') else s.rest
  let line := rest.takeWhile (· ≠ '\n')
  if line = d.delimiter then
    set { s with rest := [], beyond := some ((rest.dropWhile (· ≠ '\n')).drop 1),
                 line := s.line + 1 }
    return []
  else match joins && rest.length < s.rest.length, rest with
    | true, '\\' :: '\n' :: after => do
        set { s with rest := after }
        return [.char true '\\', .char true '\n']
    | _, _ => do
        set { s with rest := rest }
        return []

/-- The text between backquotes, after the first of them. A backslash stands for itself unless
    a backslash, a backquote, a dollar sign or, between double quotes, such a quote follows. -/
def takeBackquoted (inDouble : Bool) : (fuel : Nat) → Text → Scan Text
  | 0, _ => fail .tooLong
  | fuel + 1, taken => do
      match ← next with
      | none => fail .unterminatedOutput
      | some '`' => return taken.reverse
      | some '\\' =>
          match ← takeChar with
          | none => fail .unterminatedOutput
          | some c =>
              if c = '\\' ∨ c = '`' ∨ c = '$' ∨ (inDouble ∧ c = '\x22') then
                takeBackquoted inDouble fuel (c :: taken)
              else takeBackquoted inDouble fuel (c :: '\\' :: taken)
      | some c => takeBackquoted inDouble fuel (c :: taken)

/-- The use of a parameter by what follows its name between the braces. A line end there is
    taken for a use that is none, and not counted. -/
def parameterUse : Scan ParameterUse := do
  match ← takeUncounted with
  | some '\x7d' => return .value
  | some ':' => do
      joinLines
      match ← takeUncounted with
      | some '-' => return .default true
      | some '+' => return .alternative true
      | some '?' => return .insist true
      | some '=' => return .assign true
      | _ => return .malformed
  | some '-' => return .default false
  | some '+' => return .alternative false
  | some '?' => return .insist false
  | some '=' => return .assign false
  | some '%' => return .trim true (← accept '%')
  | some '#' => return .trim false (← accept '#')
  | _ => return .malformed

/-- The name of a parameter and its use, after the opening brace. -/
def bracedParameter : Scan (Text × ParameterUse) := do
  match ← peek with
  | none => return ([], .malformed)
  | some '\x7d' => return ([], .malformed)
  | some '#' => do
      let _ ← takeChar
      match ← peek with
      | some c =>
          if isNameChar c then do
            let name ← named c
            if (← peek) = some '\x7d' then return (name, .length) else return (name, .malformed)
          else do
            let _ ← takeUncounted
            if c ≠ '\x7d' ∧ (← peek) = some '\x7d' then
              return ([c], if isSpecialParameter c then .length else .malformed)
            else do
              modify fun s => { s with rest := c :: s.rest }
              return (['#'], ← parameterUse)
      | none => return (['#'], .malformed)
  | some c =>
      if isNameChar c then do
        let name ← named c
        joinLines
        return (name, ← parameterUse)
      else do
        let _ ← takeUncounted
        joinLines
        if isSpecialParameter c then return ([c], ← parameterUse) else return ([c], .malformed)
where
  /-- A name, or a number, by its first character. -/
  named (c : Char) : Scan Text :=
    if c.isDigit then takeWhile Char.isDigit else takeWhile isNameChar

/-- The parts of a word up to the end of the setting, after those taken, the last first. -/
def parts (rules : WordRules) : (fuel : Nat) → Setting → (parens : Nat) → Word → Scan Word
  | 0, _, _, _ => fail .tooLong
  | fuel + 1, setting, parens, taken => do
      let more (part : Part) : Scan Word := parts rules fuel setting parens (part :: taken)
      let mark (word : Word) : Word := if rules.document.isSome then word else .mark :: word
      let quotation (inner : Setting) : Scan Word := do
        let quoted ← parts rules fuel inner 0 []
        parts rules fuel setting parens (mark (quoted.reverse ++ mark taken))
      if setting ≠ .single ∧ setting ≠ .plainDocument then joinLines
      let inBare := setting = .bare
      match (← get).rest.head? with
      | none => ended setting taken
      | some c =>
          if inBare ∧ isDelimiter c then return taken.reverse
          let _ ← takeChar
          if c = '\n' then
            let front ← match rules.document with
              | some d => beginLine d (setting ≠ .single && setting ≠ .plainDocument)
              | none => pure []
            parts rules fuel setting parens (front.reverse ++ .char setting.quotes c :: taken)
          else if setting = .single then
            if c = '\'' then return taken.reverse else more (.char true c)
          else if setting = .plainDocument then more (.char true c)
          else if c = '\\' then
            match ← takeChar with
            | none => more (.char true '\\')
            | some d =>
                let taken :=
                  if setting.isDouble ∧ keepsBackslash setting d then .char true '\\' :: taken
                  else taken
                parts rules fuel setting parens (.char true d :: taken)
          else if c = '\'' ∧ ¬ setting.isDouble then quotation .single
          else if c = '\x22' then
            match setting with
            | .quoted _ => return taken.reverse
            | .bare => quotation (.quoted false)
            | .braces | .quotedBraces => quotation (.quoted true)
            | _ => more (.char setting.quotes c)
          else if c = '\x7d' ∧ (setting = .braces ∨ setting = .quotedBraces) then
            return taken.reverse
          else if setting = .arithmetic ∧ c = '(' then
            parts rules fuel setting (parens + 1) (.char false c :: taken)
          else if setting = .arithmetic ∧ c = ')' then
            if 0 < parens then parts rules fuel setting (parens - 1) (.char false c :: taken)
            else if ← accept ')' then return taken.reverse
            else more (.char false c)
          else if c = '`' then
            if rules.verbatim then more (.char true c)
            else do
              let text ← takeBackquoted setting.isDouble ((← get).rest.length + 1) []
              more (.output (← within text rules.nested.whole))
          else if c = '$' ∧ ¬ rules.verbatim then
            match ← peek with
            | some '(' => do
                let _ ← takeChar
                if ← accept '(' then
                  more (.arithmetic (← parts rules fuel .arithmetic 0 []))
                else more (.output (← rules.nested.parenthesised))
            | some '\x7b' => do
                let _ ← takeChar
                let (name, use) ← bracedParameter
                if use = .value then more (.parameter name use [])
                else
                  more (.parameter name use (← parts rules fuel (setting.ofBraces use) 0 []))
            | some d =>
                if isNameStart d then more (.parameter (← takeWhile isNameChar) .value [])
                else if isSpecialParameter d then do
                  let _ ← takeChar
                  more (.parameter [d] .value [])
                else more (.char setting.quotes c)
            | none => more (.char setting.quotes c)
          else more (.char setting.quotes c)
where
  /-- Does the character end a bare word? -/
  isDelimiter (c : Char) : Bool := " \t\n&;<>()|".toList.contains c
  /-- Does a backslash stand for itself in front of the character? -/
  keepsBackslash (setting : Setting) (c : Char) : Bool :=
    c ≠ '\\' && c ≠ '`' && c ≠ '$'
      && (c ≠ '\x22' || (rules.document.isSome && !setting.isInBraces))
      && (c ≠ '\x7d' || !setting.isInBraces)
  /-- The end of the text: fine in a bare word and in a document. -/
  ended (setting : Setting) (taken : Word) : Scan Word :=
    match setting with
    | .bare | .document | .plainDocument => return taken.reverse
    | .arithmetic => fail .missingParentheses
    | .braces => fail .missingBrace
    | _ => fail (if rules.document.isSome then .missingBrace else .unterminatedQuote)

/-- Read the text of a document that begins here. -/
def readDocument (nested : Nested) (d : Awaited) : Scan Unit := do
  modify fun s => { s with beyond := none }
  let front ← beginLine d d.expands
  let setting : Setting := if d.expands then .document else .plainDocument
  let text ← parts ⟨nested, some d, false⟩ ((← get).rest.length + 2) setting 0 front.reverse
  modify fun s =>
    { s with rest := s.beyond.getD s.rest, beyond := none,
             documents := (d.number, ⟨d.expands, text⟩) :: s.documents }

/-- Read the documents that begin at this line. -/
def readDocuments (nested : Nested) : Scan Unit := do
  let awaited := (← get).awaited
  modify fun s => { s with awaited := [] }
  awaited.forM (readDocument nested)

/-! ## Tokens -/

/-- The operator of a redirection, after its first character. -/
def operator (c : Char) : Scan (Nat × Operator) := do
  if c = '>' then
    match ← peek with
    | some '>' => do let _ ← takeChar; return (1, .file .append)
    | some '|' => do let _ ← takeChar; return (1, .file .force)
    | some '&' => do let _ ← takeChar; return (1, .copy)
    | _ => return (1, .file .write)
  else
    match ← peek with
    | some '<' => do let _ ← takeChar; return (0, .document (← accept '-'))
    | some '&' => do let _ ← takeChar; return (0, .copy)
    | some '>' => do let _ ← takeChar; return (0, .file .both)
    | _ => return (0, .file .read)

/-- Leave out blanks and a comment. -/
def skipBlanks : (fuel : Nat) → Scan Unit
  | 0 => return ()
  | fuel + 1 => do
      match ← peek with
      | some '#' => modify fun s => { s with rest := s.rest.dropWhile (· ≠ '\n') }
      | some c =>
          if c = ' ' ∨ c = '\t' then
            let _ ← takeChar
            skipBlanks fuel
          else return ()
      | none => return ()

/-- The next token of the text. -/
def freshToken (nested : Nested) (verbatim : Bool) : Scan Token := do
  skipBlanks ((← get).rest.length + 1)
  let take (t : Token) : Scan Token := do let _ ← takeChar; return t
  match (← get).rest.head? with
  | none => return .endOfFile
  | some '\n' => take .newline
  | some '(' => take .opening
  | some ')' => take .closing
  | some '&' => do let _ ← takeChar; return if ← accept '&' then .andThen else .ampersand
  | some '|' => do let _ ← takeChar; return if ← accept '|' then .orElse else .bar
  | some ';' => do let _ ← takeChar; return if ← accept ';' then .endBranch else .semicolon
  | some _ => do
      let word ← parts ⟨nested, none, verbatim⟩ ((← get).rest.length + 2) .bare 0 []
      match ← peek, streamDigit? word with
      | some c, some digit =>
          if c = '<' ∨ c = '>' then do
            let _ ← takeChar
            let (usual, operator) ← operator c
            return .redirect (digit.getD usual) operator
          else return .word word
      | _, _ => return .word word
where
  /-- The number of a stream in front of an operator; none if nothing stands there. -/
  streamDigit? : Word → Option (Option Nat)
    | [] => some none
    | [.char false c] => if c.isDigit then some (some (c.toNat - 0x30)) else none
    | _ => none

/-- What a token may be read as. -/
structure TokenRules where
  /-- Are line ends left out? -/
  lines : Bool := false
  keywords : Bool := false
  aliases : Bool := false
  /-- Is this the word that ends a document? -/
  verbatim : Bool := false

/-- Forget the aliases that the reading has gone past. If one of them ends in a blank, the token
    after it may be an alias wherever it stands. -/
def passAliases : Scan Bool := do
  let s ← get
  let (passed, active) := s.active.partition fun a => s.rest.length < a.2
  set { s with active := active }
  let endsInBlank (name : Text) : Bool :=
    match (s.aliases.lookup name).bind (·.getLast?) with
    | some c => c == ' ' || c == '\t'
    | none => false
  return passed.any fun a => endsInBlank a.1

/-- The next token, or the last one if it was put back. -/
def token (nested : Nested) (rules : TokenRules) : Scan Token := do
  let fuel := (← get).rest.length + 2
  let (first, aliases) ← if (← get).putBack then do
      modify fun s => { s with putBack := false }
      pure ((← get).last, rules.aliases)
    else next rules.verbatim rules.aliases
  let t ← settled fuel aliases first
  modify fun s => { s with last := t }
  return t
where
  /-- A new token, and whether it may be an alias. -/
  next (verbatim aliases : Bool) : Scan (Token × Bool) := do
    let t ← freshToken nested verbatim
    return (t, (← passAliases) || aliases)
  /-- A token with line ends left out, and read as a keyword or an alias. -/
  settled : (fuel : Nat) → (aliases : Bool) → Token → Scan Token
    | 0, _, t => return t
    | fuel + 1, aliases, t => do
        match t with
        | .newline =>
            if rules.lines then do
              readDocuments nested
              let (t, aliases) ← next false aliases
              settled fuel aliases t
            else return t
        | .word word =>
            match if rules.keywords then t.toKeyword else t with
            | .keyword name => return .keyword name
            | t =>
                let s ← get
                match if aliases then word.plain? else none with
                | none => return t
                | some name =>
                    match s.aliases.lookup name with
                    | none => return t
                    | some text =>
                        if s.active.any (·.1 = name) then return t
                        else do
                          set { s with active := (name, s.rest.length) :: s.active,
                                       rest := text ++ s.rest }
                          let (t, aliases) ← next false rules.aliases
                          settled fuel aliases t
        | t => return t

/-- Read the last token again. -/
def putBack : Scan Unit := modify fun s => { s with putBack := true }

end Scan

end SourceBundle.Shell
