/-! # TOML strings — four written forms

    A string is written between single or double quotes, one of them or three on
    each side.  Between single quotes all stands for itself; between double quotes a
    backslash starts an escape.  The forms with three quotes may span lines, and
    lose a line end right after the opening quotes.  `writeText` chooses the first
    form that fits; `readText` reads all four. -/

namespace SourceBundle.Toml

/-- The quote of the escaped forms. -/
def doubleQuote : Char := '\x22'

/-- The quote of the literal forms. -/
def singleQuote : Char := '\x27'

/-- The characters that stand for themselves in a comment and between single quotes: tab and
    all that is not a control character. -/
def isPlain (c : Char) : Bool :=
  c == '\t' || (0x20 ≤ c.toNat && c.toNat ≠ 0x7F)

/-! ## Writing -/

/-- The form a string is written in. -/
inductive TextForm where
  | basic
  | literal
  | multilineBasic
  | multilineLiteral
  deriving DecidableEq, Repr

/-- The length of the longest run of `quote` in a text that follows `run` of them. -/
def longestRun (quote : Char) (run : Nat) : List Char → Nat
  | [] => run
  | c :: text =>
      if c = quote then longestRun quote (run + 1) text
      else max run (longestRun quote 0 text)

/-- A control character that only an escape can write. -/
def needsEscape (c : Char) : Bool :=
  (c.toNat < 0x20 && c ≠ '\t' && c ≠ '\n') || c.toNat == 0x7F

/-- The first form that fits a text. -/
def TextForm.of (text : List Char) : TextForm :=
  let control := text.any needsEscape
  let backslash := text.contains '\\'
  let newline := text.contains '\n'
  let doubles := longestRun doubleQuote 0 text
  let singles := longestRun singleQuote 0 text
  if !control && !backslash && doubles == 0 && !newline then .basic
  else if !control && singles == 0 && !newline then .literal
  else if !control && !backslash && doubles ≤ 2 then .multilineBasic
  else if !control && singles ≤ 2 then .multilineLiteral
  else if newline then .multilineBasic
  else .basic

/-- A digit of base 16, capital. -/
def hexDigit (n : Nat) : Char :=
  if n < 10 then Char.ofNat (0x30 + n) else Char.ofNat (0x37 + n)

/-- A control character, backslash or other character in the escaped forms. -/
def writeEscaped (c : Char) : List Char :=
  if c = '\x08' then ['\\', 'b']
  else if c = '\t' then ['\\', 't']
  else if c = '\x0C' then ['\\', 'f']
  else if c = '\r' then ['\\', 'r']
  else if c = '\\' then ['\\', '\\']
  else if needsEscape c then
    ['\\', 'u', '0', '0', hexDigit (c.toNat / 16), hexDigit (c.toNat % 16)]
  else [c]

/-- The inside of the one-line escaped form. -/
def writeBasic : List Char → List Char
  | [] => []
  | c :: text =>
      (if c = doubleQuote then ['\\', doubleQuote]
       else if c = '\n' then ['\\', 'n']
       else writeEscaped c) ++ writeBasic text

/-- The inside of the escaped form with three quotes, after `run` quotes in a row. A quote that
    would be the third is escaped. -/
def writeMultiline (run : Nat) : List Char → List Char
  | [] => []
  | c :: text =>
      if c = doubleQuote then
        if run = 2 then '\\' :: doubleQuote :: writeMultiline 0 text
        else doubleQuote :: writeMultiline (run + 1) text
      else writeEscaped c ++ writeMultiline 0 text

/-- Three of a quote. -/
def tripled (quote : Char) : List Char := [quote, quote, quote]

/-- A text as a TOML string. -/
def writeText (text : List Char) : List Char :=
  let opening := if text.contains '\n' then ['\n'] else []
  match TextForm.of text with
  | .basic => doubleQuote :: writeBasic text ++ [doubleQuote]
  | .literal => singleQuote :: text ++ [singleQuote]
  | .multilineBasic =>
      tripled doubleQuote ++ opening ++ writeMultiline 0 text ++ tripled doubleQuote
  | .multilineLiteral => tripled singleQuote ++ opening ++ text ++ tripled singleQuote

/-! ## Reading -/

/-- What one reader takes from the front of a text, and what it leaves. -/
abbrev Reader (α : Type) := List Char → Option (α × List Char)

/-- The value of a digit of base 16. -/
def hexValue? (c : Char) : Option Nat :=
  if '0' ≤ c && c ≤ '9' then some (c.toNat - 0x30)
  else if 'a' ≤ c && c ≤ 'f' then some (c.toNat - 0x57)
  else if 'A' ≤ c && c ≤ 'F' then some (c.toNat - 0x37)
  else none

/-- The character that digits of base 16 number, if there is one. -/
def codePoint? (digits : List Char) : Option Char := do
  let values ← digits.mapM hexValue?
  let n := values.foldl (fun n d => n * 16 + d) 0
  if n.isValidChar then some (Char.ofNat n) else none

/-- The character of an escape of one letter. -/
def shortEscape? (c : Char) : Option Char :=
  if c = 'b' then some '\x08'
  else if c = 't' then some '\t'
  else if c = 'n' then some '\n'
  else if c = 'f' then some '\x0C'
  else if c = 'r' then some '\r'
  else if c = doubleQuote then some doubleQuote
  else if c = '\\' then some '\\'
  else none

/-- An escape, after its backslash. -/
def readEscape : Reader Char
  | [] => none
  | c :: rest =>
      if c = 'u' then
        if rest.length < 4 then none else (codePoint? (rest.take 4)).map (·, rest.drop 4)
      else if c = 'U' then
        if rest.length < 8 then none else (codePoint? (rest.take 8)).map (·, rest.drop 8)
      else (shortEscape? c).map (·, rest)

theorem length_readEscape_lt {text rest : List Char} {c : Char}
    (h : readEscape text = some (c, rest)) : rest.length < text.length := by
  cases text with
  | nil => simp [readEscape] at h
  | cons d text =>
      simp only [readEscape] at h
      split at h
      · split at h
        · simp at h
        · obtain ⟨_, _, heq⟩ := Option.map_eq_some_iff.1 h
          obtain ⟨-, rfl⟩ := by simpa using heq
          simp only [List.length_drop, List.length_cons]
          omega
      · split at h
        · split at h
          · simp at h
          · obtain ⟨_, _, heq⟩ := Option.map_eq_some_iff.1 h
            obtain ⟨-, rfl⟩ := by simpa using heq
            simp only [List.length_drop, List.length_cons]
            omega
        · obtain ⟨_, _, heq⟩ := Option.map_eq_some_iff.1 h
          obtain ⟨-, rfl⟩ := by simpa using heq
          simp

/-- One character more in front of what a reader takes. -/
def push (c : Char) : Option (List Char × List Char) → Option (List Char × List Char) :=
  Option.map fun (text, rest) => (c :: text, rest)

/-- The inside of the one-line escaped form, through its closing quote. -/
def readBasic (text : List Char) : Option (List Char × List Char) :=
  match text with
  | [] => none
  | c :: text =>
      if c = doubleQuote then some ([], text)
      else if c = '\\' then
        match _h : readEscape text with
        | none => none
        | some (e, rest) => push e (readBasic rest)
      else if isPlain c then push c (readBasic text)
      else none
termination_by text.length
decreasing_by
  · have := length_readEscape_lt _h
    simp; omega
  · simp

/-- The inside of the one-line literal form, through its closing quote. -/
def readLiteral : Reader (List Char)
  | [] => none
  | c :: text =>
      if c = singleQuote then some ([], text)
      else if isPlain c then push c (readLiteral text)
      else none

/-- The end of a form with three quotes, at a quote: nothing if fewer than three stand there.
    Of four or five quotes the first one or two belong to the text. -/
def readClosing (quote : Char) (text : List Char) : Option (List Char × List Char) :=
  match text with
  | a :: b :: c :: rest =>
      if a = quote ∧ b = quote ∧ c = quote then
        match rest with
        | d :: e :: rest' =>
            if d = quote ∧ e = quote then some ([quote, quote], rest')
            else if d = quote then some ([quote], e :: rest')
            else some ([], rest)
        | [d] => if d = quote then some ([quote], []) else some ([], rest)
        | [] => some ([], [])
      else none
  | _ => none

/-- Space and tab. -/
def isGap (c : Char) : Bool := c == ' ' || c == '\t'

/-- Does the text start with a line end? -/
def atLineEnd (text : List Char) : Bool :=
  match text with
  | '\n' :: _ => true
  | '\r' :: '\n' :: _ => true
  | _ => false

/-- The text after a line end at its front, if there is one. -/
def dropLineEnd : List Char → List Char
  | '\n' :: rest => rest
  | '\r' :: '\n' :: rest => rest
  | text => text

/-- The inside of the escaped form with three quotes, through its closing quotes. While
    `skipping`, after a backslash at the end of a line, gaps and line ends are left out. -/
def readMultiline (skipping : Bool) (text : List Char) : Option (List Char × List Char) :=
  match text with
  | [] => none
  | c :: text =>
      if skipping && (isGap c || c == '\n') then readMultiline true text
      else if c = '\r' then
        match text with
        | '\n' :: text =>
            if skipping then readMultiline true text else push '\n' (readMultiline false text)
        | _ => none
      else if c = doubleQuote then
        match readClosing doubleQuote (c :: text) with
        | some closed => some closed
        | none => push c (readMultiline false text)
      else if c = '\\' then
        if atLineEnd (text.dropWhile isGap) then readMultiline true text
        else match _h : readEscape text with
          | none => none
          | some (e, rest) => push e (readMultiline false rest)
      else if c = '\n' || isPlain c then push c (readMultiline false text)
      else none
termination_by text.length
decreasing_by
  all_goals
    try have := length_readEscape_lt _h
    simp
    try omega

/-- The inside of the literal form with three quotes, through its closing quotes. -/
def readMultilineLiteral : Reader (List Char)
  | [] => none
  | '\r' :: '\n' :: text => push '\n' (readMultilineLiteral text)
  | c :: text =>
      if c = singleQuote then
        match readClosing singleQuote (c :: text) with
        | some closed => some closed
        | none => push c (readMultilineLiteral text)
      else if c = '\n' || isPlain c then push c (readMultilineLiteral text)
      else none

/-- A one-line string, as keys are written. -/
def readLineText : Reader (List Char)
  | [] => none
  | c :: text =>
      if c = doubleQuote then readBasic text
      else if c = singleQuote then readLiteral text
      else none

/-- A string in any form. -/
def readText (text : List Char) : Option (List Char × List Char) :=
  match text with
  | a :: b :: c :: rest =>
      if a = doubleQuote ∧ b = doubleQuote ∧ c = doubleQuote then
        readMultiline false (dropLineEnd rest)
      else if a = singleQuote ∧ b = singleQuote ∧ c = singleQuote then
        readMultilineLiteral (dropLineEnd rest)
      else readLineText text
  | _ => readLineText text

end SourceBundle.Toml
