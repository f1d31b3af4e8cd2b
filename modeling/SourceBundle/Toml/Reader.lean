import SourceBundle.Toml.Scalar

/-! # Reading TOML — values, keys and lines

    A TOML text is a list of lines (`Line`): pairs of a key and a value, and
    headers.  This module reads the lines; what they mean together is in
    `SourceBundle.Toml.Document`. -/

namespace SourceBundle.Toml

/-! ## Keys -/

/-- The characters of a key without quotes. -/
def isKeyChar (c : Char) : Bool :=
  c.isAlphanum || c == '_' || c == '-'

/-- One part of a key. -/
def readKeyPart : Reader String
  | [] => none
  | c :: text =>
      if c = doubleQuote ∨ c = singleQuote then
        (readLineText (c :: text)).map fun (part, rest) => (String.ofList part, rest)
      else if isKeyChar c then
        some (String.ofList (c :: text.takeWhile isKeyChar), text.dropWhile isKeyChar)
      else none

/-- The parts of a dotted key, at most `fuel` of them, with gaps around each. -/
def readKeyParts : (fuel : Nat) → Reader (List String)
  | 0, _ => none
  | fuel + 1, text =>
      match readKeyPart (text.dropWhile isGap) with
      | none => none
      | some (part, rest) =>
          match rest.dropWhile isGap with
          | '.' :: rest => (readKeyParts fuel rest).map fun (parts, rest) => (part :: parts, rest)
          | rest => some ([part], rest)

/-- A key may have fewer parts than this, and arrays and tables may be nested less deeply. -/
def maxDepth : Nat := 80

/-- A key with the gaps around it. -/
def readKey : Reader (List String) := readKeyParts (maxDepth - 1)

/-! ## Values -/

/-- The text after the gaps, line ends and comments at its front. -/
def skipBlanks (inComment : Bool) : List Char → List Char
  | [] => []
  | '\r' :: '\n' :: text => skipBlanks false text
  | c :: text =>
      if c = '\n' then skipBlanks false text
      else if inComment then
        if isPlain c then skipBlanks true text else c :: text
      else if isGap c then skipBlanks false text
      else if c = '#' then skipBlanks true text
      else c :: text

/-- The items of an array through its closing bracket, at most `fuel` of them. -/
def readItems (item : Reader Value) : (fuel : Nat) → Reader (List Value)
  | 0, _ => none
  | fuel + 1, text =>
      match skipBlanks false text with
      | ']' :: rest => some ([], rest)
      | text =>
          match item text with
          | none => none
          | some (value, rest) =>
              match skipBlanks false rest with
              | ']' :: rest => some ([value], rest)
              | ',' :: rest =>
                  (readItems item fuel rest).map fun (values, rest) => (value :: values, rest)
              | _ => none

/-- The pairs of a table in braces through its closing brace, at most `fuel` of them. -/
def readPairs (value : Reader Value) : (fuel : Nat) → Reader (List (List String × Value))
  | 0, _ => none
  | fuel + 1, text =>
      match readKey text with
      | some (key, '=' :: rest) =>
          match value (rest.dropWhile isGap) with
          | none => none
          | some (v, rest) =>
              match rest.dropWhile isGap with
              | '\x7d' :: rest => some ([(key, v)], rest)
              | ',' :: rest =>
                  (readPairs value fuel rest).map fun (pairs, rest) => ((key, v) :: pairs, rest)
              | _ => none
      | _ => none

/-! ## Tables

A pair is entered along its key. The tables on the way are made if they are missing; those that
were closed when they were written stay as they are. -/

/-- An entry list with one key's value replaced. -/
def replaceEntry (key : String) (value : Value) (entries : Entries) : Entries :=
  entries.map fun entry => if entry.1 = key then (key, value) else entry

/-- Change the table that `path` leads to from a table of this origin. Missing tables on the way
    get the origin `made`. -/
def changeAt (made : TableOrigin) (change : TableOrigin → Entries → Option Entries) :
    (path : List String) → (origin : TableOrigin) → (entries : Entries) → Option Entries
  | [], origin, entries => change origin entries
  | key :: path, _, entries =>
      match entries.lookup key with
      | none =>
          (changeAt made change path made []).map fun inner =>
            entries ++ [(key, .table made inner)]
      | some (.table origin inner) =>
          if origin = .braces ∨ (made = .dotted ∧ origin = .header) then none
          else (changeAt made change path origin inner).map fun inner =>
            replaceEntry key (.table origin inner) entries
      | some (.tables elements) =>
          match elements.getLast? with
          | none => none
          | some last =>
              (changeAt made change path .header last).map fun inner =>
                replaceEntry key (.tables (elements.dropLast ++ [inner])) entries
      | some _ => none

/-- Enter a value at the end of a table. A key with dots enters only tables made by such keys,
    a key without dots never one of those. -/
def enter (key : String) (value : Value) (dotted : Bool) (origin : TableOrigin)
    (entries : Entries) : Option Entries :=
  if dotted ≠ (origin = .dotted : Bool) then none
  else if (entries.lookup key).isSome then none
  else some (entries ++ [(key, value)])

/-- Enter a pair into a table. -/
def enterPair (origin : TableOrigin) (entries : Entries) (key : List String) (value : Value) :
    Option Entries :=
  match key.getLast? with
  | none => none
  | some last =>
      changeAt .dotted (enter last value (!key.dropLast.isEmpty)) key.dropLast origin entries

/-- The table in braces that pairs make. -/
def tableOfPairs (pairs : List (List String × Value)) : Option Value :=
  (pairs.foldlM (fun entries (key, value) => enterPair .braces entries key value) []).map
    (.table .braces)

/-- The value at the front of a text, with arrays and tables in braces nested at most `depth`
    deep. -/
def readValue : (depth : Nat) → Reader Value
  | depth, text =>
      match text with
      | [] => none
      | c :: rest =>
          if c = doubleQuote ∨ c = singleQuote then
            (readText text).map fun (s, rest) => (.string (String.ofList s), rest)
          else match depth with
            | 0 => if c = '[' ∨ c = '\x7b' then none else readScalar text
            | depth + 1 =>
                if c = '[' then
                  (readItems (readValue depth) text.length rest).map fun (items, rest) =>
                    (.array items, rest)
                else if c = '\x7b' then
                  match rest.dropWhile isGap with
                  | '\x7d' :: rest => some (.table .braces [], rest)
                  | rest =>
                      match readPairs (readValue depth) text.length rest with
                      | none => none
                      | some (pairs, rest) => (tableOfPairs pairs).map (·, rest)
                else readScalar text

/-! ## Lines -/

/-- A line that says something. -/
inductive Line where
  | pair (key : List String) (value : Value)
  | header (key : List String)
  /-- A doubled header, which opens one more table of an array. -/
  | element (key : List String)

/-- The text after a comment, at the line's end. -/
def dropComment : List Char → List Char
  | '#' :: text => text.dropWhile isPlain
  | text => text

/-- The text after what may stand between a line's content and its end, and after that end. -/
def readLineEnd (text : List Char) : Option (List Char) :=
  match dropComment (text.dropWhile isGap) with
  | [] => some []
  | '\n' :: rest => some rest
  | '\r' :: '\n' :: rest => some rest
  | _ => none

/-- A line's content, before its end. -/
def readContent : Reader Line
  | '[' :: '[' :: text =>
      match readKey text with
      | some (key, ']' :: ']' :: rest) => some (.element key, rest)
      | _ => none
  | '[' :: text =>
      match readKey text with
      | some (key, ']' :: rest) => some (.header key, rest)
      | _ => none
  | text =>
      match readKey text with
      | some (key, '=' :: rest) =>
          (readValue (maxDepth - 1) (rest.dropWhile isGap)).map fun (value, rest) =>
            (.pair key value, rest)
      | _ => none

/-- One line with its end; a blank line or a comment says nothing. -/
def readLine (text : List Char) : Option (Option Line × List Char) :=
  match readLineEnd text with
  | some rest => some (none, rest)
  | none =>
      match readContent (text.dropWhile isGap) with
      | none => none
      | some (line, rest) => (readLineEnd rest).map (some line, ·)

/-- The lines of a text, at most `fuel` of them. -/
def readLines : (fuel : Nat) → (text : List Char) → Option (List Line)
  | _, [] => some []
  | 0, _ => none
  | fuel + 1, text =>
      match readLine text with
      | none => none
      | some (line, rest) => (readLines fuel rest).map (line.toList ++ ·)

/-- The lines of a whole text. A byte order mark at its front is left out. -/
def linesOfText (text : List Char) : Option (List Line) :=
  match text with
  | '\uFEFF' :: text => readLines text.length text
  | text => readLines text.length text

end SourceBundle.Toml
