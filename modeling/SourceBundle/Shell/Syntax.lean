import SourceBundle.Shell.Text

/-! # Scripts — words and commands

    A script is a list of commands, and a command is made of words.  A word (`Word`)
    is a list of parts that are put together when the command runs; what is quoted
    stays apart from what is not.  Words hold commands in turn, those of a command
    substitution. -/

namespace SourceBundle.Shell

/-- What is done with the value of a parameter. Where a parameter is said to be missing, it may
    also be asked to count as missing when it is empty. -/
inductive ParameterUse where
  | value
  | length
  /-- The value, or a word if it is missing. -/
  | default (orEmpty : Bool)
  /-- A word if it is there, else nothing. -/
  | alternative (orEmpty : Bool)
  /-- The value, set to a word first if it is missing. -/
  | assign (orEmpty : Bool)
  /-- The value; if it is missing, the shell ends with a word as its complaint. -/
  | insist (orEmpty : Bool)
  /-- The value without the part at one end that fits a pattern. -/
  | trim (atEnd longest : Bool)
  /-- A use that is none; running it is an error. -/
  | malformed
  deriving DecidableEq, Repr

/-- How a file is opened for a redirection. -/
inductive OpenMode where
  | read
  | write
  /-- For writing, over the `noclobber` option. -/
  | force
  | append
  | both
  deriving DecidableEq, Repr

mutual

/-- A part of a word. -/
inductive Part where
  | char (quoted : Bool) (c : Char)
  /-- A quotation begins or ends here. -/
  | mark
  | parameter (name : Text) (use : ParameterUse) (word : List Part)
  /-- The output of a command. -/
  | output (command : Option Command)
  /-- The value of an expression. -/
  | arithmetic (expression : List Part)

/-- A redirection of one stream of a command. -/
inductive Redirect where
  | file (stream : Nat) (mode : OpenMode) (name : List Part)
  /-- To where another stream leads, or to nowhere. -/
  | copy (stream : Nat) (source : List Part)
  /-- From a text in the script, known by its number. -/
  | document (stream : Nat) (number : Nat)

/-- One branch of a `case`. -/
inductive Branch where
  | branch (patterns : List (List Part)) (body : Option Command)

/-- A command. -/
inductive Command where
  | simple (line : Nat) (assignments words : List (List Part)) (redirects : List Redirect)
  | pipeline (commands : List Command)
  | sequence (commands : List Command)
  | both (first second : Command)
  | either (first second : Command)
  | negated (inner : Command)
  | background (inner : Command)
  /-- A command that has redirections as a whole. -/
  | redirected (line : Nat) (inner : Command) (redirects : List Redirect)
  /-- Commands in parentheses, in a shell of their own. -/
  | subshell (line : Nat) (inner : Command) (redirects : List Redirect)
  | choice (test yes : Command) (no : Option Command)
  /-- Repeat while the test succeeds, or until it does. -/
  | loop (untilTrue : Bool) (test body : Command)
  | each (line : Nat) (name : Text) (words : List (List Part)) (body : Command)
  | select (line : Nat) (word : List Part) (branches : List Branch)
  | define (name : Text) (body : Command)

end

/-- A word: its parts in order. -/
abbrev Word := List Part

/-- A text inside a script that a command reads from. -/
structure Document where
  /-- Are parameters in it expanded? -/
  expands : Bool
  text : Word

namespace Word

/-- The word that says a text. -/
def ofText (quoted : Bool) (s : Text) : Word := s.map (.char quoted)

/-- What a word says if nothing in it is quoted or expanded. -/
def plain? (word : Word) : Option Text :=
  word.mapM fun part =>
    match part with
    | .char false c => some c
    | _ => none

/-- The characters of a word with their quotes taken off. -/
def unquoted (word : Word) : Text :=
  word.filterMap fun part =>
    match part with
    | .char _ c => some c
    | _ => none

/-- The variable a word assigns to, and the word for its value. -/
def assignment? : Word → Option (Text × Word)
  | .char false c :: parts => if isNameStart c then go [c] parts else none
  | _ => none
where
  /-- Go on after the name's first characters. -/
  go (name : Text) : Word → Option (Text × Word)
    | .char false c :: parts =>
        if c = '=' then some (name, parts)
        else if isNameChar c then go (name ++ [c]) parts
        else none
    | _ => none

/-- The word that stands for every positional parameter, each a field of its own. -/
def everyParameter : Word := [.mark, .parameter ['@'] .value [], .mark]

end Word

end SourceBundle.Shell
