import SourceBundle.Path
import SourceBundle.Text.Blank

/-! # Commands — the words a compiler is started with

    A command is a list of words: the program, its flags, `-o` and the binary, the
    libraries, and the bundle last.  It is passed on as it stands, without a shell;
    only for showing are words with blanks and empty words put between quotes. -/

namespace SourceBundle

/-- A complete command. -/
structure Command where
  tokens : List String
  deriving DecidableEq, Repr

namespace Command

/-- The program to start; the empty text for the command without words. -/
def program (c : Command) : String := c.tokens.headD ""

/-- The words after the program. -/
def args (c : Command) : List String := c.tokens.tail

/-- A word as it is shown. -/
def showToken (token : String) : String :=
  if token = "" ∨ token.toList.any isBlank then "\x22" ++ token ++ "\x22" else token

/-- The command as it is shown, one space between words. -/
def display (c : Command) : String := " ".intercalate (c.tokens.map showToken)

end Command

/-- A command that still takes libraries. -/
structure CommandDraft where
  tokens : List String
  deriving DecidableEq, Repr

namespace CommandDraft

/-- A draft with the program, its flags and the binary to make. -/
def begin (program : String) (flags : List String) (binary : Path) : CommandDraft :=
  ⟨program :: flags ++ ["-o", binary.display]⟩

/-- One more library. -/
def library (d : CommandDraft) (name : String) : CommandDraft :=
  ⟨d.tokens ++ [name]⟩

/-- More libraries, in their order. -/
def libraries (d : CommandDraft) (names : List String) : CommandDraft :=
  names.foldl library d

/-- The command, with the bundle as its last word. -/
def finish (d : CommandDraft) (bundle : Path) : Command :=
  ⟨d.tokens ++ [bundle.display]⟩

theorem tokens_libraries (d : CommandDraft) (names : List String) :
    (d.libraries names).tokens = d.tokens ++ names := by
  induction names generalizing d with
  | nil => simp [libraries]
  | cons name names ih =>
      have := ih (d.library name)
      simpa [libraries, library] using this

end CommandDraft

end SourceBundle
