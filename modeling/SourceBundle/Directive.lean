import SourceBundle.Text.Blank
import SourceBundle.Text.Utf8

/-! # Directives — `#use` and `#load` lines of a toplevel source

    `#use "file.ml";;` stands for the text of a file and `#load "lib.cma";;` asks
    for a library.  A directive is recognised in bytes, since a source need not be
    UTF-8; only its path is read as text. -/

namespace SourceBundle

/-- What a directive asks for. -/
inductive DirectiveKind where
  /-- The text of a file, in place of the directive. -/
  | inline
  /-- A library on the compiler's command line. -/
  | link
  deriving DecidableEq, Repr

namespace DirectiveKind

/-- The kind a keyword names; letter case does not matter. -/
def ofKeyword? (keyword : String) : Option DirectiveKind :=
  if lowerAscii keyword = "use" then some .inline
  else if lowerAscii keyword = "load" then some .link
  else none

/-- The bytes a directive of this kind opens with, `#` through the quote before its path. -/
def opening : DirectiveKind → Bytes
  | .inline => [0x23, 0x75, 0x73, 0x65, 0x20, 0x22]
  | .link => [0x23, 0x6C, 0x6F, 0x61, 0x64, 0x20, 0x22]

end DirectiveKind

/-- A directive found in a source. -/
structure Directive where
  kind : DirectiveKind
  /-- The path between the quotes, read as text. -/
  path : String
  /-- Where its `#` stands, in bytes from the start of the source. -/
  start : Nat
  /-- Where the source goes on after its `;;`. -/
  stop : Nat
  /-- The line of its `#`, counted from 1. -/
  line : Nat
  deriving DecidableEq, Repr

end SourceBundle
