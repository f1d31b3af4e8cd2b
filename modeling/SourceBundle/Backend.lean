import SourceBundle.Bundle
import SourceBundle.Text.Blank

/-! # Backends — the two OCaml compilers

    The native compiler links `.cmxa` archives, the bytecode compiler `.cma`
    archives into a custom runtime.  A `#load` directive names the bytecode archive,
    so a native build changes the name. -/

namespace SourceBundle

/-- The compiler a bundle is built with. -/
inductive Backend where
  | native
  | bytecode
  deriving DecidableEq, Repr

namespace Backend

/-- The name a backend has in a configuration. -/
def name : Backend → String
  | .native => "native"
  | .bytecode => "bytecode"

/-- The backend with exactly this name. -/
def ofName? (name : String) : Option Backend :=
  if name = "native" then some .native
  else if name = "bytecode" then some .bytecode
  else none

/-- The program run when none is configured. -/
def defaultProgram : Backend → String
  | .native => "ocamlopt"
  | .bytecode => "ocamlc"

/-- The flags every compilation gets. -/
def flags : Backend → List String
  | .native => []
  | .bytecode => ["-custom"]

/-- The change made to library names. -/
def librarySwap : Backend → Option SuffixSwap
  | .native => some ⟨".cma", ".cmxa"⟩
  | .bytecode => none

/-- A text that names no backend, as it was understood. -/
structure Unknown where
  name : String
  deriving DecidableEq, Repr

/-- The wording for a text that names no backend. -/
def Unknown.message (u : Unknown) : String :=
  "unknown compiler backend '" ++ u.name ++ "'"

/-- The backend a text means: its name, its compiler's name or `byte`, in any letter case and
    with blanks around it. -/
def ofText (text : String) : Except Unknown Backend :=
  let name := lowerAscii (trimBlanks text)
  if name = "native" ∨ name = "ocamlopt" then .ok .native
  else if name = "bytecode" ∨ name = "byte" ∨ name = "ocamlc" then .ok .bytecode
  else .error ⟨name⟩

end Backend

end SourceBundle
