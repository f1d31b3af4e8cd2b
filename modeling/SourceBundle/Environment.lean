import SourceBundle.Path

/-! # Environments — named values a program is started with

    A variable's value is bytes; a setting is taken from it only if it is text. -/

namespace SourceBundle

/-- The variables of a process. -/
structure Environment where
  bindings : List (String × Bytes)
  deriving DecidableEq, Repr

namespace Environment

/-- The value of a variable. -/
def get? (env : Environment) (name : String) : Option Bytes :=
  env.bindings.lookup name

/-- A variable and its value as one byte string. -/
def setting (name value : Bytes) : Bytes := name ++ 0x3D :: value

/-- All variables, as a program is given them. -/
def settings (env : Environment) : List Bytes :=
  env.bindings.map fun (name, value) => setting (Utf8.encode name) value

/-- The value of a variable that holds text. -/
def text? (env : Environment) (name : String) : Option String :=
  (env.get? name).bind Utf8.decode?

/-- Leave a variable out. -/
def unset (env : Environment) (name : String) : Environment :=
  ⟨env.bindings.filter fun v => v.1 ≠ name⟩

/-- Give a variable a value. -/
def set (env : Environment) (name : String) (value : Bytes) : Environment :=
  ⟨(name, value) :: (env.unset name).bindings⟩

end Environment

end SourceBundle
