import SourceBundle.Config
import SourceBundle.Text.Escaped
import SourceBundle.Toml.Document

/-! # Configurations as TOML — reading and writing the three sections

    A configuration file has the sections `paths`, `compiler` and `bundle`; other
    keys are left alone.  `Config.parse` reads a text and reports the first value of
    the wrong kind in the order they are written.  `Config.toToml` writes the
    settings that are set, always with all three sections. -/

namespace SourceBundle

/-- Why a text is no configuration. -/
inductive TomlError where
  /-- The text is not TOML. -/
  | notToml
  /-- A value is of the wrong kind. -/
  | wrongKind (found wanted : String)
  /-- A backend that does not exist. -/
  | unknownVariant (name : String)
  /-- A backend that is neither a string nor a table. -/
  | notAVariant
  /-- A table in place of a backend that has no entries, or several. -/
  | entryCount (several : Bool)
  /-- A backend in table form with content of its own. -/
  | variantContent (found : String)
  deriving DecidableEq, Repr

/-- The wording of a reading error. -/
def TomlError.message : TomlError → String
  | .notToml => "toml syntax error"
  | .wrongKind found wanted => "invalid type: " ++ found ++ ", expected " ++ wanted
  | .unknownVariant name =>
      "unknown variant `" ++ name ++ "`, expected `native` or `bytecode`"
  | .notAVariant => "wanted string or table"
  | .entryCount false => "wanted exactly 1 element, found 0 elements"
  | .entryCount true => "wanted exactly 1 element, more than 1 element"
  | .variantContent found => "expected " ++ found

namespace Toml.Value

/-- A value's kind as an error names it. -/
def kind : Value → String
  | .string text => "string " ++ quoteEscaped text
  | .integer n => "integer `" ++ toString n ++ "`"
  | .float x => "floating point `" ++ x.display ++ "`"
  | .boolean true => "boolean `true`"
  | .boolean false => "boolean `false`"
  | .array _ | .tables _ => "sequence"
  | .table _ _ | .datetime => "map"

end Toml.Value

open Toml (Value Entries)

/-! ## Reading -/

/-- A path, which is written as a string. -/
def readPath : Value → Except TomlError Path
  | .string text => .ok (Path.ofText text)
  | value => .error (.wrongKind value.kind "path string")

/-- A text. -/
def readString : Value → Except TomlError String
  | .string text => .ok text
  | value => .error (.wrongKind value.kind "a string")

/-- A truth value. -/
def readBool : Value → Except TomlError Bool
  | .boolean b => .ok b
  | value => .error (.wrongKind value.kind "a boolean")

/-- The backend of exactly this name. -/
def readVariant (name : String) : Except TomlError Backend :=
  match Backend.ofName? name with
  | some backend => .ok backend
  | none => .error (.unknownVariant name)

/-- Nothing, as the content of a backend in table form. -/
def readNoContent : Value → Except TomlError Unit
  | .array [] | .tables [] | .table _ [] => .ok ()
  | .array _ | .tables _ => .error (.variantContent "empty array")
  | .table _ _ => .error (.variantContent "empty table")
  | .string _ => .error (.variantContent "table, found string")
  | .integer _ => .error (.variantContent "table, found integer")
  | .float _ => .error (.variantContent "table, found float")
  | .boolean _ => .error (.variantContent "table, found boolean")
  | .datetime => .error (.variantContent "table, found datetime")

/-- A backend: its name, or a table with the name as its only key and nothing in it. -/
def readBackend : Value → Except TomlError Backend
  | .string text => readVariant text
  | .table _ [] => .error (.entryCount false)
  | .table _ [(name, content)] => do
      let backend ← readVariant name
      readNoContent content
      return backend
  | .table _ _ => .error (.entryCount true)
  | _ => .error .notAVariant

/-- One entry of the section `paths`. -/
def PathSettings.read (s : PathSettings) : String × Value → Except TomlError PathSettings
  | ("entry", value) => do return { s with entry := some (← readPath value) }
  | ("bundle", value) => do return { s with bundle := some (← readPath value) }
  | ("bin_dir", value) => do return { s with binDir := some (← readPath value) }
  | ("base_dir", value) => do return { s with baseDir := some (← readPath value) }
  | _ => return s

/-- One entry of the section `compiler`. -/
def CompilerSettings.read (s : CompilerSettings) :
    String × Value → Except TomlError CompilerSettings
  | ("backend", value) => do return { s with backend := some (← readBackend value) }
  | ("program", value) => do return { s with program := some (← readString value) }
  | ("binary", value) => do return { s with binary := some (← readString value) }
  | _ => return s

/-- One entry of the section `bundle`. -/
def BundleSettings.read (s : BundleSettings) : String × Value → Except TomlError BundleSettings
  | ("recursive", value) => do return { s with recursive := some (← readBool value) }
  | _ => return s

/-- A section with these keys: a table, or an array with values for the keys in their order.
    A date stands for an empty section. -/
def readSection {σ : Type} [EmptyCollection σ] (name : String) (keys : List String)
    (read : σ → String × Value → Except TomlError σ) : Value → Except TomlError σ
  | .table _ entries => entries.foldlM read ∅
  | .array items => (keys.zip items).foldlM read ∅
  | .tables elements =>
      (keys.zip (elements.map (Value.table .header))).foldlM read ∅
  | .datetime => .ok ∅
  | value => .error (.wrongKind value.kind ("struct " ++ name))

instance : EmptyCollection PathSettings := ⟨{}⟩

instance : EmptyCollection CompilerSettings := ⟨{}⟩

instance : EmptyCollection BundleSettings := ⟨{}⟩

/-- One entry of the root table. -/
def Config.read (c : Config) : String × Value → Except TomlError Config
  | ("paths", value) => do
      let keys := ["entry", "bundle", "bin_dir", "base_dir"]
      return { c with paths := ← readSection "Paths" keys PathSettings.read value }
  | ("compiler", value) => do
      let keys := ["backend", "program", "binary"]
      return { c with compiler := ← readSection "Compiler" keys CompilerSettings.read value }
  | ("bundle", value) => do
      return { c with bundle := ← readSection "Bundle" ["recursive"] BundleSettings.read value }
  | _ => return c

/-- The configuration of a TOML text. -/
def Config.parse (text : String) : Except TomlError Config :=
  match Toml.parse text with
  | none => .error .notToml
  | some entries => entries.foldlM Config.read {}

/-! ## Writing -/

/-- A path that is not UTF-8 has no TOML form. -/
structure PathNotText where
  deriving DecidableEq, Repr

/-- The wording for a path without a TOML form. -/
def PathNotText.message (_ : PathNotText) : String :=
  "failed to serialize config: path contains invalid UTF-8 characters"

/-- The line of a setting, if it is set. -/
def settingLine (key : String) : Option (List Char) → List Char
  | none => []
  | some value => key.toList ++ [' ', '=', ' '] ++ value ++ ['\n']

/-- A text setting as TOML. -/
def writeString (text : String) : List Char := Toml.writeText text.toList

/-- A path setting as TOML. -/
def writePath : Option Path → Except PathNotText (Option (List Char))
  | none => .ok none
  | some p =>
      match p.text? with
      | some text => .ok (some (writeString text))
      | none => .error {}

/-- A truth value as TOML. -/
def writeBool (b : Bool) : List Char :=
  if b then ['t', 'r', 'u', 'e'] else ['f', 'a', 'l', 's', 'e']

/-- The configuration as a TOML text. -/
def Config.toToml (c : Config) : Except PathNotText String := do
  let entry ← writePath c.paths.entry
  let bundle ← writePath c.paths.bundle
  let binDir ← writePath c.paths.binDir
  let baseDir ← writePath c.paths.baseDir
  return String.ofList (
    "[paths]\n".toList
      ++ settingLine "entry" entry ++ settingLine "bundle" bundle
      ++ settingLine "bin_dir" binDir ++ settingLine "base_dir" baseDir
      ++ "\n[compiler]\n".toList
      ++ settingLine "backend" (c.compiler.backend.map fun b => writeString b.name)
      ++ settingLine "program" (c.compiler.program.map writeString)
      ++ settingLine "binary" (c.compiler.binary.map writeString)
      ++ "\n[bundle]\n".toList
      ++ settingLine "recursive" (c.bundle.recursive.map writeBool))

end SourceBundle
