import SourceBundle.FileSystem.Change
import SourceBundle.Shell.Field

/-! # Path names — patterns that name files

    A field with wildcards stands for the paths that fit it, name by name between
    the slashes.  Names that begin with a dot are found only by patterns that begin
    with one.  If nothing fits, the field stands for itself. -/

namespace SourceBundle.Shell

/-- The names in a directory, itself and its parent among them. -/
def namesIn (fs : FileSystem) (path : Path) : List Text :=
  match fs.locate .reach path with
  | .error _ => []
  | .ok place =>
      if fs.entryOf? place ≠ some .directory then []
      else
        let names := fs.entries.filterMap fun (other, _) =>
          match other.getLast? with
          | some name => if other.dropLast = place then some (ofBytes name) else none
          | none => none
        text "." :: text ".." :: names

/-- Does something stand at the path, links not followed? -/
def standsAt (fs : FileSystem) (path : Path) : Bool :=
  if path.bytes.getLast? = some Path.slash then fs.isDirectory path
  else match fs.lastName path with
    | .ok (some (dir, name)) => (fs.entryOf? (dir ++ [name])).isSome
    | .ok none => fs.pathExists path
    | .error _ => false

/-- Glyphs cut at the slashes. -/
def splitGlyphs : List Glyph → List (List Glyph)
  | [] => [[]]
  | g :: rest =>
      if g.char = '/' then [] :: splitGlyphs rest
      else match splitGlyphs rest with
        | piece :: pieces => (g :: piece) :: pieces
        | [] => [[g]]

/-- The paths that begin with a text and go on as the patterns say. -/
def pathsFrom (fs : FileSystem) (built : Text) : List (List Glyph) → List Text
  | [] => if standsAt fs ⟨toBytes built⟩ then [built] else []
  | piece :: pieces =>
      let slash := if pieces = [] then [] else ['/']
      let follow (name : Text) : List Text := pathsFrom fs (built ++ name ++ slash) pieces
      let pattern := Pattern.ofGlyphs piece
      if pattern.isWild then
        let directory := if built = [] then text "." else built
        let startsWithDot := pattern.head? = some (.literal '.')
        ((namesIn fs ⟨toBytes directory⟩).filter fun name =>
          (startsWithDot || name.head? ≠ some '.') && pattern.fits name).flatMap follow
      else follow pattern.plain

/-- The paths that a field stands for, in the order of their bytes; nothing if it has no
    wildcards or nothing fits. -/
def pathsOf (fs : FileSystem) (field : List Cell) : List Text :=
  let pieces := splitGlyphs (Cell.glyphs field)
  if pieces.any fun piece => (Pattern.ofGlyphs piece).isWild then
    (pathsFrom fs [] pieces).mergeSort fun a b => toBytes a ≤ toBytes b
  else []

end SourceBundle.Shell
