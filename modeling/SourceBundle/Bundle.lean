import SourceBundle.Directive
import SourceBundle.OsError
import SourceBundle.Path

/-! # Bundles — one source text in place of many

    What a bundle is made with (`BundleOptions`), what comes out (`Bundle`), and why
    none may come out (`BundleError`).  How it is made is in
    `SourceBundle.Bundle.Expand`. -/

namespace SourceBundle

/-- What happens to the directives of an inlined file. -/
inductive InlineMode where
  /-- They stay as they are written. -/
  | single
  /-- They are resolved too, and a file that would include itself is refused. -/
  | recursive
  deriving DecidableEq, Repr

/-- A change of the end of a library's name, such as `.cma` to `.cmxa`. -/
structure SuffixSwap where
  old : String
  new : String
  deriving DecidableEq, Repr

/-- The name with the old ending replaced; a name without it stays. -/
def SuffixSwap.apply (r : SuffixSwap) (name : String) : String :=
  let (name', old) := (name.toList, r.old.toList)
  if old.isSuffixOf name' then
    String.ofList (name'.take (name'.length - old.length) ++ r.new.toList)
  else name

/-- How a bundle is made. -/
structure BundleOptions where
  /-- The directory the paths of `#use` directives are seen from. -/
  baseDir : Path
  mode : InlineMode
  /-- The change made to every library's name. -/
  swap : Option SuffixSwap
  deriving DecidableEq, Repr

/-- The file a `#use` directive names. -/
def BundleOptions.includePath (o : BundleOptions) (d : Directive) : Path :=
  o.baseDir.join (Path.ofText d.path)

/-- The library a `#load` directive asks for. -/
def BundleOptions.library (o : BundleOptions) (d : Directive) : String :=
  match o.swap with
  | some swap => swap.apply d.path
  | none => d.path

/-- A source with its directives resolved, and the libraries they ask for. -/
structure Bundle where
  text : Bytes
  libraries : List String
  deriving DecidableEq, Repr

/-- Why there is no bundle. -/
inductive BundleError where
  /-- The file to start from cannot be read. -/
  | unreadableEntry (path : Path) (cause : OsError)
  /-- The file of a `#use` directive cannot be read. -/
  | unreadableInclude (path : Path) (line : Nat) (cause : OsError)
  /-- A file includes itself; the chain leads from the first file to the repeated one. -/
  | includeCycle (chain : List Path)
  deriving DecidableEq, Repr

/-- The wording of a bundling error, with its cause. -/
def BundleError.message : BundleError → String
  | .unreadableEntry path cause =>
      "failed to read entry file " ++ path.display ++ ": " ++ cause.message
  | .unreadableInclude path line cause =>
      "failed to read `" ++ path.display ++ "` included at line " ++ toString line ++ ": "
        ++ cause.message
  | .includeCycle chain =>
      "include cycle detected: " ++ " -> ".intercalate (chain.map Path.display)

end SourceBundle
