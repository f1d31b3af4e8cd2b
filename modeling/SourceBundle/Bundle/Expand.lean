import SourceBundle.Bundle
import SourceBundle.Directive.Scan
import SourceBundle.FileSystem

/-! # Expanding — from directives to one text

    `expand` resolves the directives of a source: a `#use` is replaced by the text
    of its file and a `#load` by nothing.  In recursive mode the inlined text is
    expanded first.  The *trail* is the list of files being expanded, outermost
    first; a file on it is not opened again.  It has no repetitions and all its
    members are files, so expansion ends (`expand` recurses on the number of files
    off the trail). -/

namespace SourceBundle

/-- A stretch of a source and what comes in its place. -/
structure Edit where
  start : Nat
  stop : Nat
  replacement : Bytes
  deriving DecidableEq, Repr

/-- The edits of a source and the libraries found on the way. -/
structure Expansion where
  edits : List Edit
  libraries : List String
  deriving DecidableEq, Repr

/-- An expansion with one more directive in front. -/
def Expansion.cons (d : Directive) (replacement : Bytes) (libraries : List String)
    (rest : Expansion) : Expansion :=
  { edits := ⟨d.start, d.stop, replacement⟩ :: rest.edits,
    libraries := libraries ++ rest.libraries }

/-- What `source`, which goes on at byte `position`, becomes by the edits. They are in order and
    do not overlap. -/
def splice (position : Nat) (source : Bytes) : List Edit → Bytes
  | [] => source
  | edit :: edits =>
      source.take (edit.start - position) ++ edit.replacement
        ++ splice edit.stop (source.drop (edit.stop - position)) edits

/-- A source with an expansion's edits made. -/
def Expansion.bundle (source : Bytes) (e : Expansion) : Bundle :=
  { text := splice 0 source e.edits, libraries := e.libraries }

/-- The files off the trail. -/
def unopened (fs : FileSystem) (trail : List Location) : List Location :=
  fs.filePlaces.filter fun place => place ∉ trail

theorem length_unopened_lt {fs : FileSystem} {trail : List Location} {place : Location}
    (hfile : place ∈ fs.filePlaces) (hnew : place ∉ trail) :
    (unopened fs (trail ++ [place])).length < (unopened fs trail).length := by
  have hsub : unopened fs (trail ++ [place])
      = (unopened fs trail).filter fun other => other ≠ place := by
    simp only [unopened, List.filter_filter]
    congr 1
    funext other
    simp [Bool.and_comm]
  rw [hsub]
  exact List.length_filter_lt_length_iff_exists.2
    ⟨place, by simp [unopened, hfile, hnew], by simp⟩

/-- Resolve directives met while the files of `trail` are being expanded. -/
def expand (fs : FileSystem) (o : BundleOptions) (trail : List Location) :
    (directives : List Directive) → Except BundleError Expansion
  | [] => .ok ⟨[], []⟩
  | d :: directives =>
      match d.kind with
      | .link => do
          let rest ← expand fs o trail directives
          return rest.cons d [] [o.library d]
      | .inline =>
          match _hopen : fs.openFile (o.includePath d) with
          | .error cause => .error (.unreadableInclude (o.includePath d) d.line cause)
          | .ok (place, content) =>
              match o.mode with
              | .single => do
                  let rest ← expand fs o trail directives
                  return rest.cons d content []
              | .recursive =>
                  if _hnew : place ∈ trail then
                    .error (.includeCycle ((trail ++ [place]).map Path.ofLocation))
                  else do
                    let nested ← expand fs o (trail ++ [place]) (scan content)
                    let inlined := nested.bundle content
                    let rest ← expand fs o trail directives
                    return rest.cons d inlined.text inlined.libraries
termination_by directives => ((unopened fs trail).length, directives.length)
decreasing_by
  · exact Prod.Lex.right _ (Nat.lt_succ_self _)
  · exact Prod.Lex.right _ (Nat.lt_succ_self _)
  · exact Prod.Lex.left _ _ (length_unopened_lt (fs.mem_filePlaces_of_openFile _hopen) _hnew)
  · exact Prod.Lex.right _ (Nat.lt_succ_self _)

/-- A list with everything left out that occurred before. -/
def firstOccurrences [DecidableEq α] (seen : List α) : List α → List α
  | [] => []
  | a :: rest =>
      if a ∈ seen then firstOccurrences seen rest else a :: firstOccurrences (a :: seen) rest

/-- In recursive mode each library is named once, where it first occurs. -/
def BundleOptions.settle (o : BundleOptions) (bundle : Bundle) : Bundle :=
  match o.mode with
  | .single => bundle
  | .recursive => { bundle with libraries := firstOccurrences [] bundle.libraries }

/-- The bundle of a source met while the files of `trail` are being expanded. -/
def bundleFrom (fs : FileSystem) (o : BundleOptions) (trail : List Location) (source : Bytes) :
    Except BundleError Bundle := do
  let expansion ← expand fs o trail (scan source)
  return o.settle (expansion.bundle source)

/-- The bundle of a source that is no file. -/
def bundleSource (fs : FileSystem) (o : BundleOptions) (source : Bytes) :
    Except BundleError Bundle :=
  bundleFrom fs o [] source

/-- The bundle of the file at a path. -/
def bundleFile (fs : FileSystem) (o : BundleOptions) (entry : Path) :
    Except BundleError Bundle :=
  match fs.openFile entry with
  | .error cause => .error (.unreadableEntry entry cause)
  | .ok (place, content) => bundleFrom fs o [place] content

end SourceBundle
