import SourceBundle.Toml.Reader

/-! # TOML documents — the table that lines make together

    A header opens a table, and the pairs after it are entered there.  A table is
    opened at most once; a header may open one that was only passed on the way to a
    deeper one, which then moves behind its siblings.  A document that enters a key
    twice is refused like one that cannot be read. -/

namespace SourceBundle.Toml

/-- Open the table of a header in the table that holds it. -/
def openTable (key : String) (_ : TableOrigin) (entries : Entries) : Option Entries :=
  match entries.lookup key with
  | none => some (entries ++ [(key, .table .header [])])
  | some (.table .passed inner) =>
      some (entries.filter (·.1 ≠ key) ++ [(key, .table .header inner)])
  | some _ => none

/-- Open one more table of the array of a doubled header. -/
def openElement (key : String) (_ : TableOrigin) (entries : Entries) : Option Entries :=
  match entries.lookup key with
  | none => some (entries ++ [(key, .tables [[]])])
  | some (.tables elements) => some (replaceEntry key (.tables (elements ++ [[]])) entries)
  | some _ => none

/-- What is known after some lines: the root table and the key of the table that is open. -/
structure Draft where
  root : Entries
  current : List String

/-- Open what a header names. -/
def Draft.open? (d : Draft) (key : List String)
    (opening : String → TableOrigin → Entries → Option Entries) : Option Draft :=
  match key.getLast? with
  | none => none
  | some last =>
      (changeAt .passed (opening last) key.dropLast .header d.root).map fun root => ⟨root, key⟩

/-- One more line. -/
def Draft.add (d : Draft) : Line → Option Draft
  | .header key => d.open? key openTable
  | .element key => d.open? key openElement
  | .pair key value =>
      (changeAt .passed (fun origin entries => enterPair origin entries key value)
        d.current .header d.root).map fun root => { d with root := root }

/-- The root table of a document. -/
def parse (text : String) : Option Entries := do
  let lines ← linesOfText text.toList
  let draft ← lines.foldlM Draft.add ⟨[], []⟩
  return draft.root

end SourceBundle.Toml
