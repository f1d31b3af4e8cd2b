import SourceBundle.Number.Binary64

/-! # TOML values

    What a TOML text holds: scalars, arrays and tables.  A table keeps its entries
    in the order they were written and remembers how it came to be, because TOML
    lets some tables be extended later and not others. -/

namespace SourceBundle.Toml

/-- How a table came to be. -/
inductive TableOrigin where
  /-- Written in braces. -/
  | braces
  /-- The root, or opened by its own header. -/
  | header
  /-- Made on the way to a deeper header. -/
  | passed
  /-- Made on the way along a dotted key. -/
  | dotted
  deriving DecidableEq, Repr

/-- A TOML value. A date or time is only known to be one. -/
inductive Value where
  | string (text : String)
  | integer (n : Int)
  | float (x : Binary64)
  | boolean (b : Bool)
  | datetime
  | array (items : List Value)
  | table (origin : TableOrigin) (entries : List (String × Value))
  /-- An array of tables opened by doubled headers. -/
  | tables (elements : List (List (String × Value)))

/-- The entries of a table, in order. -/
abbrev Entries := List (String × Value)

end SourceBundle.Toml
