import MarkdownDirectives.Toml.Moment

/-!
# TOML values

The values a TOML text can hold. Integers have any size here. Numbers with a fraction are kept as
they are written, for no setting is one. A list of tables that is written with headers is no value:
a text that holds one is refused as a whole.
-/

namespace MarkdownDirectives.Toml

/-- A value. A table lists its entries in the order they were made. -/
inductive Value where
  | bool (value : Bool)
  | int (value : Int)
  | float (text : String)
  | moment (value : Moment)
  | string (value : String)
  | array (items : List Value)
  | table (entries : List (String × Value))
deriving Inhabited, BEq

/-- The entries of a table. -/
abbrev Table := List (String × Value)

end MarkdownDirectives.Toml
