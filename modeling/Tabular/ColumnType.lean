import Tabular.Json.Decoding

/-!
# Column types

The types that a column can have, with their names. A column of texts is called a string column.
-/

namespace Tabular

/-- The type of a column. -/
inductive ColumnType where
  | text
  | int
  | float
  | boolean
deriving Repr, DecidableEq, Inhabited

namespace ColumnType

/-- The name of a type. -/
def name : ColumnType → String
  | text => "string"
  | int => "int"
  | float => "float"
  | boolean => "boolean"

/-- The type of a name. -/
def ofName? (s : String) : Option ColumnType := [text, int, float, boolean].find? (·.name == s)

/-- The type that a document names. -/
def decode? {δ : Type} [Layered δ] (d : δ) : Option ColumnType :=
  (Layered.caseName? d).bind ofName?

end ColumnType

end Tabular
