import Tabular.ColumnType
import Tabular.Number.Reading
import Tabular.Table

/-!
# Inference of column types

The type of a column is **the most specific one that all its values satisfy**, where missing cells
do not count and integers are decimal numbers too. The values are tallied in one pass; a column
without values, or with values of no common kind, is a string column.
-/

namespace Tabular

/-- What a single value looks like. -/
inductive Kind where
  | integer
  | decimal
  | boolean
  | other
deriving Repr, DecidableEq

namespace Kind

/-- The words for truth values. -/
def booleanWords : List String := ["true", "false", "t", "f", "yes", "no", "y", "n"]

/-- Whether a text is a word for a truth value in any case. -/
def isBooleanWord (s : List Char) : Bool :=
  booleanWords.contains (String.ofList (Text.toAsciiSmall s))

/-- The finite double written by a text. -/
def finite? (s : List Char) : Option Float := (Number.readFloat? s).filter (·.isFinite)

/-- What a text looks like, apart from the blanks around it. -/
def ofText (s : String) : Kind :=
  let s := Text.trim s.toList
  if (Number.readInt64? s).isSome then integer
  else if (finite? s).isSome then decimal
  else if isBooleanWord s then boolean
  else other

/-- What a cell looks like. -/
def ofCell : Cell → Kind
  | .null => other
  | .bool _ => boolean
  | .int _ => integer
  | .float _ => decimal
  | .text s => ofText s

end Kind

/-- How many values of a column were seen, and how many of them satisfy each type. -/
structure Tally where
  values : Nat := 0
  integers : Nat := 0
  numbers : Nat := 0
  booleans : Nat := 0
deriving Repr, DecidableEq

namespace Tally

/-- The tally after one more cell. -/
def add (t : Tally) (c : Cell) : Tally :=
  if c.isMissing then t
  else
    let t := { t with values := t.values + 1 }
    match Kind.ofCell c with
    | .integer => { t with integers := t.integers + 1, numbers := t.numbers + 1 }
    | .decimal => { t with numbers := t.numbers + 1 }
    | .boolean => { t with booleans := t.booleans + 1 }
    | .other => t

/-- The most specific type that all values satisfy. -/
def verdict (t : Tally) : ColumnType :=
  if t.values = 0 then .text
  else if t.integers = t.values then .int
  else if t.numbers = t.values then .float
  else if t.booleans = t.values then .boolean
  else .text

end Tally

/-- The type of a column of a table. -/
def Table.inferType (t : Table) (column : String) : ColumnType :=
  ((t.column column).foldl Tally.add {}).verdict

end Tabular
