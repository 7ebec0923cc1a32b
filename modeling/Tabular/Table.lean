import Tabular.Cell
import Tabular.Keyed

/-!
# Tables

A table is a list of rows, and a row holds cells under column names. **The first row answers for
the table**: a column exists if the first row has it. Rows read from records share their columns;
rows that come from objects may be ragged, and what a row lacks reads as null.
-/

namespace Tabular

/-- The cells of a row by the names of their columns. -/
abbrev Row := Keyed Cell

/-- Rows in order. -/
structure Table where
  rows : List Row
deriving Inhabited, BEq

namespace Table

/-- The table of positional records under common headers. The shorter of header list and record
ends a row, and of a repeated header the last value counts. -/
def ofRecords (headers : List String) (records : List (List Cell)) : Table :=
  ⟨records.map fun record => Keyed.ofList (headers.zip record)⟩

/-- The number of rows. -/
def size (t : Table) : Nat := t.rows.length

/-- Whether there is no row. -/
def isEmpty (t : Table) : Bool := t.rows.isEmpty

/-- The names of the columns, in order. -/
def columns (t : Table) : List String :=
  match t.rows with
  | [] => []
  | row :: _ => row.keys

/-- Whether there is a column of that name. -/
def hasColumn (t : Table) (name : String) : Bool :=
  match t.rows with
  | [] => false
  | row :: _ => row.contains name

/-- The cells of a column, row by row. -/
def column (t : Table) (name : String) : List Cell :=
  t.rows.map fun row => (row.get? name).getD .null

/-- The table with every row changed by `f`. -/
def mapRows (f : Row → Row) (t : Table) : Table := ⟨t.rows.map f⟩

/-! ### Tables and JSON -/

/-- A row as an object. -/
def rowJson (row : Row) : Json := .object (row.entries.map fun e => (e.1, e.2.toJson))

/-- The table as an array of objects. -/
def toJson (t : Table) : Json := .array (t.rows.map rowJson)

/-- The row that an object of plain values is; of a repeated name the last value counts. -/
def decodeRow? {δ : Type} [Layered δ] (d : δ) : Option Row := do
  let ms ← Layered.members? d
  let es ← ms.mapM fun m => (Cell.decode? m.2).map (m.1, ·)
  return Keyed.ofList es

/-- The table that an array of objects of plain values is. -/
def decode? {δ : Type} [Layered δ] (d : δ) : Option Table :=
  (Layered.list? decodeRow? d).map (⟨·⟩)

end Table

end Tabular
