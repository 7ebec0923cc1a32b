import Tabular.Table

/-!
# Gaps

The gaps of a column are **the rows in which it has no data**: a row without the column, a null or
an empty text. A report keeps the numbers of these rows and how many there are.
-/

namespace Tabular

/-- A report on the gaps of a column: their number and the rows they are in, in order. -/
structure Gaps where
  count : Nat
  rows : List Nat
deriving Repr, DecidableEq, Inhabited

namespace Gaps

/-- Whether there is no gap. -/
def isClean (g : Gaps) : Bool := g.count == 0

/-- Whether the column has a gap in a row. -/
def contains (g : Gaps) (row : Nat) : Bool := g.rows.contains row

/-- Whether a row has no data under a name. -/
def isGap (row : Row) (column : String) : Bool :=
  match row.get? column with
  | none => true
  | some c => c.isMissing

/-- The numbers of the rows with a gap, where the first of `rows` has the number `start`. -/
def gapRows (column : String) (start : Nat) : List Row → List Nat
  | [] => []
  | row :: rows =>
    if isGap row column then start :: gapRows column (start + 1) rows
    else gapRows column (start + 1) rows

/-- The report as a record. -/
def toJson (g : Gaps) : Json :=
  .object [("count", .ofNat g.count), ("rows", .array (g.rows.map .ofNat))]

/-- A list of numbers in order and without repetitions. -/
def ordered (ns : List Nat) : List Nat := (ns.mergeSort (· ≤ ·)).eraseDups

/-- The report that a record is. -/
def decode? {δ : Type} [Layered δ] (d : δ) : Option Gaps := do
  match ← Layered.fields? ["count", "rows"] d with
  | [some count, some rows] =>
    return ⟨← Layered.nat64? count, ordered (← Layered.list? Layered.nat64? rows)⟩
  | _ => none

end Gaps

/-- The report on the gaps of a column of a table. -/
def Table.gaps (t : Table) (column : String) : Gaps :=
  let rows := Gaps.gapRows column 0 t.rows
  ⟨rows.length, rows⟩

end Tabular
