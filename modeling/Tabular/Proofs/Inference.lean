import Mathlib.Data.List.Basic
import Tabular.Inference

/-!
# What the type of a column says of its cells

The tally of a column counts its cells with data, and among them those that look like integers,
like numbers and like truth values. Comparing such a count with the number of all cells with data
is asking **whether every one of them looks so**, and this is how the type is stated here
(`Table.inferType_eq`): without counters, by what holds of all cells that are present.
-/

namespace Tabular

namespace Kind

/-- An integer or a decimal number. -/
def isNumber (k : Kind) : Bool := k == integer || k == decimal

end Kind

namespace Cell

/-- The cells that hold data, in order. -/
def present (cells : List Cell) : List Cell := cells.filter (!·.isMissing)

theorem mem_present {cells : List Cell} {c : Cell} :
    c ∈ present cells ↔ c ∈ cells ∧ c.isMissing = false := by
  simp [present]

end Cell

namespace Tally

open Cell

/-- A missing cell is not counted, and a cell with data among all that it looks like. -/
theorem add_eq (t : Tally) (c : Cell) : t.add c = if c.isMissing then t else
    { values := t.values + 1
      integers := t.integers + if Kind.ofCell c == .integer then 1 else 0
      numbers := t.numbers + if (Kind.ofCell c).isNumber then 1 else 0
      booleans := t.booleans + if Kind.ofCell c == .boolean then 1 else 0 } := by
  rw [add]
  split
  · rfl
  · cases Kind.ofCell c <;> rfl

/-- What has been tallied of a column by its cells with data. -/
theorem foldl_add (cells : List Cell) (t : Tally) : cells.foldl add t =
    { values := t.values + (present cells).length
      integers := t.integers + (present cells).countP (Kind.ofCell · == .integer)
      numbers := t.numbers + (present cells).countP fun c => (Kind.ofCell c).isNumber
      booleans := t.booleans + (present cells).countP (Kind.ofCell · == .boolean) } := by
  induction cells generalizing t with
  | nil => rfl
  | cons c cells ih =>
    rw [List.foldl_cons, ih, add_eq]
    cases hc : c.isMissing with
    | true =>
      have hpresent : present (c :: cells) = present cells :=
        List.filter_cons_of_neg (by simp [hc])
      rw [hpresent, if_pos rfl]
    | false =>
      have hpresent : present (c :: cells) = c :: present cells :=
        List.filter_cons_of_pos (by simp [hc])
      simp only [hpresent, Bool.false_eq_true, if_false, List.length_cons, List.countP_cons,
        Tally.mk.injEq]
      omega

end Tally

/-- **The type of a column** is the most specific one that all its cells with data look like. -/
theorem Table.inferType_eq (t : Table) (column : String) : t.inferType column =
    let cells := Cell.present (t.column column)
    if cells = [] then .text
    else if ∀ c ∈ cells, Kind.ofCell c = .integer then .int
    else if ∀ c ∈ cells, (Kind.ofCell c).isNumber then .float
    else if ∀ c ∈ cells, Kind.ofCell c = .boolean then .boolean
    else .text := by
  simp only [inferType, Tally.foldl_add, Tally.verdict, Nat.zero_add, List.countP_eq_length,
    List.length_eq_zero_iff, beq_iff_eq]

/-- What a cell with data looks like in a column of the type. -/
def ColumnType.Admits : ColumnType → Cell → Prop
  | text, _ => True
  | int, c => Kind.ofCell c = .integer
  | float, c => (Kind.ofCell c).isNumber
  | boolean, c => Kind.ofCell c = .boolean

/-- The type of a column admits all of its cells that hold data. -/
theorem Table.admits_inferType {t : Table} {column : String} {c : Cell}
    (hc : c ∈ Cell.present (t.column column)) : (t.inferType column).Admits c := by
  rw [inferType_eq]
  dsimp only
  split
  next => trivial
  split
  next h => exact h c hc
  split
  next h => exact h c hc
  split
  next h => exact h c hc
  next => trivial

end Tabular
