import Tabular.Gaps
import Tabular.Proofs.Keyed

/-!
# Rows with gaps

A report on the gaps of a column lists **exactly the rows in which the column has no data**, once
each and in order (`Table.mem_rows_gaps`, `Table.pairwise_rows_gaps`). The numbers are found by
counting along the rows, so what is proved first is about the rows behind a given start. Their
number is that of the missing cells of the column (`Table.count_gaps`).
-/

namespace Tabular

namespace Gaps

variable {column : String} {i j start : Nat} {row : Row} {rows : List Row}

/-- A cell that a row lacks is a gap like a null. -/
theorem isGap_eq (row : Row) (column : String) :
    isGap row column = ((row.get? column).getD .null).isMissing := by
  rw [isGap]
  cases row.get? column <;> rfl

/-- In a row that has the column, a gap is a null or an empty text. -/
theorem isGap_iff (h : column ∈ row.keys) :
    isGap row column ↔ row.get? column = some .null ∨ row.get? column = some (.text "") := by
  obtain ⟨cell, hcell⟩ := Keyed.mem_keys_iff_exists.mp h
  rw [isGap, hcell]
  cases cell <;> simp [Cell.isMissing]

theorem mem_gapRows_cons : i ∈ gapRows column start (row :: rows) ↔
    (i = start ∧ isGap row column) ∨ i ∈ gapRows column (start + 1) rows := by
  rw [gapRows]
  split
  next h => simp [h]
  next h => simp [h]

theorem le_of_mem_gapRows : ∀ {rows : List Row} {start : Nat},
    i ∈ gapRows column start rows → start ≤ i
  | [], _, h => absurd h List.not_mem_nil
  | row :: rows, start, h => by
    rcases mem_gapRows_cons.mp h with ⟨rfl, -⟩ | h
    · exact le_refl i
    · have := le_of_mem_gapRows h
      omega

/-- The row at a distance from the start is listed exactly if it has a gap. -/
theorem mem_gapRows : ∀ {rows : List Row} {start i : Nat},
    start + i ∈ gapRows column start rows ↔ ∃ row, rows[i]? = some row ∧ isGap row column
  | [], start, i => by simp [gapRows]
  | row :: rows, start, 0 => by
    -- rows further on have greater numbers
    have hlater : start ∉ gapRows column (start + 1) rows := fun h => by
      have := le_of_mem_gapRows h
      omega
    simp [mem_gapRows_cons, hlater]
  | row :: rows, start, i + 1 => by
    have hshift : start + (i + 1) = start + 1 + i := by omega
    rw [mem_gapRows_cons, hshift, mem_gapRows, List.getElem?_cons_succ]
    exact or_iff_right fun h => by omega

theorem pairwise_gapRows : ∀ {rows : List Row} {start : Nat},
    (gapRows column start rows).Pairwise (· < ·)
  | [], _ => List.Pairwise.nil
  | row :: rows, start => by
    rw [gapRows]
    split
    · exact List.pairwise_cons.mpr ⟨fun i hi => le_of_mem_gapRows hi, pairwise_gapRows⟩
    · exact pairwise_gapRows

theorem length_gapRows : ∀ (rows : List Row) (start : Nat),
    (gapRows column start rows).length = rows.countP (isGap · column)
  | [], _ => rfl
  | row :: rows, start => by
    rw [gapRows, List.countP_cons]
    split
    · rw [List.length_cons, length_gapRows rows]
    · rw [length_gapRows rows, Nat.add_zero]

end Gaps

namespace Table

variable {t : Table} {column : String} {i : Nat}

/-- The rows of a report are those with a gap. -/
theorem mem_rows_gaps :
    i ∈ (t.gaps column).rows ↔ ∃ row, t.rows[i]? = some row ∧ Gaps.isGap row column := by
  rw [gaps, ← Gaps.mem_gapRows (i := i), Nat.zero_add]

/-- The rows of a report are in order. -/
theorem pairwise_rows_gaps : (t.gaps column).rows.Pairwise (· < ·) := Gaps.pairwise_gapRows

/-- The number of gaps is that of the missing cells of the column. -/
theorem count_gaps : (t.gaps column).count = (t.column column).countP (·.isMissing) := by
  rw [gaps, Gaps.length_gapRows, Table.column, List.countP_map]
  exact List.countP_congr fun row _ => by rw [Gaps.isGap_eq, Function.comp_apply]

end Table

end Tabular
