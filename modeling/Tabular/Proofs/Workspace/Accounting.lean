import Tabular.Proofs.Histogram
import Tabular.Proofs.Workspace.Recomputation

/-!
# Bins and gaps account for all rows

In every workspace that a table of finite numbers leads to, the counts of a column's histogram and
the number of its gaps **make up the number of rows**, unless it is a column of truth values, which
has no histogram (`Workspace.Accounted`). Rows may be ragged.

This is so although metadata is not kept fresh: what is kept of a column was found out together, on
some table with as many rows, and from then on the three parts move together. Columns that are added
hold texts, so it does not matter to them what the numbers of the table are.
-/

namespace Tabular

/-- No cell of the table holds a double that is infinite or undefined. -/
def Table.Finite (t : Table) : Prop := ∀ row ∈ t.rows, ∀ e ∈ row.entries, e.2.Finite

instance (t : Table) : Decidable t.Finite :=
  inferInstanceAs (Decidable (∀ row ∈ t.rows, ∀ e ∈ row.entries, e.2.Finite))

/-- The cells of each column are finite; what a row lacks is null. -/
theorem Table.Finite.column {t : Table} (h : t.Finite) (c : String) :
    ∀ cell ∈ t.column c, cell.Finite := by
  intro cell hcell
  obtain ⟨row, hrow, rfl⟩ := List.mem_map.mp hcell
  cases hc : row.get? c with
  | none => trivial
  | some cell =>
    obtain ⟨before, after, he, -⟩ := List.lookup_eq_some_iff.mp hc
    exact h row hrow (c, cell) (by simp [he])

namespace Workspace

variable {w : Workspace} {t : Table} {stamp : Stamp} {op : Operation}
  {order : Option (List String)}

/-- The metadata of every column that is shown fits the number of rows. -/
def Accounted (w : Workspace) : Prop :=
  ∀ c ∈ w.order, ∃ m, w.metadata? c = some m ∧ m.Balanced w.table.size

/-- A loaded table of finite numbers is accounted for. -/
theorem load_accounted (hfinite : t.Finite) : (load .standard t order).value.Accounted := by
  have horder : (load .standard t order).value.order = initialOrder t order := by rw [load_value]
  have htable : (load .standard t order).value.table = t := by rw [load_value]
  intro c hc
  rw [horder, mem_initialOrder] at hc
  rw [htable]
  exact ⟨_, metadata?_load hc, Provider.describe_standard_balanced (hfinite.column c)⟩

/-- **One step keeps the rows accounted for**: a column that is added is described anew, and any
other has the metadata of its origin. -/
theorem Accounted.apply (h : w.Accounted) (hw : w.Aligned) :
    (w.apply .standard stamp op).value.Accounted := by
  obtain ⟨-, hv⟩ | ⟨t, P, S, he, ho, hv⟩ := apply_cases .standard w stamp op hw.nodup hw.columns
  · rwa [hv]
  · rw [hv]
    intro c hc
    have hplace := (mem_stepped_order ho hw.nodup).mp hc
    cases hd : op.origin? c with
    | none =>
      refine ⟨_, metadata?_stepped_of_added hd, Provider.describe_standard_balanced ?_⟩
      intro cell hcell
      obtain ⟨s, rfl⟩ := Table.exists_text_of_mem_column_edit he hd hcell
      trivial
    | some d =>
      have hs : op.source ∈ w.order := ho ▸ List.mem_append_right P List.mem_cons_self
      have hct : c ∈ t.columns := by
        rw [Table.mem_columns_edit he, hw.columns]
        exact hplace
      obtain ⟨m, hm, hbalanced⟩ :=
        h d ((hw.columns d).mp (Table.origin_mem_columns he hct hd))
      refine ⟨m, ?_, ?_⟩
      · rw [hw.metadata?_stepped hs (hplace.imp_right And.left) hd, hm]
      · rw [stepped, Table.size_edit he]
        exact hbalanced

/-- **Histogram and gaps of a column count every row once.** From any table without infinite or
undefined numbers, ragged or not, by any operations: the metadata kept of a column that is shown is
`Balanced`, which is to say that a column of truth values has no histogram, and any other has five
bins with five labels whose counts, together with the number of gaps, make up the number of rows. -/
theorem bins_and_gaps_count_rows (t : Table) (order : Option (List String))
    (ops : List (Stamp × Operation)) (hfinite : t.Finite) :
    let w := (replay .standard t order ops).value
    ∀ c ∈ w.order, ∃ m, w.metadata? c = some m ∧ m.Balanced w.table.size :=
  (run_induction (I := fun w => w.Aligned ∧ w.Accounted)
    (fun _ _ _ hw => ⟨hw.1.apply, hw.2.apply hw.1⟩) ops
    ⟨load_aligned, load_accounted hfinite⟩).2

/-- A column of decimal numbers, in part written as texts, under a new name and in capitals: two
gaps, one of them a row that lacks the column, and the two values in the bins. -/
theorem rows_counted_after_rename :
    let t : Table := ⟨[Keyed.ofList [("amount", .float 2.5), ("city", .text "Rome")],
      Keyed.ofList [("city", .null)], Keyed.ofList [("amount", .text " 1e3 ")],
      Keyed.ofList [("amount", .text ""), ("city", .bool true)]]⟩
    let ops : List (Stamp × Operation) :=
      [(default, .rename "amount" "sum"), (default, .recase .upper "sum")]
    let w := (replay .standard t none ops).value
    t.Finite ∧ w.table.size = 4 ∧ w.types.get? "sum" = some .float ∧
      ∃ m, w.metadata? "sum" = some m ∧ m.Balanced 4 := by
  intro t ops w
  have hfinite : t.Finite := by decide +kernel
  have hsize : w.table.size = 4 := by decide
  have htype : w.types.get? "sum" = some .float := by decide +kernel
  have hbalanced := bins_and_gaps_count_rows t none ops hfinite "sum" (by decide)
  exact ⟨hfinite, hsize, htype, hsize ▸ hbalanced⟩

end Workspace

end Tabular
