import Tabular.Proofs.Footprint
import Tabular.Proofs.Workspace.Lockstep

/-!
# Runs treat rows one by one

Taking some rows of a table, in any order and some of them more than once, and then running
operations on them gives **the same rows as running the operations first**: no row has an influence
on what becomes of another.

What could carry such an influence is the first row, which alone decides which operations have a
target. But when all rows share their columns it decides like any other row
(`Table.columns_select`), and operations keep that so. The two runs are therefore in step, with
tables related by the selection (`Table.keptByEdits_selected`).
-/

namespace Tabular

namespace Table

variable {t : Table} {is : List Nat}

/-- The rows with the given numbers, in the order of the numbers; numbers without a row are
skipped. -/
def select (t : Table) (is : List Nat) : Table := ⟨is.filterMap (t.rows[·]?)⟩

/-- The number of a row that there is has a row. -/
theorem exists_row {i : Nat} (h : i < t.size) : ∃ row, t.rows[i]? = some row :=
  ⟨_, List.getElem?_eq_getElem h⟩

/-- If all numbers have a row, then each gives its row. -/
theorem rows_select (his : ∀ i ∈ is, i < t.size) :
    (t.select is).rows.map some = is.map (t.rows[·]?) := by
  induction is with
  | nil => rfl
  | cons i is ih =>
    obtain ⟨row, hrow⟩ := exists_row (his i List.mem_cons_self)
    have htail := ih fun j hj => his j (List.mem_cons_of_mem i hj)
    rw [select] at htail ⊢
    rw [List.filterMap_cons_some hrow, List.map_cons, List.map_cons, htail, hrow]

/-- **Any selection has the columns of the table**, if the rows share them. -/
theorem columns_select (hu : t.Uniform) (hne : is ≠ []) (his : ∀ i ∈ is, i < t.size) :
    (t.select is).columns = t.columns := by
  cases is with
  | nil => exact absurd rfl hne
  | cons i is =>
    obtain ⟨row, hrow⟩ := exists_row (his i List.mem_cons_self)
    have hrows : (t.select (i :: is)).rows = row :: (t.select is).rows :=
      List.filterMap_cons_some hrow
    rw [columns, hrows]
    exact hu row (List.mem_of_getElem? hrow)

/-- Rows are edited alike before and after they are selected. -/
theorem select_mapRows (f : Row → Row) : (t.mapRows f).select is = (t.select is).mapRows f := by
  simp only [select, mapRows, List.map_filterMap, List.getElem?_map]

/-- An operation has a target in a selection if it has one in the table. -/
theorem applies_select (op : Operation) (hu : t.Uniform) (hne : is ≠ [])
    (his : ∀ i ∈ is, i < t.size) : op.applies (t.select is) = op.applies t :=
  Operation.applies_congr fun c _ => by
    rw [Bool.eq_iff_iff, ← mem_columns, ← mem_columns, columns_select hu hne his]

/-- The second table is a selection of rows of the first one, which share their columns. -/
structure Selected (is : List Nat) (t s : Table) : Prop where
  uniform : t.Uniform
  inRange : ∀ i ∈ is, i < t.size
  selected : s = t.select is

/-- **An edit of a selection is a selection of the edit.** -/
theorem keptByEdits_selected (hne : is ≠ []) : KeptByEdits (Selected is) := by
  rintro op t _ ⟨hu, his, rfl⟩
  have happlies := applies_select op hu hne his
  cases ht : op.edit? t with
  | none =>
    have hs : op.edit? (t.select is) = none :=
      Operation.edit?_eq_none_iff.mpr (happlies.trans (Operation.edit?_eq_none_iff.mp ht))
    rw [hs]
    exact .none
  | some t' =>
    obtain ⟨ha, rfl⟩ := Operation.edit?_eq_some_iff.mp ht
    have hs := Operation.edit?_of_applies (happlies.trans ha)
    rw [hs]
    exact .some ⟨hu.edit ht, fun i hi => size_edit ht ▸ his i hi, (select_mapRows _).symm⟩

end Table

namespace Workspace

/-- **Rows are independent of each other.** Let the rows of a table share their columns, and select
at least one of them, in any order and with repetitions. The operations then lead from the selected
rows to exactly the rows so selected of the table that they lead to from all rows, and order and
recorded operations are the same. -/
theorem select_replayed (p q : Provider) (t : Table) (is : List Nat)
    (order : Option (List String)) (ops again : List (Stamp × Operation)) (hu : t.Uniform)
    (hne : is ≠ []) (his : ∀ i ∈ is, i < t.size) (ha : again.map (·.2) = ops.map (·.2)) :
    let w := (replay p t order ops).value
    let v := (replay q (t.select is) order again).value
    v.table = w.table.select is ∧ v.table.rows.map some = is.map (w.table.rows[·]?) ∧
      v.order = w.order ∧ v.history.operations = w.history.operations := by
  intro w v
  have hload : InStep (Table.Selected is) (load p t order).value
      (load q (t.select is) order).value :=
    InStep.load ⟨hu, his, rfl⟩ (Table.columns_select hu hne his)
  obtain ⟨htables, horder, hoperations⟩ : InStep (Table.Selected is) w v :=
    hload.run (Table.keptByEdits_selected hne) load_aligned ha
  refine ⟨htables.selected, ?_, horder, hoperations⟩
  rw [htables.selected]
  exact Table.rows_select htables.inRange

/-- The second row is taken twice, around the first one, and the rename is skipped for all of them
as it is for the whole table. -/
theorem split_of_repeated_row :
    let t := Table.ofRecords ["name", "id"] [[.text "Ada Lovelace", .int 1], [.null, .int 2]]
    let is := [1, 0, 1]
    let ops : List (Stamp × Operation) :=
      [(default, .split "name" " " "first" "last"), (default, .rename "first" "id")]
    let again : List (Stamp × Operation) := ops.map fun o => (⟨default, ⟨1, 0⟩⟩, o.2)
    let w := (replay .standard t none ops).value
    let v := (replay .standard (t.select is) none again).value
    v.table.rows.map some = is.map (w.table.rows[·]?) ∧
      v.order = ["id", "name", "first", "last"] ∧
      v.history.operations = [.split "name" " " "first" "last"] := by
  intro t is ops again w v
  have hu : t.Uniform := by decide
  have his : ∀ i ∈ is, i < t.size := by decide
  have horder : w.order = ["id", "name", "first", "last"] := by decide
  have hops : w.history.operations = [.split "name" " " "first" "last"] := by decide
  obtain ⟨-, hrows, hv, hrecorded⟩ := select_replayed .standard .standard t is none ops again hu
    (List.cons_ne_nil 1 [0, 1]) his rfl
  exact ⟨hrows, hv.trans horder, hrecorded.trans hops⟩

end Workspace

end Tabular
