import Tabular.Proofs.Workspace.Alignment

/-!
# The order in which columns are shown

An operation with a target changes the display order in one place: **where the source column stood,
its replacement stands**, and everything before and behind stays (`Workspace.Aligned.apply_order`).
The place is that of the source even for a merge, wherever the other column may be.

The reducer looks for this place in the order, while it was the table that told whether there is a
target. Should the source not be shown, new columns would go to the end; should a position lie
beyond the end, it would be moved there. Neither happens. The order of a workspace lists the columns
of its table, so the source is found, and a position right behind a column that is shown lies within
the order, also after further insertions. The strict reducer, which gives up where either rule would
take effect, **never gives up and does the same** (`Workspace.Aligned.applyStrictly?_eq`).
-/

namespace Tabular

namespace Workspace

variable {p : Provider} {w : Workspace} {op : Operation} {stamp : Stamp}

/-! ### The strict reducer -/

/-- The workspace with a column and its metadata at a position of the order, if there is that
position. -/
def insertColumn? (w : Workspace) (index : Nat) (column : String) (m : Metadata) :
    Option Workspace :=
  if index ≤ w.order.length then
    some { w with
      order := w.order.insertIdx index column
      types := w.types.insert column m.type
      distributions := w.distributions.insert column m.distribution
      gaps := w.gaps.insert column m.gaps }
  else none

/-- The workspace with columns of its table from a position of the order on, if there are these
positions when their turn comes. -/
def addColumns? (p : Provider) (w : Workspace) (index : Nat) : List String → Option Workspace
  | [] => some w
  | column :: columns =>
    (w.insertColumn? index column (p.describe w.table column).value).bind
      (addColumns? p · (index + 1) columns)

/-- The order and metadata after an operation, if columns that are added can be put behind the
source. -/
def updateColumns? (p : Provider) (w : Workspace) (op : Operation) : Option Workspace :=
  match op with
  | .drop column => some (w.removeColumn column)
  | .rename column newName => some (w.renameColumn column newName)
  | .split .. | .merge .. | .substring .. =>
    (w.index? op.source).bind fun i => addColumns? p w (i + 1) op.added
  | .recase .. => some w

/-- The workspace after an operation, if no column has to be put at the end for want of a place. -/
def applyStrictly? (p : Provider) (stamp : Stamp) (op : Operation) (w : Workspace) :
    Option Workspace :=
  match op.edit? w.table with
  | none => some w
  | some t => (updateColumns? p { w with table := t } op).map (·.record stamp op)

/-- A position within the order is taken as it is. -/
theorem insertColumn?_eq {index : Nat} (h : index ≤ w.order.length) (column : String)
    (m : Metadata) : w.insertColumn? index column m = some (w.insertColumn index column m) := by
  rw [insertColumn?, if_pos h, insertColumn, Nat.min_eq_left h]

/-- A run of columns that begins within the order stays within it, as each of them makes it longer.
-/
theorem addColumns?_eq : ∀ (columns : List String) {w : Workspace} {index : Nat},
    index ≤ w.order.length →
      addColumns? p w index columns = some (addColumns p w index columns).value
  | [], _, _, _ => rfl
  | column :: columns, w, index, h => by
    have hlength : index + 1 ≤
        (w.insertColumn index column (p.describe w.table column).value).order.length := by
      rw [insertColumn, List.length_insertIdx_of_le_length (Nat.min_le_right _ _)]
      exact Nat.succ_le_succ h
    rw [addColumns?, insertColumn?_eq h, Option.bind_some, addColumns?_eq columns hlength,
      addColumns, Traced.value_bind]

/-- Behind a column that is shown there is a position. -/
theorem updateColumns?_eq (h : op.source ∈ w.order) :
    updateColumns? p w op = some (updateColumns p w op).value := by
  obtain ⟨i, hi⟩ := Option.isSome_iff_exists.mp (List.isSome_idxOf?.mpr h)
  obtain ⟨hlt, -⟩ := List.idxOf?_eq_some_iff.mp hi
  have hadd : ∀ columns, ((w.index? op.source).bind fun i => addColumns? p w (i + 1) columns) =
      some (addColumns p w (w.positionAfter op.source) columns).value := by
    intro columns
    rw [positionAfter, index?, hi, Option.bind_some, addColumns?_eq columns (Nat.succ_le_of_lt hlt)]
  cases op with
  | drop | rename | recase => rfl
  | split | merge | substring => exact hadd _

/-- **The strict reducer does not give up** in an aligned workspace, and does the same. -/
theorem Aligned.applyStrictly?_eq (hw : w.Aligned) (p : Provider) (stamp : Stamp)
    (op : Operation) : w.applyStrictly? p stamp op = some (w.apply p stamp op).value := by
  rw [applyStrictly?, Workspace.apply]
  cases h : op.edit? w.table with
  | none => rfl
  | some t =>
    have hs : op.source ∈ w.order := hw.source_mem_order (Operation.edit?_eq_some_iff.mp h).1
    have hu := updateColumns?_eq (p := p) (w := { w with table := t }) hs
    simp only [hu, Option.map_some]
    rfl

/-! ### The place of the source -/

/-- In an aligned workspace the replacement of the source column takes its place. -/
theorem Aligned.apply_order (hw : w.Aligned) (ha : op.applies w.table) (p : Provider)
    (stamp : Stamp) : ∃ P S, w.order = P ++ [op.source] ++ S ∧
      (w.apply p stamp op).value.order = P ++ op.replacement ++ S := by
  have he := Operation.edit?_of_applies ha
  obtain ⟨P, S, ho⟩ := List.append_of_mem (hw.source_mem_order ha)
  refine ⟨P, S, ?_, ?_⟩
  · rw [ho, List.append_assoc, List.singleton_append]
  · rw [apply_of_edit?_eq_some p stamp he ho hw.nodup, stepped]

/-- **The order after an operation.** In every reachable workspace, and for every operation that has
a target in it, the source column is shown exactly once, its replacement takes its place, and the
strict reducer leads to the same workspace: no column is put at the end because the source is not
found, and no position is moved into the order. -/
theorem replacement_takes_place (p q r : Provider) (t : Table) (order : Option (List String))
    (ops : List (Stamp × Operation)) (stamp : Stamp) (op : Operation)
    (ha : op.applies (run q (load p t order).value ops).value.table) :
    let w := (run q (load p t order).value ops).value
    w.order.count op.source = 1 ∧
      (∃ P S, w.order = P ++ [op.source] ++ S ∧
        (w.apply r stamp op).value.order = P ++ op.replacement ++ S) ∧
        w.applyStrictly? r stamp op = some (w.apply r stamp op).value := by
  intro w
  have hw : w.Aligned := run_load_aligned p q t order ops
  exact ⟨List.count_eq_one_of_mem hw.nodup (hw.source_mem_order ha), hw.apply_order ha r stamp,
    hw.applyStrictly?_eq r stamp op⟩

/-- A merge with a column that is shown before the source, and after two parts were put in between.
-/
theorem merged_column_behind_source :
    let t := Table.ofRecords ["a", "b", "c"] [[.text "x-y", .text "1", .null]]
    let ops : List (Stamp × Operation) := [(default, .split "b" "-" "b1" "b2")]
    let op : Operation := .merge "a" "b1" "/" "m"
    let w := (run .standard (load .standard t (some ["b"])).value ops).value
    op.applies w.table ∧ w.order = ["b", "b1", "b2", "a", "c"] ∧
      (w.apply .standard default op).value.order = ["b", "b1", "b2", "a", "m", "c"] ∧
        w.applyStrictly? .standard default op = some (w.apply .standard default op).value := by
  intro t ops op w
  have ha : op.applies w.table := by decide
  have h := replacement_takes_place .standard .standard .standard t (some ["b"]) ops default op ha
  exact ⟨ha, by decide, by decide, h.2.2⟩

end Workspace

end Tabular
