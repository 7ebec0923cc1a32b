import Mathlib.Data.List.Forall2
import Tabular.Proofs.Footprint

/-!
# When an edit is made, and what it leaves alone

An operation has a target exactly if **all columns it reads are there, none that it creates is, and
those are distinct** (`Operation.applies_iff`). Only the first row is asked, while every row is
edited; still no row, however ragged, changes outside the columns that are written
(`Table.agreeOff_of_edit`).

With rows that share their columns more can be said. Of the columns that are there an operation
writes one at most, which it drops, renames or sets in a case (`Operation.eq_of_mem_writes`): all
others that it writes are new. So the names that are removed go and those that are created come, in
all rows alike, and a cell is lost or changed only by a drop or a case
(`Table.exists_column_of_edit`).
-/

namespace Tabular

open Keyed

/-! ### Columns that come and go -/

namespace Operation

variable {op : Operation} {t : Table} {c : String}

/-- The names that an operation gives to columns: to those it adds, or to the one it renames. -/
def created : Operation → List String
  | rename _ newName => [newName]
  | op => op.added

/-- The names under which an operation leaves no column. -/
def removed : Operation → List String
  | drop column => [column]
  | rename column _ => [column]
  | _ => []

/-- **When an operation has a target**: what it reads is there, and what it creates is not. -/
theorem applies_iff : op.applies t ↔ (∀ c ∈ op.reads, c ∈ t.columns) ∧
    (∀ c ∈ op.created, c ∉ t.columns) ∧ op.created.Nodup := by
  simp only [Table.mem_columns]
  cases op with
  | drop | recase => simp [applies, reads, created, added, source]
  | rename column newName =>
    -- a column that is there and a name that is not are different names
    have hne : t.hasColumn column → t.hasColumn newName = false → column ≠ newName := by
      rintro h h' rfl
      simp [h] at h'
    simp [applies, reads, created, source]
    grind
  | split column delimiter first second => simp [applies, reads, created, added, source]; grind
  | merge | substring => simp [applies, reads, created, added, source, and_assoc]

/-- What keeps an operation from having a target. That a column is renamed to itself is said
although the name is then taken, or else the column is not there. -/
theorem edit?_eq_none_iff_exists : op.edit? t = none ↔
    (∃ c ∈ op.reads, c ∉ t.columns) ∨ (∃ c ∈ op.created, c ∈ t.columns) ∨
      (∃ column, op = rename column column) ∨
        ∃ column delimiter name, op = split column delimiter name name := by
  have hdistinct : ¬ op.created.Nodup ↔
      ∃ column delimiter name, op = split column delimiter name name := by
    cases op <;> simp [created, added, eq_comm]
  have hself : (∃ column, op = rename column column) →
      (∃ c ∈ op.reads, c ∉ t.columns) ∨ ∃ c ∈ op.created, c ∈ t.columns := by
    rintro ⟨column, rfl⟩
    by_cases hc : column ∈ t.columns
    · exact .inr ⟨column, List.mem_cons_self, hc⟩
    · exact .inl ⟨column, List.mem_cons_self, hc⟩
  rw [edit?_eq_none_iff, ← Bool.not_eq_true, applies_iff, ← hdistinct]
  simp only [not_and_or, not_forall, not_not, exists_prop]
  constructor
  · rintro (h | h | h)
    exacts [.inl h, .inr (.inl h), .inr (.inr (.inr h))]
  · rintro (h | h | h | h)
    exacts [.inl h, .inr (.inl h), (hself h).imp id .inl, .inr (.inr h)]

/-- An operation that writes a column of the table drops it, renames it or sets it in a case. -/
theorem eq_of_mem_writes (h : op.applies t) (hc : c ∈ t.columns) (hw : c ∈ op.writes) :
    op = drop c ∨ (∃ newName, op = rename c newName) ∨ ∃ style, op = recase style c := by
  have hnew : c ∉ op.created := fun hcreated => (applies_iff.mp h).2.1 c hcreated hc
  cases op with
  | drop column => exact .inl (congrArg drop (List.mem_singleton.mp hw).symm)
  | rename column newName =>
    have hcolumn : c = column :=
      (List.mem_pair.mp hw).resolve_right (mt List.mem_singleton.mpr hnew)
    exact .inr (.inl ⟨newName, by rw [hcolumn]⟩)
  | recase style column => exact .inr (.inr ⟨style, by rw [List.mem_singleton.mp hw]⟩)
  | split | merge | substring => exact absurd hw hnew

/-- What stands in place of the source is what is created, and the source unless it is removed. -/
theorem mem_replacement_iff :
    c ∈ op.replacement ↔ (c = op.source ∧ c ∉ op.removed) ∨ c ∈ op.created := by
  cases op <;> simp [replacement, removed, created, added, source]

theorem eq_source_of_mem_removed (hc : c ∈ op.removed) : c = op.source := by
  cases op with
  | drop | rename => exact List.mem_singleton.mp hc
  | split | merge | recase | substring => cases hc

theorem mem_writes_of_removed (hc : c ∈ op.removed) : c ∈ op.writes := by
  cases op with
  | drop => exact hc
  | rename => exact List.mem_cons.mpr (.inl (List.mem_singleton.mp hc))
  | split | merge | recase | substring => cases hc

end Operation

open Operation

/-! ### Edited tables -/

namespace Table

variable {op : Operation} {t t' : Table} {c : String}

/-- A table and its changed version are related row by row. -/
theorem forall₂_mapRows_iff {R : Row → Row → Prop} {f : Row → Row} :
    List.Forall₂ R t.rows (t.mapRows f).rows ↔ ∀ row ∈ t.rows, R row (f row) := by
  rw [mapRows, List.forall₂_map_right_iff, List.forall₂_same]

/-- **No row changes outside the columns that are written.** -/
theorem agreeOff_of_edit (h : op.edit? t = some t') :
    List.Forall₂ (AgreeOff op.writes) t.rows t'.rows := by
  obtain ⟨-, rfl⟩ := edit?_eq_some_iff.mp h
  exact forall₂_mapRows_iff.mpr fun row _ => agreeOff_editRow op row

/-- The columns of an edited table: those there were but what is removed, and what is created. -/
theorem mem_columns_of_edit (h : op.edit? t = some t') :
    c ∈ t'.columns ↔ (c ∈ t.columns ∧ c ∉ op.removed) ∨ c ∈ op.created := by
  have hs : op.source ∈ t.columns := source_mem_columns (edit?_eq_some_iff.mp h).1
  rw [mem_columns_edit h, mem_replacement_iff]
  by_cases hc : c = op.source
  · simp [hc, hs]
  · have hkept : c ∉ op.removed := mt eq_source_of_mem_removed hc
    simp [hc, hkept, or_comm]

/-- **Cells are kept**, under their own name or the new one, except in a column that is dropped or
set in a case. -/
theorem exists_column_of_edit (hu : t.Uniform) (h : op.edit? t = some t') (hc : c ∈ t.columns)
    (hdrop : op ≠ drop c) (hcase : ∀ style, op ≠ recase style c) :
    ∃ d ∈ t'.columns, (d = c ∨ op = rename c d) ∧
      List.Forall₂ (fun row row' => row'.get? d = row.get? c) t.rows t'.rows := by
  have ha : op.applies t := (edit?_eq_some_iff.mp h).1
  by_cases hw : c ∈ op.writes
  · obtain rfl | ⟨newName, rfl⟩ | ⟨style, rfl⟩ := eq_of_mem_writes ha hc hw
    · exact absurd rfl hdrop
    · refine ⟨newName, (mem_columns_of_edit h).mpr (.inr List.mem_cons_self), .inr rfl, ?_⟩
      obtain ⟨-, rfl⟩ := edit?_eq_some_iff.mp h
      refine forall₂_mapRows_iff.mpr fun row hrow => ?_
      have hkey : c ∈ row.keys := hu row hrow ▸ hc
      exact (get?_move newName newName hkey).trans (if_pos rfl)
    · exact absurd rfl (hcase style)
  · have hkept : c ∉ op.removed := mt mem_writes_of_removed hw
    refine ⟨c, (mem_columns_of_edit h).mpr (.inl ⟨hc, hkept⟩), .inl rfl, ?_⟩
    exact (agreeOff_of_edit h).imp fun row row' hrows => (hrows c hw).symm

/-- **Applicability and frame of an edit.** For any table, ragged or not, and any operation: there
is no edited table exactly if the first row lacks a column that is read, or has one that is created,
or a column is renamed to itself or split into one name twice. The edited table has as many rows,
and each of them holds the same under every name that is not written. If the rows share their
columns, they do so afterwards, the columns being those there were, without what is removed, and
what is created; and every column that is neither dropped nor set in a case has all its cells, under
its name or the new one. -/
theorem edit_applicability_and_frame (t : Table) (op : Operation) :
    (op.edit? t = none ↔
      (∃ c ∈ op.reads, c ∉ t.columns) ∨ (∃ c ∈ op.created, c ∈ t.columns) ∨
        (∃ column, op = .rename column column) ∨
          ∃ column delimiter name, op = .split column delimiter name name) ∧
    ∀ t', op.edit? t = some t' →
      t'.size = t.size ∧ List.Forall₂ (AgreeOff op.writes) t.rows t'.rows ∧
      (t.Uniform → t'.Uniform ∧
        (∀ c, c ∈ t'.columns ↔ (c ∈ t.columns ∧ c ∉ op.removed) ∨ c ∈ op.created) ∧
        ∀ c ∈ t.columns, op ≠ .drop c → (∀ style, op ≠ .recase style c) →
          ∃ d ∈ t'.columns, (d = c ∨ op = .rename c d) ∧
            List.Forall₂ (fun row row' => row'.get? d = row.get? c) t.rows t'.rows) := by
  refine ⟨edit?_eq_none_iff_exists, fun t' h => ⟨size_edit h, agreeOff_of_edit h, fun hu => ?_⟩⟩
  refine ⟨hu.edit h, fun c => mem_columns_of_edit h, fun c hc hdrop hcase => ?_⟩
  exact exists_column_of_edit hu h hc hdrop hcase

/-- The cells of a renamed column, one of them null, are found under the new name. -/
theorem renamed_cells_kept :
    let t := Table.ofRecords ["city", "name"] [[.text "Rome", .text "Ada"], [.null, .int 3]]
    let op : Operation := .rename "city" "town"
    let t' := t.mapRows op.editRow
    (op.edit? t = some t' ∧ t.Uniform ∧ "city" ∈ t.columns ∧ op ≠ .drop "city" ∧
      ∀ style, op ≠ .recase style "city") ∧
    t'.columns = ["name", "town"] ∧ t'.size = 2 ∧
      List.Forall₂ (AgreeOff op.writes) t.rows t'.rows ∧
        ∃ d ∈ t'.columns, (d = "city" ∨ op = .rename "city" d) ∧
          List.Forall₂ (fun row row' => row'.get? d = row.get? "city") t.rows t'.rows := by
  intro t op t'
  have h : op.edit? t = some t' := edit?_eq_some_iff.mpr ⟨by decide, rfl⟩
  have hu : t.Uniform := by decide
  have hc : "city" ∈ t.columns := by decide
  have hdrop : op ≠ .drop "city" := nofun
  have hcase : ∀ style, op ≠ .recase style "city" := nofun
  have ⟨hsize, hframe, hkept⟩ := (edit_applicability_and_frame t op).2 t' h
  exact ⟨⟨h, hu, hc, hdrop, hcase⟩, by decide, hsize, hframe, (hkept hu).2.2 "city" hc hdrop hcase⟩

end Table

end Tabular
