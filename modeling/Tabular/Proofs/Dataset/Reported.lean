import Tabular.Proofs.Dataset.Reading
import Tabular.Proofs.Encoding
import Tabular.Proofs.Json.Written
import Tabular.Proofs.Keyed
import Tabular.Workspace

/-!
# Reported tables are read back

The record of a workspace begins with its table, written as an array of objects. Cut out of the
report, this text is a JSON source of its own, and **reading it gives the table that was reported**,
whatever its columns are called and whatever its texts look like. Writing and reading are separate
code. They fit together because a cell is written as the document that stands for it alone
(`Cell.ofJson_toJson`), and because the entries of a row are written by increasing name, without
repetition, so that collecting them again gives the row (`Dataset.rowOfMembers_entries`).

Doubles are left out, whose digits are another matter. Rows may be ragged or empty: the headers are
those of the first row, as always.
-/

namespace Tabular

open Encoding
open Json (Layout)

/-! ### Cells -/

namespace Cell

/-- The cell is no double. -/
def Exact : Cell → Prop
  | float _ => False
  | _ => True

instance : ∀ c : Cell, Decidable c.Exact
  | float _ => .isFalse id
  | null | bool _ | int _ | text _ => .isTrue trivial

/-- An integer of 64 bits is a cell of that integer, the least and the greatest included. -/
theorem ofInt_toInt (n : Int64) : ofInt n.toInt = int n := by
  have hrange : -2 ^ 63 ≤ n.toInt ∧ n.toInt < 2 ^ 63 := ⟨n.le_toInt, n.toInt_lt⟩
  have hn : Number.toInt64? n.toInt = some n := by
    rw [Number.toInt64?, if_pos hrange, Int64.ofInt_toInt]
  rw [ofInt, hn]

/-- The document of a cell stands for that cell. -/
theorem ofJson_toJson {c : Cell} (h : c.Exact) : ofJson c.toJson = c := by
  cases c with
  | int n => exact ofInt_toInt n
  | float => exact h.elim
  | null | bool | text => rfl

theorem plain_toJson {levels : Nat} {c : Cell} (h : c.Exact) : Json.Plain levels c.toJson := by
  cases c with
  | null => exact .null
  | bool => exact .bool
  | int n => exact .int n.le_toInt (Int.lt_trans n.toInt_lt (by decide))
  | float => exact h.elim
  | text => exact .text

end Cell

/-! ### Tables -/

namespace Table

variable {t : Table} {row : Row}

/-- No cell of the table is a double. -/
def Exact (t : Table) : Prop := ∀ row ∈ t.rows, ∀ e ∈ row.entries, e.2.Exact

instance : Decidable t.Exact :=
  inferInstanceAs (Decidable (∀ row ∈ t.rows, ∀ e ∈ row.entries, e.2.Exact))

/-- A row is written with each of its names once. -/
theorem plain_rowJson {levels : Nat} (h : ∀ e ∈ row.entries, e.2.Exact) :
    Json.Plain (levels + 1) (rowJson row) := by
  refine .object ?_ (List.forall_mem_map.mpr fun e he => Cell.plain_toJson (h e he))
  rw [List.map_map]
  exact row.keys_nodup

theorem Exact.plain_toJson {levels : Nat} (h : t.Exact) : Json.Plain (levels + 2) t.toJson :=
  .array (List.forall_mem_map.mpr fun row hrow => plain_rowJson (h row hrow))

end Table

namespace Dataset

variable {t : Table} {row : Row} {given : Option UInt8}

/-- **A row is collected from its entries again**, each cell from its document. -/
theorem rowOfMembers_entries (h : ∀ e ∈ row.entries, e.2.Exact) :
    rowOfMembers (row.entries.map fun e => (e.1, e.2.toJson)) = row := by
  have hcells : (row.entries.map fun e => (e.1, e.2.toJson)).map (fun m => (m.1, Cell.ofJson m.2)) =
      row.entries := by
    rw [List.map_map]
    refine (List.map_congr_left fun e he => ?_).trans (List.map_id _)
    rw [Function.comp_apply, Cell.ofJson_toJson (h e he), id]
  rw [rowOfMembers, hcells, Keyed.ofList_entries]

section Written

variable {write : Nat → Json → List Char} {gap : Nat → List Char} {colon : List Char}

/-- An array is written with its bracket first, so its text does not begin with a mark. -/
theorem head?_write_array (hw : Layout write gap colon) (level : Nat) (items : List Json) :
    (write level (.array items)).head? = some '[' := by
  by_cases hne : items = []
  · rw [hne, hw.empty_array]
    rfl
  · rw [hw.array level items hne]
    rfl

/-- A table that was written in any layout is read as itself, with the columns of its first row. -/
theorem readJson_write (hw : Layout write gap colon) (h : t.Exact) (level : Nat) :
    readJson ⟨given, .utf8, none⟩ (utf8Bytes (String.ofList (write level t.toJson))) =
      .ok ⟨t.columns, t⟩ := by
  have hmark : (String.ofList (write level t.toJson)).toList.head? ≠ some '\uFEFF' := by
    rw [String.toList_ofList, Table.toJson, head?_write_array hw]
    decide
  have hread : Json.ofText? (String.ofList (write level t.toJson)).toList =
      some (.array (t.rows.map Table.rowJson)) := by
    have hplain : Json.Plain 127 t.toJson := h.plain_toJson
    rw [String.toList_ofList]
    exact hw.ofText?_write hplain level
  have hobjects : t.rows.map Table.rowJson =
      (t.rows.map fun row => row.entries.map fun e => (e.1, e.2.toJson)).map Json.object := by
    rw [List.map_map]
    rfl
  refine readJson_eq_ok_iff.mpr ⟨_, _, _, decode?_utf8Bytes hmark, hread, hobjects, ?_⟩
  have hrows : (t.rows.map fun row => row.entries.map fun e => (e.1, e.2.toJson)).map rowOfMembers =
      t.rows := by
    rw [List.map_map]
    exact (List.map_congr_left fun row hrow => rowOfMembers_entries (h row hrow)).trans
      (List.map_id _)
  rw [hrows]
  obtain ⟨rows⟩ := t
  cases rows with
  | nil => rfl
  | cons first rows => simp [Table.columns, Keyed.keys]

end Written

/-! ### Reports -/

/-- The text of a table where it stands in a report: one step further in. -/
def reportedText (t : Table) : String := String.ofList (t.toJson.indented 1)

/-- The report on a workspace begins with its table. -/
theorem exists_toLines_eq (w : Workspace) :
    ∃ rest, w.toJson.toLines = "\x7b\n  \"table\": " ++ reportedText w.table ++ ",\n" ++ rest := by
  obtain ⟨m, ms, hw⟩ : ∃ m ms, w.toJson = .object (("table", w.table.toJson) :: m :: ms) :=
    ⟨_, _, rfl⟩
  have hname : Json.stringText "table" = "\"table\"".toList := by decide
  refine ⟨String.ofList (' ' :: ' ' :: Json.separated (',' :: Json.newLine 1)
    (Json.indentedMembers 1 (m :: ms)) ++ Json.newLine 0 ++ ['\x7d']), String.toList_inj.mp ?_⟩
  simp [hw, Json.toLines, Json.indented, Json.indentedMembers, Json.separated, Json.newLine,
    reportedText, hname]

/-- **A reported table can be fed back.** Take any table without doubles, its rows ragged or empty,
its names and texts made of any characters. The JSON report on every workspace with that table has
its text right at the beginning; and this text, like the two written forms of the table by itself,
is read, without a limit, as the same table, with its columns as the headers. -/
theorem reported_table_reads_back (t : Table) (given : Option UInt8) (h : t.Exact) :
    (∀ w : Workspace, w.table = t → ∃ rest,
      w.toJson.toLines = "\x7b\n  \"table\": " ++ reportedText t ++ ",\n" ++ rest) ∧
    ∀ text ∈ [reportedText t, t.toJson.toText, t.toJson.toLines],
      readJson ⟨given, .utf8, none⟩ (utf8Bytes text) = .ok ⟨t.columns, t⟩ := by
  refine ⟨fun w hw => hw ▸ exists_toLines_eq w, ?_⟩
  simp only [List.forall_mem_cons]
  exact ⟨readJson_write Json.indented_layout h 1, readJson_write Json.compact_layout h 0,
    readJson_write Json.indented_layout h 0, List.forall_mem_nil _⟩

/-- Ragged rows, one of them empty, with quotes and backslashes in their names, texts that look like
other cells, and the least and the greatest integer. -/
theorem ragged_rows_fed_back :
    let t : Table := ⟨[Keyed.ofList [("b", .int Int64.minValue), ("a\"\\", .text "null")], ∅,
      Keyed.ofList [("", .bool true), ("é😀", .text "12\x01\n"), ("b", .int Int64.maxValue)]]⟩
    t.Exact ∧ t.columns = ["a\"\\", "b"] ∧
      readJson ⟨none, .utf8, none⟩ (utf8Bytes (reportedText t)) = .ok ⟨t.columns, t⟩ := by
  intro t
  have h : t.Exact := by decide
  have hcolumns : t.columns = ["a\"\\", "b"] := by decide
  exact ⟨h, hcolumns, (reported_table_reads_back t none h).2 _ List.mem_cons_self⟩

end Dataset

end Tabular
