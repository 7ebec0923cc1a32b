import Tabular.Proofs.Edit
import Tabular.Proofs.Text.Title

/-!
# Setting a column in a case twice

The first time a column is set in a case, its numbers and truth values become texts, so the second
time there are texts only, and null. Whether a cell is then left as it is **is a matter of its text
alone** (`Row.recaseCell_recaseCell_iff`), and whether a table is, a matter of the cells under the
column, in whichever rows have it (`Table.recased_recased_iff`).

Capitals and small letters settle at once, hence so does every table
(`Table.capitals_and_smalls_settle`). A title need not. A table set in title case is settled exactly
if no word in the column begins with a character whose capital form has small letters to come, and
is settled the second time at the latest (`Table.title_settles_iff`).
-/

namespace Tabular

open Text

/-! ### Texts -/

namespace CaseStyle

variable {style : CaseStyle} {s : String}

theorem set_set_of_ne_title (h : style ≠ .title) (s : String) :
    style.set (style.set s) = style.set s := by
  cases style with
  | upper => simp only [set, String.toList_ofList, uppercase_uppercase]
  | lower => simp only [set, String.toList_ofList, lowercase_lowercase]
  | title => exact absurd rfl h

theorem set_title_iff :
    title.set (title.set s) = title.set s ↔
      ∀ word ∈ words s.toList, ∀ c ∈ word.head?, IsInitial c := by
  simp only [set, String.toList_ofList, String.ofList_inj]
  exact titlecase_titlecase_iff

theorem set_title_thrice (s : String) :
    title.set (title.set (title.set s)) = title.set (title.set s) := by
  simp only [set, String.toList_ofList, titlecase_thrice]

end CaseStyle

/-! ### Cells and rows -/

namespace Row

variable {style : CaseStyle} {column : String} {cell : Cell}

theorem toText_recaseCell (style : CaseStyle) (cell : Cell) :
    (recaseCell style cell).toText = style.set cell.toText := by
  cases cell with
  | null => exact ((style.set_eq_empty_iff "").mpr rfl).symm
  | _ => rfl

/-- A cell is settled exactly if its text is. -/
theorem recaseCell_recaseCell_iff :
    recaseCell style (recaseCell style cell) = recaseCell style cell ↔
      style.set (style.set cell.toText) = style.set cell.toText := by
  cases cell with
  | null =>
    have hempty : style.set "" = "" := (style.set_eq_empty_iff "").mpr rfl
    exact iff_of_true rfl (congrArg style.set hempty)
  | _ => exact iff_of_eq (Cell.text.injEq _ _)

/-- A row is settled exactly if the cell under the column, if there is one, is. -/
theorem recase_recase_iff {row : Row} :
    recase style column (recase style column row) = recase style column row ↔
      ∀ cell ∈ row.get? column, style.set (style.set cell.toText) = style.set cell.toText := by
  constructor
  · intro h cell hcell
    have hget := congrArg (fun row : Row => row.get? column) h
    simp only [recase, Keyed.get?_adjust, if_true, Option.mem_def.mp hcell, Option.map_some,
      Option.some.injEq] at hget
    exact recaseCell_recaseCell_iff.mp hget
  · intro h
    refine Keyed.ext_get? fun c => ?_
    by_cases hc : c = column
    · simp only [recase, Keyed.get?_adjust, hc, if_true, Option.map_map]
      exact Option.map_congr fun cell hcell => recaseCell_recaseCell_iff.mpr (h cell hcell)
    · simp only [recase, Keyed.get?_adjust, if_neg hc]

end Row

/-! ### Tables -/

namespace Table

open Operation

variable {t : Table} {style : CaseStyle} {column : String}

/-- The table with a column set in a case, in the rows that have it. -/
def recased (style : CaseStyle) (column : String) (t : Table) : Table :=
  t.mapRows (Row.recase style column)

theorem edit?_recase (h : t.hasColumn column) :
    (recase style column).edit? t = some (t.recased style column) :=
  edit?_of_applies h

theorem hasColumn_recased (h : t.hasColumn column) : (t.recased style column).hasColumn column := by
  rw [← mem_columns]
  exact (mem_columns_edit (edit?_recase h)).mpr (.inl (List.mem_singleton_self column))

/-- A table is settled exactly if every cell of the column is. -/
theorem recased_recased_iff :
    (t.recased style column).recased style column = t.recased style column ↔
      ∀ row ∈ t.rows, ∀ cell ∈ row.get? column,
        style.set (style.set cell.toText) = style.set cell.toText := by
  simp only [recased, mapRows, List.map_map, Table.mk.injEq, List.map_inj_left, Function.comp_apply,
    Row.recase_recase_iff]

/-- **Capitals and small letters settle at once.** Take any table, ragged or not, whatever cells it
has, and any column of it. If the column is set in capitals, or in small letters, then setting it
once more gives the same table. -/
theorem capitals_and_smalls_settle (h : t.hasColumn column) :
    (∃ once, (recase .upper column).edit? t = some once ∧
      (recase .upper column).edit? once = some once) ∧
    ∃ once, (recase .lower column).edit? t = some once ∧
      (recase .lower column).edit? once = some once := by
  have hsettled : ∀ style, style ≠ .title → ∃ once, (recase style column).edit? t = some once ∧
      (recase style column).edit? once = some once := by
    intro style hstyle
    refine ⟨t.recased style column, edit?_recase h, ?_⟩
    rw [edit?_recase (hasColumn_recased h), recased_recased_iff.mpr]
    exact fun row _ cell _ => CaseStyle.set_set_of_ne_title hstyle cell.toText
  exact ⟨hsettled .upper nofun, hsettled .lower nofun⟩

/-- Null, a truth value, a letter that grows and a row that lacks the column. -/
theorem grown_letter_settles :
    let t : Table := ⟨[Keyed.ofList [("a", .null)], Keyed.ofList [("a", .bool true), ("b", .int 1)],
      Keyed.ofList [("a", .text "ŉΑΣ")], Keyed.ofList [("b", .null)]]⟩
    t.hasColumn "a" ∧
    (∃ once, (recase .upper "a").edit? t = some once ∧
      (recase .upper "a").edit? once = some once) ∧
    ∃ once, (recase .lower "a").edit? t = some once ∧
      (recase .lower "a").edit? once = some once := by
  intro t
  have h : t.hasColumn "a" := by decide
  exact ⟨h, capitals_and_smalls_settle h⟩

/-- **A title is settled exactly if the capital forms that begin its words are.** For any text,
setting it in title case twice is setting it once exactly if no word of it begins with a character
whose capital form has, behind its first character, one with another small form; and from the second
time on nothing changes. The same holds of a column of a table, ragged or not, with such words in
none of its cells. -/
theorem title_settles_iff :
    (∀ s, (titlecase (titlecase s) = titlecase s ↔
        ∀ word ∈ words s, ∀ c ∈ word.head?, IsInitial c) ∧
      titlecase (titlecase (titlecase s)) = titlecase (titlecase s)) ∧
    ∀ (t : Table) (column : String), t.hasColumn column →
      ∃ once twice, (recase .title column).edit? t = some once ∧
        (recase .title column).edit? once = some twice ∧
        (twice = once ↔ ∀ row ∈ t.rows, ∀ cell ∈ row.get? column,
          ∀ word ∈ words cell.toText.toList, ∀ c ∈ word.head?, IsInitial c) ∧
        (recase .title column).edit? twice = some twice := by
  refine ⟨fun s => ⟨titlecase_titlecase_iff, titlecase_thrice s⟩, fun t column h => ?_⟩
  have honce : (t.recased .title column).hasColumn column := hasColumn_recased h
  refine ⟨_, _, edit?_recase h, edit?_recase honce, ?_, ?_⟩
  · simp only [recased_recased_iff, CaseStyle.set_title_iff]
  · rw [edit?_recase (hasColumn_recased honce), recased_recased_iff.mpr]
    intro row' hrow' cell' hcell'
    -- the cells of a column that was set once already
    obtain ⟨row, -, rfl⟩ := List.mem_map.mp hrow'
    rw [Row.recase, Keyed.get?_adjust, if_pos rfl] at hcell'
    obtain ⟨cell, -, rfl⟩ := Option.map_eq_some_iff.mp hcell'
    rw [Row.toText_recaseCell]
    exact CaseStyle.set_title_thrice cell.toText

/-- The two letters that a sharp s grows into are both capitals the first time only. -/
theorem sharp_s_not_settled :
    titlecase ['ß'] = ['S', 'S'] ∧ titlecase (titlecase ['ß']) = ['S', 's'] := by
  decide

/-- A sharp s at the beginning of the second word, next to a row without text. -/
theorem column_with_sharp_s :
    let t := Table.ofRecords ["a", "b"] [[.int 1, .null], [.text "in ßa", .null]]
    t.hasColumn "a" ∧ ∃ once twice, (recase .title "a").edit? t = some once ∧
      (recase .title "a").edit? once = some twice ∧ twice ≠ once ∧
      (recase .title "a").edit? twice = some twice := by
  intro t
  have h : t.hasColumn "a" := by decide
  obtain ⟨once, twice, honce, htwice, hsettled, hlast⟩ := title_settles_iff.2 t "a" h
  refine ⟨h, once, twice, honce, htwice, fun heq => ?_, hlast⟩
  have hwords : words "in ßa".toList = [['i', 'n'], ['ß', 'a']] := by decide
  have hinitial : IsInitial 'ß' :=
    hsettled.mp heq _ (List.mem_cons_of_mem _ List.mem_cons_self) (.text "in ßa") rfl ['ß', 'a']
      (hwords ▸ List.mem_cons_of_mem _ List.mem_cons_self) 'ß' rfl
  exact absurd hinitial (by decide)

end Table

end Tabular
