import Tabular.Proofs.Edit.Frame
import Tabular.Proofs.Text.Cut

/-!
# Splitting and merging

A split divides the text of a column, and a merge joins the texts of two, so each should undo the
other. **They do so in exactly the rows where the delimiter allows it.** Merging the parts of a
split gives back the text where the delimiter occurs in it; elsewhere the split has dropped the last
character, and no delimiter brings it back. Splitting what was merged gives back the two texts where
no occurrence of the delimiter starts within the first one, be it whole or only with the help of the
delimiter behind it.

What happens in one row is a matter of texts (`Proofs/Text/Cut`). Between the two operations the
columns must still be there, and those to come must still be free, which is what the frame of an
edit says. A row that lacks a column counts as having an empty text there, so rows may be ragged.
-/

namespace Tabular

/-! ### Rows -/

namespace Row

variable {row : Row} {c column other d first second target : String} {s : String}

theorem textAt_of_get? (h : row.get? c = some (.text s)) : textAt row c = s := by
  rw [textAt, h]
  rfl

/-- The parts of the text under a column at the first delimiter. -/
def parts (row : Row) (column d : String) : List Char × List Char :=
  Text.splitFirst d.toList (textAt row column).toList

theorem get?_split_first (hne : first ≠ second) (row : Row) :
    (split column d first second row).get? first =
      some (.text (String.ofList (parts row column d).1)) := by
  rw [split, Keyed.get?_insert, if_neg hne, Keyed.get?_insert, if_pos rfl]
  rfl

theorem get?_split_second (row : Row) : (split column d first second row).get? second =
    some (.text (String.ofList (parts row column d).2)) := by
  rw [split, Keyed.get?_insert, if_pos rfl]
  rfl

theorem get?_merge (row : Row) : (merge column other d target row).get? target =
    some (.text (textAt row column ++ d ++ textAt row other)) := by
  rw [merge, Keyed.get?_insert, if_pos rfl]

/-- The row has the two parts of the text that stands under a column of another row: what precedes
and what follows the first delimiter, or all but the last character and nothing. -/
def Divided (d column first second : String) (row row' : Row) : Prop :=
  ∃ head tail : String, row'.get? first = some (.text head) ∧ row'.get? second = some (.text tail) ∧
    (d.toList <:+: (textAt row column).toList →
      Text.FirstCut d.toList (textAt row column).toList head.toList tail.toList) ∧
    (¬ d.toList <:+: (textAt row column).toList →
      head.toList = (textAt row column).toList.dropLast ∧ tail = "")

/-- The row has the text that stands under a column of another row exactly if the delimiter occurs
in that text. -/
def Rejoined (d column target : String) (row row' : Row) : Prop :=
  row'.get? target = some (.text (textAt row column)) ↔ d.toList <:+: (textAt row column).toList

/-- The row has the texts that stand under two columns of another row exactly if no occurrence of
the delimiter in the left text and the delimiter behind it starts within the left text. -/
def TakenApart (d left right first second : String) (row row' : Row) : Prop :=
  (row'.get? first = some (.text (textAt row left)) ∧
      row'.get? second = some (.text (textAt row right))) ↔
    ∀ i < (textAt row left).toList.length,
      ¬ d.toList <+: ((textAt row left).toList ++ d.toList).drop i

/-- **A split divides.** -/
theorem divided_split (hne : first ≠ second) (row : Row) :
    Divided d column first second row (split column d first second row) := by
  refine ⟨_, _, get?_split_first hne row, get?_split_second row, fun h => ?_, fun h => ?_⟩
  · simp only [String.toList_ofList]
    exact Text.firstCut_splitFirst h
  · rw [parts, Text.splitFirst_of_not_infix h, String.toList_ofList]
    exact ⟨rfl, rfl⟩

/-- **A merge of the parts rejoins.** -/
theorem rejoined_merge_split (hne : first ≠ second) (row : Row) :
    Rejoined d column target row
      (merge first second d target (split column d first second row)) := by
  rw [Rejoined, get?_merge, textAt_of_get? (get?_split_first hne row),
    textAt_of_get? (get?_split_second row), ← Text.splitFirst_rejoined_iff, Option.some_inj,
    Cell.text.injEq, ← String.toList_inj]
  simp only [String.toList_append, String.toList_ofList, parts]

/-- **A split of what was merged takes it apart.** -/
theorem takenApart_split_merge (hne : first ≠ second) (row : Row) :
    TakenApart d column other first second row
      (split target d first second (merge column other d target row)) := by
  have htext : textAt (merge column other d target row) target = _ :=
    textAt_of_get? (get?_merge row)
  rw [TakenApart, ← Text.splitFirst_joined_iff (r := (textAt row other).toList),
    get?_split_first hne, get?_split_second, parts, htext]
  simp only [Option.some_inj, Cell.text.injEq, ← String.toList_inj, String.toList_append,
    String.toList_ofList, Prod.ext_iff]

end Row

/-! ### Tables -/

namespace Table

open Operation

variable {t : Table} {d column other first second target : String}

theorem mapRows_mapRows (f g : Row → Row) : (t.mapRows f).mapRows g = t.mapRows (g ∘ f) := by
  rw [mapRows, mapRows, List.map_map, mapRows]

/-- A column can be split into distinct free names. -/
theorem edit?_split (hcolumn : column ∈ t.columns) (hne : first ≠ second)
    (hfirst : first ∉ t.columns) (hsecond : second ∉ t.columns) :
    (split column d first second).edit? t = some (t.mapRows (Row.split column d first second)) := by
  refine edit?_of_applies (applies_iff.mpr ?_)
  simp [reads, created, added, source, hcolumn, hne, hfirst, hsecond]

/-- Two columns can be merged into a free name. -/
theorem edit?_merge (hcolumn : column ∈ t.columns) (hother : other ∈ t.columns)
    (htarget : target ∉ t.columns) :
    (merge column other d target).edit? t = some (t.mapRows (Row.merge column other d target)) := by
  refine edit?_of_applies (applies_iff.mpr ?_)
  simp [reads, created, added, hcolumn, hother, htarget]

/-- A column can be split into free names, and the parts be merged into another. The split divides
every row, and the merge rejoins it where the delimiter occurs. -/
theorem exists_split_merge (hcolumn : column ∈ t.columns) (hn : [first, second, target].Nodup)
    (hfree : ∀ c ∈ [first, second, target], c ∉ t.columns) :
    ∃ divided rejoined, (split column d first second).edit? t = some divided ∧
      (merge first second d target).edit? divided = some rejoined ∧
      List.Forall₂ (Row.Divided d column first second) t.rows divided.rows ∧
      List.Forall₂ (Row.Rejoined d column target) t.rows rejoined.rows := by
  obtain ⟨hne, hfirst, hsecond⟩ : first ≠ second ∧ first ≠ target ∧ second ≠ target := by
    simpa [and_assoc] using hn
  obtain ⟨hfirst', hsecond', htarget, -⟩ : _ ∧ _ ∧ _ ∧ _ := by
    simpa only [List.forall_mem_cons] using hfree
  have hsplit := edit?_split (d := d) hcolumn hne hfirst' hsecond'
  have hcolumns : ∀ c, c ∈ (t.mapRows (Row.split column d first second)).columns ↔
      c ∈ t.columns ∨ c ∈ [first, second] := fun c => by
    simpa [removed, created, added] using mem_columns_of_edit (c := c) hsplit
  have hmerge := edit?_merge (d := d) ((hcolumns first).mpr (.inr (by simp)))
    ((hcolumns second).mpr (.inr (by simp)))
    (mt (hcolumns target).mp (by simp [htarget, hfirst.symm, hsecond.symm]))
  refine ⟨_, _, hsplit, hmerge, ?_, ?_⟩
  · exact forall₂_mapRows_iff.mpr fun row _ => Row.divided_split hne row
  · rw [mapRows_mapRows]
    exact forall₂_mapRows_iff.mpr fun row _ => Row.rejoined_merge_split hne row

/-- Two columns can be merged into a free name, and that column be split into others. The split
takes a row apart where no occurrence of the delimiter starts within the first text. -/
theorem exists_merge_split (hcolumn : column ∈ t.columns) (hother : other ∈ t.columns)
    (hn : [target, first, second].Nodup) (hfree : ∀ c ∈ [target, first, second], c ∉ t.columns) :
    ∃ merged divided, (merge column other d target).edit? t = some merged ∧
      (split target d first second).edit? merged = some divided ∧
      List.Forall₂ (Row.TakenApart d column other first second) t.rows divided.rows := by
  obtain ⟨hfirst, hsecond, hne⟩ : target ≠ first ∧ target ≠ second ∧ first ≠ second := by
    simpa [and_assoc] using hn
  obtain ⟨htarget, hfirst', hsecond', -⟩ : _ ∧ _ ∧ _ ∧ _ := by
    simpa only [List.forall_mem_cons] using hfree
  have hmerge := edit?_merge (d := d) hcolumn hother htarget
  have hcolumns : ∀ c, c ∈ (t.mapRows (Row.merge column other d target)).columns ↔
      c ∈ t.columns ∨ c = target := fun c => by
    simpa [removed, created, added] using mem_columns_of_edit (c := c) hmerge
  have hsplit := edit?_split (d := d) ((hcolumns target).mpr (.inr rfl)) hne
    (mt (hcolumns first).mp (by simp [hfirst', hfirst.symm]))
    (mt (hcolumns second).mp (by simp [hsecond', hsecond.symm]))
  refine ⟨_, _, hmerge, hsplit, ?_⟩
  rw [mapRows_mapRows]
  exact forall₂_mapRows_iff.mpr fun row _ => Row.takenApart_split_merge hne row

/-- **Split and merge are inverse exactly where they should be.** Take any table, any delimiter,
empty or not, and names that are distinct and free. A column can be split and its parts then merged
with the same delimiter: the split divides each row at the first delimiter, and the merge gives back
the texts in which the delimiter occurs, and no others. And two columns can be merged and what
results then split with the same delimiter: this gives back the two texts of a row exactly if no
occurrence of the delimiter starts within the first of them. -/
theorem split_and_merge (t : Table) (d : String) :
    (∀ column first second target, column ∈ t.columns → [first, second, target].Nodup →
      (∀ c ∈ [first, second, target], c ∉ t.columns) →
      ∃ divided rejoined, (split column d first second).edit? t = some divided ∧
        (merge first second d target).edit? divided = some rejoined ∧
        List.Forall₂ (Row.Divided d column first second) t.rows divided.rows ∧
        List.Forall₂ (Row.Rejoined d column target) t.rows rejoined.rows) ∧
    ∀ left right target first second, left ∈ t.columns → right ∈ t.columns →
      [target, first, second].Nodup → (∀ c ∈ [target, first, second], c ∉ t.columns) →
      ∃ merged divided, (merge left right d target).edit? t = some merged ∧
        (split target d first second).edit? merged = some divided ∧
        List.Forall₂ (Row.TakenApart d left right first second) t.rows divided.rows := by
  constructor
  · intro column first second target hcolumn hn hfree
    exact exists_split_merge hcolumn hn hfree
  · intro left right target first second hleft hright hn hfree
    exact exists_merge_split hleft hright hn hfree

/-- A delimiter that overlaps itself, in a text that has it, in one that has half of it at its end,
and next to a cell that is no text. -/
theorem overlapping_delimiter_split_and_merged :
    let t := Table.ofRecords ["id", "name"] [[.int 1, .text "caaab"], [.null, .text "xa"]]
    let d := "aa"
    ("name" ∈ t.columns ∧ "id" ∈ t.columns ∧ ["f", "s", "m"].Nodup ∧ ["m", "f", "s"].Nodup ∧
      (∀ c ∈ ["f", "s", "m"], c ∉ t.columns) ∧ ∀ c ∈ ["m", "f", "s"], c ∉ t.columns) ∧
    (∃ divided rejoined, (split "name" d "f" "s").edit? t = some divided ∧
      (merge "f" "s" d "m").edit? divided = some rejoined ∧
      List.Forall₂ (Row.Divided d "name" "f" "s") t.rows divided.rows ∧
      List.Forall₂ (Row.Rejoined d "name" "m") t.rows rejoined.rows) ∧
    ∃ merged divided, (merge "name" "id" d "m").edit? t = some merged ∧
      (split "m" d "f" "s").edit? merged = some divided ∧
      List.Forall₂ (Row.TakenApart d "name" "id" "f" "s") t.rows divided.rows := by
  intro t d
  have hname : "name" ∈ t.columns := by decide
  have hid : "id" ∈ t.columns := by decide
  have hn : ["f", "s", "m"].Nodup := by decide
  have hn' : ["m", "f", "s"].Nodup := by decide
  have hfree : ∀ c ∈ ["f", "s", "m"], c ∉ t.columns := by decide
  have hfree' : ∀ c ∈ ["m", "f", "s"], c ∉ t.columns := by decide
  exact ⟨⟨hname, hid, hn, hn', hfree, hfree'⟩,
    (split_and_merge t d).1 "name" "f" "s" "m" hname hn hfree,
    (split_and_merge t d).2 "name" "id" "m" "f" "s" hname hid hn' hfree'⟩

end Table

end Tabular
