import Tabular.Proofs.Edit.Rejoining
import Tabular.Proofs.Text.Substring

/-!
# Taking parts of a column

A part of a column's text is taken **from one position up to another**, whatever the text is and
wherever the positions lie: those below zero count as zero, and what lies behind the text is not
there (`Row.excerpted_substring`). So a column can be taken apart at any position and put together
again (`Row.recovered_merge`), as long as its texts are not so long that no position of 64 bits
reaches their end.
-/

namespace Tabular

/-! ### Rows -/

namespace Row

variable {row : Row} {c column target head tail joined : String} {first past k : Int64}

/-- The row has the characters that stand, in the text under a column of another row, at the
positions from `first` up to `past`, where positions below zero count as zero. -/
def Excerpted (column : String) (first past : Int64) (target : String) (row row' : Row) : Prop :=
  ∃ part : String, row'.get? target = some (.text part) ∧
    part.toList = Text.charsAt (fun i => max first.toInt 0 ≤ i ∧ i < max past.toInt 0)
      (textAt row column).toList ∧
    (max past.toInt 0 ≤ max first.toInt 0 ∨ (textAt row column).length ≤ max first.toInt 0 →
      part = "")

/-- The row has the text that stands under a column of another row exactly if a position of 64 bits
reaches its end. -/
def Recovered (column joined : String) (row row' : Row) : Prop :=
  row'.get? joined = some (.text (textAt row column)) ↔
    (textAt row column).length ≤ Int64.maxValue.toInt

theorem get?_substring (row : Row) : (substring column first past target row).get? target =
    some (.text (String.ofList
      (Text.substring (textAt row column).toList (position first) (position past)))) := by
  rw [substring, Keyed.get?_insert, if_pos rfl]

theorem textAt_substring_of_ne (h : c ≠ target) (row : Row) :
    textAt (substring column first past target row) c = textAt row c := by
  rw [textAt, substring, Keyed.get?_insert, if_neg h, textAt]

theorem position_le_iff (n : Int64) (i : Nat) : position n ≤ i ↔ max n.toInt 0 ≤ i := by
  rw [position]
  omega

theorem lt_position_iff (n : Int64) (i : Nat) : i < position n ↔ i < max n.toInt 0 := by
  rw [position]
  omega

/-- **The new cell holds the characters between the two positions.** -/
theorem excerpted_substring (row : Row) :
    Excerpted column first past target row (substring column first past target row) := by
  refine ⟨_, get?_substring row, ?_, fun h => ?_⟩
  · rw [String.toList_ofList, Text.substring_eq_charsAt]
    exact Text.charsAt_congr (fun i => and_congr (position_le_iff first i) (lt_position_iff past i)) _
  · have hempty : position past ≤ position first ∨
        (textAt row column).toList.length ≤ position first := by
      rw [String.length_toList, position, position]
      omega
    rw [Text.substring_eq_nil hempty]

/-- **Two parts that meet join to the text.** -/
theorem recovered_merge (hhead : column ≠ head) (hne : head ≠ tail) (row : Row) :
    Recovered column joined row
      (merge head tail "" joined (substring column k .maxValue tail
        (substring column 0 k head row))) := by
  have hle : position k ≤ position .maxValue := Int.toNat_le_toNat (k.toInt_le)
  have htext : textAt (substring column 0 k head row) column = textAt row column :=
    textAt_substring_of_ne hhead row
  have hfirst : textAt (substring column 0 k head row) head = String.ofList _ :=
    textAt_of_get? (get?_substring row)
  have hzero : position 0 = 0 := rfl
  rw [Recovered, get?_merge, textAt_substring_of_ne hne, hfirst, textAt_of_get? (get?_substring _),
    htext, Option.some_inj, Cell.text.injEq, ← String.toList_inj]
  simp only [String.toList_append, String.toList_ofList, String.toList_empty, List.append_nil, hzero,
    Text.substring_append_substring hle, List.take_eq_self_iff, String.length_toList]
  exact Int.ofNat_le.symm

end Row

/-! ### Tables -/

namespace Table

open Operation

variable {t t' : Table} {column target head tail joined : String} {first past k : Int64}

/-- A part of a column can be taken into a free name. -/
theorem edit?_substring (hcolumn : column ∈ t.columns) (htarget : target ∉ t.columns) :
    (substring column first past target).edit? t =
      some (t.mapRows (Row.substring column first past target)) := by
  refine edit?_of_applies (applies_iff.mpr ?_)
  simp [reads, created, added, source, hcolumn, htarget]

theorem mem_columns_substring {c : String} (hcolumn : column ∈ t.columns)
    (htarget : target ∉ t.columns) :
    c ∈ (t.mapRows (Row.substring column first past target)).columns ↔
      c ∈ t.columns ∨ c = target := by
  simpa [removed, created, added] using
    mem_columns_of_edit (c := c) (edit?_substring hcolumn htarget)

/-- A column can be taken apart at a position into free names, and the parts be merged into another.
A merge of the parts that meet there recovers the text. -/
theorem exists_parts_merge (k : Int64) (hcolumn : column ∈ t.columns)
    (hn : [head, tail, joined].Nodup) (hfree : ∀ c ∈ [head, tail, joined], c ∉ t.columns) :
    ∃ headed parted merged, (substring column 0 k head).edit? t = some headed ∧
      (substring column k .maxValue tail).edit? headed = some parted ∧
      (merge head tail "" joined).edit? parted = some merged ∧
      List.Forall₂ (Row.Recovered column joined) t.rows merged.rows := by
  obtain ⟨hne, hhead, htail⟩ : head ≠ tail ∧ head ≠ joined ∧ tail ≠ joined := by
    simpa [and_assoc] using hn
  obtain ⟨hhead', htail', hjoined, -⟩ : _ ∧ _ ∧ _ ∧ _ := by
    simpa only [List.forall_mem_cons] using hfree
  have hheaded : ∀ c, c ∈ (t.mapRows (Row.substring column 0 k head)).columns ↔
      c ∈ t.columns ∨ c = head := fun c => mem_columns_substring hcolumn hhead'
  have hcolumn' := (hheaded column).mpr (.inl hcolumn)
  have htail'' := mt (hheaded tail).mp (by simp [htail', hne.symm])
  have hparted : ∀ c, c ∈ ((t.mapRows (Row.substring column 0 k head)).mapRows
      (Row.substring column k .maxValue tail)).columns ↔ (c ∈ t.columns ∨ c = head) ∨ c = tail :=
    fun c => (mem_columns_substring hcolumn' htail'').trans (or_congr_left (hheaded c))
  have hmerge := edit?_merge (d := "") ((hparted head).mpr (.inl (.inr rfl)))
    ((hparted tail).mpr (.inr rfl))
    (mt (hparted joined).mp (by simp [hjoined, hhead.symm, htail.symm]))
  refine ⟨_, _, _, edit?_substring hcolumn hhead', edit?_substring hcolumn' htail'', hmerge, ?_⟩
  rw [mapRows_mapRows, mapRows_mapRows]
  have hcolumnhead : column ≠ head := fun heq => hhead' (heq ▸ hcolumn)
  exact forall₂_mapRows_iff.mpr fun row _ => Row.recovered_merge hcolumnhead hne row

/-- **A part holds the characters between two positions.** Take any table, ragged or not, and any
column of it. Whenever a part of the column is taken, every row gets the characters of its text at
the positions from the first, or zero, up to the second one, and the empty text if there are none.
And a column that is taken apart at some position into names that are distinct and free can be put
together again without a joint: this gives back the text of a row exactly if its length is a number
of 64 bits with sign. -/
theorem parts_by_position (t : Table) (column : String) :
    (∀ first past target t', (substring column first past target).edit? t = some t' →
      List.Forall₂ (Row.Excerpted column first past target) t.rows t'.rows) ∧
    ∀ k head tail joined, column ∈ t.columns → [head, tail, joined].Nodup →
      (∀ c ∈ [head, tail, joined], c ∉ t.columns) →
      ∃ headed parted merged, (substring column 0 k head).edit? t = some headed ∧
        (substring column k .maxValue tail).edit? headed = some parted ∧
        (merge head tail "" joined).edit? parted = some merged ∧
        List.Forall₂ (Row.Recovered column joined) t.rows merged.rows := by
  constructor
  · intro first past target t' h
    obtain ⟨-, rfl⟩ := edit?_eq_some_iff.mp h
    exact forall₂_mapRows_iff.mpr fun row _ => Row.excerpted_substring row
  · intro k head tail joined hcolumn hn hfree
    exact exists_parts_merge k hcolumn hn hfree

/-- A position below zero, characters of two and four bytes, and a row that lacks the column. -/
theorem wide_characters_parted :
    let t : Table := ⟨[Keyed.ofList [("a", .text "é😀x")], Keyed.ofList [("b", .int 7)]]⟩
    let t' := t.mapRows (Row.substring "a" (-3) 2 "p")
    ((substring "a" (-3) 2 "p").edit? t = some t' ∧ "a" ∈ t.columns ∧ ["h", "t", "j"].Nodup ∧
      ∀ c ∈ ["h", "t", "j"], c ∉ t.columns) ∧
    List.Forall₂ (Row.Excerpted "a" (-3) 2 "p") t.rows t'.rows ∧
    ∃ headed parted merged, (substring "a" 0 1 "h").edit? t = some headed ∧
      (substring "a" 1 .maxValue "t").edit? headed = some parted ∧
      (merge "h" "t" "" "j").edit? parted = some merged ∧
      List.Forall₂ (Row.Recovered "a" "j") t.rows merged.rows := by
  intro t t'
  have h : (substring "a" (-3) 2 "p").edit? t = some t' := edit?_eq_some_iff.mpr ⟨by decide, rfl⟩
  have hcolumn : "a" ∈ t.columns := by decide
  have hn : ["h", "t", "j"].Nodup := by decide
  have hfree : ∀ c ∈ ["h", "t", "j"], c ∉ t.columns := by decide
  exact ⟨⟨h, hcolumn, hn, hfree⟩, (parts_by_position t "a").1 (-3) 2 "p" t' h,
    (parts_by_position t "a").2 1 "h" "t" "j" hcolumn hn hfree⟩

end Table

end Tabular
