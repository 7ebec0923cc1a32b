import Tabular.Proofs.Inference
import Tabular.Proofs.Number.Reading

/-!
# The type of a column by the forms of its values

A value is an integer, a number or a truth value by what it is or, if it is a text, by what it
reads as apart from the blanks around it. The tally puts each value into one class, in a fixed order
of precedence. That the precedence does not matter is what makes the types a matter of the values
alone: an integer is a number, and **no word for a truth value is one** (`Cell.IsTruth.not_isNumber`).
So the type of a column can be told from what all of its values are (`Table.inferType_eq_ite`), in
whatever order they come, and missing ones do not count.
-/

namespace Tabular

/-! ### Forms of texts -/

namespace Kind

variable {s : List Char} {t : String}

/-- No word for a truth value reads as a number, in whatever case it is written. -/
theorem read_eq_none_of_isBooleanWord (h : isBooleanWord s) :
    Number.readInt64? s = none ∧ Number.readFloat? s = none := by
  have hwords : ∀ word ∈ booleanWords,
      Number.readInt64? word.toList = none ∧ (Number.readFloat? word.toList).isNone := by decide
  have hword := hwords _ (List.contains_iff_mem.mp h)
  rwa [String.toList_ofList, Number.readInt64?_toAsciiSmall, Number.readFloat?_toAsciiSmall,
    Option.isNone_iff_eq_none] at hword

theorem isBooleanWord_iff :
    isBooleanWord s ↔ ∃ word ∈ booleanWords, Text.toAsciiSmall s = word.toList := by
  rw [isBooleanWord, List.contains_iff_mem]
  constructor
  · intro h
    exact ⟨_, h, String.toList_ofList.symm⟩
  · rintro ⟨word, hword, heq⟩
    rwa [heq, String.ofList_toList]

theorem isSome_finite?_iff :
    (finite? s).isSome ↔ ∃ x, Number.readFloat? s = some x ∧ x.isFinite := by
  rw [finite?, Option.isSome_filter, Option.any_eq_true]

theorem ofText_eq_integer_iff :
    ofText t = .integer ↔ (Number.readInt64? (Text.trim t.toList)).isSome := by
  simp only [ofText]
  split_ifs with hint <;> simp [*]

theorem isNumber_ofText_iff : (ofText t).isNumber ↔
    (Number.readInt64? (Text.trim t.toList)).isSome ∨ (finite? (Text.trim t.toList)).isSome := by
  simp only [ofText]
  split_ifs <;> simp [isNumber, *]

theorem ofText_eq_boolean_iff : ofText t = .boolean ↔ isBooleanWord (Text.trim t.toList) := by
  constructor
  · intro h
    simp only [ofText] at h
    split_ifs at h
    assumption
  · intro h
    obtain ⟨hint, hfloat⟩ := read_eq_none_of_isBooleanWord h
    simp [ofText, finite?, hint, hfloat, h]

end Kind

/-! ### Forms of values -/

namespace Cell

/-- The cell is an integer, or a text that reads as one. -/
def IsInteger : Cell → Prop
  | int _ => True
  | text s => (Number.readInt64? (Text.trim s.toList)).isSome
  | _ => False

/-- The cell is an integer or a double, or a text that reads as an integer or as a finite double. -/
def IsNumber : Cell → Prop
  | int _ | float _ => True
  | text s => (Number.readInt64? (Text.trim s.toList)).isSome ∨
      ∃ x, Number.readFloat? (Text.trim s.toList) = some x ∧ x.isFinite
  | _ => False

/-- The cell is a truth value, or a text that is one of the words for them in some case. -/
def IsTruth : Cell → Prop
  | bool _ => True
  | text s => ∃ word ∈ Kind.booleanWords, Text.toAsciiSmall (Text.trim s.toList) = word.toList
  | _ => False

variable {c : Cell}

theorem ofCell_eq_integer_iff : Kind.ofCell c = .integer ↔ c.IsInteger := by
  cases c with
  | text s => exact Kind.ofText_eq_integer_iff
  | _ => simp [Kind.ofCell, IsInteger]

theorem isNumber_ofCell_iff : (Kind.ofCell c).isNumber ↔ c.IsNumber := by
  cases c with
  | text s => exact Kind.isNumber_ofText_iff.trans (or_congr_right Kind.isSome_finite?_iff)
  | _ => simp [Kind.ofCell, Kind.isNumber, IsNumber]

theorem ofCell_eq_boolean_iff : Kind.ofCell c = .boolean ↔ c.IsTruth := by
  cases c with
  | text s => exact Kind.ofText_eq_boolean_iff.trans Kind.isBooleanWord_iff
  | _ => simp [Kind.ofCell, IsTruth]

theorem IsInteger.isNumber (h : c.IsInteger) : c.IsNumber := by
  rw [← isNumber_ofCell_iff, ofCell_eq_integer_iff.mpr h]
  rfl

/-- **No truth value is a number.** -/
theorem IsTruth.not_isNumber (h : c.IsTruth) : ¬ c.IsNumber := by
  rw [← isNumber_ofCell_iff, ofCell_eq_boolean_iff.mpr h]
  exact Bool.false_ne_true

theorem isMissing_eq_false_iff : c.isMissing = false ↔ c ≠ .null ∧ c ≠ .text "" := by
  cases c <;> simp [isMissing]

end Cell

/-! ### Columns -/

namespace Table

variable {t t' : Table} {column : String} {c : Cell} {P Q : Cell → Prop}

/-- The table has a value under the column: some row has the cell there, and it is not missing. -/
def HasValue (t : Table) (column : String) (c : Cell) : Prop :=
  ∃ row ∈ t.rows, row.get? column = some c ∧ c ≠ .null ∧ c ≠ .text ""

/-- There are values under the column, and all of them have a property. -/
def Consists (t : Table) (column : String) (P : Cell → Prop) : Prop :=
  (∃ c, t.HasValue column c) ∧ ∀ c, t.HasValue column c → P c

theorem mem_present_column : c ∈ Cell.present (t.column column) ↔ t.HasValue column c := by
  rw [Cell.mem_present, Cell.isMissing_eq_false_iff, Table.column, List.mem_map, HasValue]
  constructor
  · rintro ⟨⟨row, hrow, hcell⟩, hnull, hempty⟩
    cases hget : row.get? column with
    | none =>
      rw [hget] at hcell
      exact absurd hcell.symm hnull
    | some cell =>
      rw [hget] at hcell
      exact ⟨row, hrow, hget.trans (congrArg some hcell), hnull, hempty⟩
  · rintro ⟨row, hrow, hcell, hdata⟩
    exact ⟨⟨row, hrow, by rw [hcell, Option.getD_some]⟩, hdata⟩

theorem consists_iff : t.Consists column P ↔
    Cell.present (t.column column) ≠ [] ∧ ∀ c ∈ Cell.present (t.column column), P c := by
  have hvalue : (∃ c, t.HasValue column c) ↔ Cell.present (t.column column) ≠ [] := by
    simp only [← mem_present_column]
    exact ⟨fun ⟨_, hc⟩ => List.ne_nil_of_mem hc, List.exists_mem_of_ne_nil _⟩
  simp only [Consists, hvalue, mem_present_column]

theorem Consists.imp (h : t.Consists column P) (hPQ : ∀ c, P c → Q c) : t.Consists column Q :=
  ⟨h.1, fun c hc => hPQ c (h.2 c hc)⟩

theorem Consists.not (h : t.Consists column P) (hPQ : ∀ c, P c → ¬ Q c) : ¬ t.Consists column Q := by
  obtain ⟨⟨c, hc⟩, hall⟩ := h
  exact fun h' => hPQ c (hall c hc) (h'.2 c hc)

open scoped Classical in
/-- **The type of a column** by what all of its values are. -/
theorem inferType_eq_ite (t : Table) (column : String) : t.inferType column =
    if t.Consists column Cell.IsInteger then .int
    else if t.Consists column Cell.IsNumber then .float
    else if t.Consists column Cell.IsTruth then .boolean
    else .text := by
  simp only [inferType_eq, consists_iff, Cell.ofCell_eq_integer_iff, Cell.isNumber_ofCell_iff,
    Cell.ofCell_eq_boolean_iff]
  by_cases h : Cell.present (t.column column) = []
  · simp [h]
  · simp [h]

/-- The type of a column depends on nothing but the values under it. -/
theorem inferType_congr (h : ∀ c, t.HasValue column c ↔ t'.HasValue column c) :
    t.inferType column = t'.inferType column := by
  have hconsists : t.Consists column = t'.Consists column := by
    funext P
    simp only [Consists, h]
  rw [inferType_eq_ite, inferType_eq_ite, hconsists]

/-- The values under a column of two tables in a row. -/
theorem hasValue_append {rows rows' : List Row} :
    HasValue ⟨rows ++ rows'⟩ column c ↔ HasValue ⟨rows⟩ column c ∨ HasValue ⟨rows'⟩ column c := by
  simp only [HasValue, List.mem_append, or_and_right, exists_or]

/-- **Types by the forms of values.** For any table, ragged or not: a column is one of integers
exactly if it has values and all of them are integers; of doubles exactly if it is not one of integers,
has values and all of them are numbers; of truth values exactly if it has values and all of them are
truth values, none of which is ever a number; and of texts otherwise. So of two tables in a row either
may come first, and one without values under the column may be left out. -/
theorem type_by_forms (column : String) :
    (∀ t : Table,
      (t.inferType column = .int ↔ t.Consists column Cell.IsInteger) ∧
      (t.inferType column = .float ↔
        t.inferType column ≠ .int ∧ t.Consists column Cell.IsNumber) ∧
      (t.inferType column = .boolean ↔ t.Consists column Cell.IsTruth) ∧
      (t.inferType column = .text ↔ ¬ t.Consists column Cell.IsInteger ∧
        ¬ t.Consists column Cell.IsNumber ∧ ¬ t.Consists column Cell.IsTruth)) ∧
    (∀ c : Cell, c.IsTruth → ¬ c.IsNumber) ∧
    ∀ a b : Table,
      inferType ⟨a.rows ++ b.rows⟩ column = inferType ⟨b.rows ++ a.rows⟩ column ∧
      ((¬ ∃ c, a.HasValue column c) →
        inferType ⟨a.rows ++ b.rows⟩ column = b.inferType column) := by
  refine ⟨fun t => ?_, fun c hc => hc.not_isNumber, fun a b => ⟨?_, fun hnone => ?_⟩⟩
  · have hnumber : t.Consists column Cell.IsInteger → t.Consists column Cell.IsNumber :=
      fun h => h.imp fun _ hc => hc.isNumber
    have htruth : t.Consists column Cell.IsTruth → ¬ t.Consists column Cell.IsNumber :=
      fun h => h.not fun _ hc => hc.not_isNumber
    rw [inferType_eq_ite]
    split_ifs <;> simp_all
  · exact inferType_congr fun c => by rw [hasValue_append, hasValue_append, or_comm]
  · exact inferType_congr fun c => by
      rw [hasValue_append]
      exact or_iff_right fun hc => hnone ⟨c, hc⟩

/-- A word in capitals beside a truth value, behind rows with gaps only. -/
theorem truths_behind_gaps :
    let a := Table.ofRecords ["ok"] [[.null], [.text ""]]
    let b := Table.ofRecords ["ok"] [[.text " YES "], [.bool false]]
    (¬ ∃ c, a.HasValue "ok" c) ∧ inferType ⟨a.rows ++ b.rows⟩ "ok" = b.inferType "ok" ∧
      (b.inferType "ok" = .boolean ↔ b.Consists "ok" Cell.IsTruth) := by
  intro a b
  have hgaps : ¬ ∃ c, a.HasValue "ok" c := by
    rintro ⟨c, hc⟩
    have hpresent : Cell.present (a.column "ok") = [] := by decide
    exact List.not_mem_nil (hpresent ▸ mem_present_column.mpr hc)
  have htypes := type_by_forms "ok"
  exact ⟨hgaps, (htypes.2.2 a b).2 hgaps, (htypes.1 b).2.2.1⟩

end Table

end Tabular
