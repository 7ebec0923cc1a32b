import Tabular.Proofs.Edit.Recasing
import Tabular.Proofs.Inference
import Tabular.Proofs.Metadata
import Tabular.Proofs.Number.CellText
import Tabular.Proofs.Workspace.Alignment

/-!
# The type kept of a column of doubles

Setting a column in a case keeps its type, although its cells become texts. For doubles the type is
that of the texts as well, in most cases: whatever case the text of a finite double is set in, it is
read as the double (`Cell.measure_recased_float`), and never as a truth value. But the texts of long
whole numbers have no point, so they look like integers (`Kind.ofCell_recased_float`). **The type
kept of a column of doubles is out of date exactly if all of them are long whole numbers**
(`Workspace.float_type_kept_unless_long`).
-/

namespace Tabular

open Double (IsLong cellText)

variable {x : Float} {style : CaseStyle} {column : String}

/-! ### Texts of doubles -/

theorem Text.trim_eq_self {s : List Char} (h : ∀ c ∈ s, isBlank c = false) : trim s = s := by
  have hdrop : ∀ {s : List Char}, (∀ c ∈ s, isBlank c = false) → s.dropWhile isBlank = s := by
    intro s h
    cases s with
    | nil => rfl
    | cons c s => exact List.dropWhile_cons_of_neg (by simp [h c List.mem_cons_self])
  have hreverse : ∀ c ∈ s.reverse, isBlank c = false := fun c hc => h c (List.mem_reverse.mp hc)
  rw [trim, strip, hdrop h, hdrop hreverse, List.reverse_reverse]

namespace Double

/-- The text of a finite double has neither blanks nor characters beyond ASCII. -/
private theorem ascii_cellText (h : x.isFinite) :
    ∀ c ∈ (cellText x).toList, Text.isBlank c = false ∧ c.toNat < 128 := by
  intro c hc
  obtain hdigit | rfl | rfl := mem_cellText h c hc
  · obtain ⟨hlow, hhigh⟩ : '0'.toNat ≤ c.toNat ∧ c.toNat ≤ '9'.toNat := by
      simpa [Number.isDigit, Char.le_def, UInt32.le_iff_toNat_le] using hdigit
    have hlow : 48 ≤ c.toNat := hlow
    have hhigh : c.toNat ≤ 57 := hhigh
    simp only [Text.isBlank]
    grind
  · decide
  · decide

theorem trim_cellText (h : x.isFinite) : Text.trim (cellText x).toList = (cellText x).toList :=
  Text.trim_eq_self fun c hc => (ascii_cellText h c hc).1

end Double

/-- A double set in a case looks like its text. -/
theorem Cell.alike_recased_float (h : x.isFinite) (style : CaseStyle) :
    Alike (text (cellText x)) (Row.recaseCell style (float x)) := by
  have hplain : (text (cellText x)).Plain := fun c hc => (Double.ascii_cellText h c hc).2
  exact hplain.alike_recaseCell style

/-- **A finite double set in a case is read as the same double.** -/
theorem Cell.measure_recased_float (h : x.isFinite) (style : CaseStyle) :
    Histogram.decimalMeasure? (Row.recaseCell style (float x)) = some x := by
  rw [← (alike_recased_float h style).decimal, Histogram.decimalMeasure?, Kind.finite?,
    Double.trim_cellText h, Double.readFloat?_cellText h, Option.filter_some, if_pos h]

/-- **A finite double set in a case looks like a decimal number**, but like an integer if it is a
long whole number. -/
theorem Kind.ofCell_recased_float (h : x.isFinite) (style : CaseStyle) :
    ofCell (Row.recaseCell style (.float x)) = if IsLong x then integer else decimal := by
  have hfinite : (finite? (cellText x).toList).isSome := by
    rw [finite?, Double.readFloat?_cellText h, Option.filter_some, if_pos h, Option.isSome_some]
  rw [← (Cell.alike_recased_float h style).kind, ofCell, ofText]
  simp only [Double.trim_cellText h, Double.isSome_readInt64?_cellText_iff h, hfinite, if_true]

/-! ### Columns of doubles -/

/-- The cell holds a finite double. -/
def Cell.isFiniteDouble : Cell → Bool
  | float x => x.isFinite
  | _ => false

theorem Cell.isFiniteDouble_iff {c : Cell} :
    c.isFiniteDouble ↔ ∃ x : Float, c = float x ∧ x.isFinite := by
  cases c <;> simp [isFiniteDouble]

namespace Table

variable {t : Table}

/-- The column exists, and in every row that has it there is a finite double. -/
def HoldsDoubles (t : Table) (column : String) : Prop :=
  t.hasColumn column ∧ ∀ row ∈ t.rows, ∀ cell ∈ row.get? column, cell.isFiniteDouble

instance : Decidable (t.HoldsDoubles column) :=
  inferInstanceAs (Decidable (_ ∧ ∀ row ∈ t.rows, ∀ cell ∈ row.get? column, cell.isFiniteDouble))

/-- All doubles of the column are long whole numbers. -/
def AllLong (t : Table) (column : String) : Prop :=
  ∀ row ∈ t.rows, ∀ x : Float, row.get? column = some (.float x) → IsLong x

theorem column_recased (style : CaseStyle) (column : String) (t : Table) :
    (t.recased style column).column column = (t.column column).map (Row.recaseCell style) := by
  simp only [Table.column, recased, mapRows, List.map_map]
  refine List.map_congr_left fun row _ => ?_
  simp only [Function.comp_apply, Row.recase, Keyed.get?_adjust, if_true]
  cases row.get? column <;> rfl

/-- A column with numbers only has integers only, or else decimal numbers. -/
theorem inferType_of_numbers (hne : Cell.present (t.column column) ≠ [])
    (h : ∀ c ∈ Cell.present (t.column column), (Kind.ofCell c).isNumber) : t.inferType column =
      if ∀ c ∈ Cell.present (t.column column), Kind.ofCell c = .integer then .int else .float := by
  rw [inferType_eq]
  simp only [if_neg hne, if_pos h]

theorem present_column_recased (style : CaseStyle) (column : String) (t : Table) :
    Cell.present ((t.recased style column).column column) =
      (Cell.present (t.column column)).map (Row.recaseCell style) := by
  rw [column_recased, Cell.present, List.filter_map, Cell.present]
  refine congrArg _ (List.filter_congr fun c _ => ?_)
  rw [Function.comp_apply, Cell.isMissing_recaseCell]

namespace HoldsDoubles

/-- The cells that are present are the doubles. -/
theorem mem_present (h : t.HoldsDoubles column) {c : Cell} :
    c ∈ Cell.present (t.column column) ↔
      ∃ row ∈ t.rows, ∃ x : Float,
        row.get? column = some (.float x) ∧ x.isFinite ∧ c = .float x := by
  rw [Cell.mem_present, Table.column, List.mem_map]
  constructor
  · rintro ⟨⟨row, hrow, rfl⟩, hpresent⟩
    cases hcell : row.get? column with
    | none => simp [hcell, Cell.isMissing] at hpresent
    | some cell =>
      obtain ⟨x, rfl, hx⟩ := Cell.isFiniteDouble_iff.mp (h.2 row hrow cell hcell)
      exact ⟨row, hrow, x, hcell, hx, rfl⟩
  · rintro ⟨row, hrow, x, hcell, -, rfl⟩
    exact ⟨⟨row, hrow, by rw [hcell, Option.getD_some]⟩, rfl⟩

/-- The first row has a cell. -/
theorem present_ne_nil (h : t.HoldsDoubles column) : Cell.present (t.column column) ≠ [] := by
  obtain ⟨hcolumn, hcells⟩ := h
  obtain ⟨rows⟩ := t
  cases rows with
  | nil => exact absurd hcolumn Bool.false_ne_true
  | cons row rows =>
    obtain ⟨cell, hcell⟩ := Keyed.mem_keys_iff_exists.mp (Keyed.mem_keys.mpr hcolumn)
    obtain ⟨x, rfl, hx⟩ := Cell.isFiniteDouble_iff.mp (hcells row List.mem_cons_self cell hcell)
    have hmem := (mem_present ⟨hcolumn, hcells⟩).mpr ⟨row, List.mem_cons_self, x, hcell, hx, rfl⟩
    exact List.ne_nil_of_mem hmem

/-- Doubles are decimal numbers, whole or not. -/
theorem inferType_eq (h : t.HoldsDoubles column) : t.inferType column = .float := by
  have hkind : ∀ c ∈ Cell.present (t.column column), Kind.ofCell c = .decimal := by
    intro c hc
    obtain ⟨row, -, x, -, -, rfl⟩ := h.mem_present.mp hc
    rfl
  obtain ⟨c, hc⟩ := List.exists_mem_of_ne_nil _ h.present_ne_nil
  rw [inferType_of_numbers h.present_ne_nil fun c hc => by rw [hkind c hc]; rfl, if_neg]
  intro hall
  cases (hkind c hc).symm.trans (hall c hc)

/-- **Doubles set in a case** are still decimal numbers, unless all of them are long whole numbers.
-/
theorem inferType_recased (h : t.HoldsDoubles column) (style : CaseStyle)
    [Decidable (t.AllLong column)] :
    (t.recased style column).inferType column = if t.AllLong column then .int else .float := by
  have hpresent := present_column_recased style column t
  have hne : Cell.present ((t.recased style column).column column) ≠ [] := by
    rw [hpresent]
    simpa using h.present_ne_nil
  have hnumbers : ∀ c ∈ Cell.present ((t.recased style column).column column),
      (Kind.ofCell c).isNumber := by
    rw [hpresent, List.forall_mem_map]
    intro c hc
    obtain ⟨row, -, x, -, hx, rfl⟩ := h.mem_present.mp hc
    rw [Kind.ofCell_recased_float hx]
    split <;> rfl
  have hintegers : (∀ c ∈ Cell.present ((t.recased style column).column column),
      Kind.ofCell c = .integer) ↔ t.AllLong column := by
    have hinteger : ∀ {x : Float}, x.isFinite →
        (Kind.ofCell (Row.recaseCell style (.float x)) = .integer ↔ IsLong x) := by
      intro x hx
      rw [Kind.ofCell_recased_float hx]
      split <;> simp [*]
    rw [hpresent, List.forall_mem_map]
    constructor
    · intro hall row hrow x hcell
      have hx : x.isFinite := h.2 row hrow _ hcell
      exact (hinteger hx).mp (hall _ (h.mem_present.mpr ⟨row, hrow, x, hcell, hx, rfl⟩))
    · intro hall c hc
      obtain ⟨row, hrow, x, hcell, hx, rfl⟩ := h.mem_present.mp hc
      exact (hinteger hx).mpr (hall row hrow x hcell)
  rw [inferType_of_numbers hne hnumbers]
  simp only [hintegers]

end HoldsDoubles

end Table

/-! ### The type kept -/

namespace Workspace

variable {t : Table}

/-- Setting a column in a case in a loaded workspace changes its cells and keeps its type. -/
theorem recase_loaded (order : Option (List String)) (stamp : Stamp) (style : CaseStyle)
    (h : t.hasColumn column) :
    let w := (load .standard t order).value
    let w' := (w.apply .standard stamp (.recase style column)).value
    w'.table = t.recased style column ∧ w'.types = w.types ∧
      w.types.get? column = some (t.inferType column) := by
  intro w w'
  have hw : w.Aligned := load_aligned
  have hload : w = _ := load_value
  have hcolumn : column ∈ initialOrder t order := mem_initialOrder.mpr (Table.mem_columns.mpr h)
  have htypes : w.types.get? column = some (t.inferType column) := by
    rw [hload]
    exact (Keyed.get?_insertAll _ _ _ _).trans (if_pos hcolumn)
  have hedit : (Operation.recase style column).edit? w.table = some (t.recased style column) := by
    rw [hload]
    exact Table.edit?_recase h
  obtain ⟨hnone, -⟩ | ⟨t', P, S, ht', -, hstep⟩ := apply_cases .standard w stamp
    (.recase style column) hw.nodup hw.columns
  · exact absurd (hedit.symm.trans hnone) (Option.some_ne_none _)
  · obtain rfl := Option.some.inj (hedit.symm.trans ht')
    exact ⟨congrArg table hstep, (congrArg types hstep).trans rfl, htypes⟩

/-- **The type kept of a column of doubles** is that of decimal numbers. Take any table with at
least one row and a column of finite doubles, load it, and set the column in capitals, in small
letters or in title case: the type kept is still that, and it is the type inferred of the new table
unless every double is a whole number from `10 ^ 15` to below `2 ^ 63`, when the type inferred is
that of integers. For the text of a finite double, in each case, is read as the double, and looks
like an integer if it is such a whole number, and like a decimal number otherwise. -/
theorem float_type_kept_unless_long (t : Table) (order : Option (List String)) (stamp : Stamp)
    (style : CaseStyle) (h : t.HoldsDoubles column) :
    let w := (load .standard t order).value
    let w' := (w.apply .standard stamp (.recase style column)).value
    w'.table = t.recased style column ∧
    w.types.get? column = some .float ∧ w'.types.get? column = some .float ∧
    (¬ t.AllLong column → w'.table.inferType column = .float) ∧
    (t.AllLong column → w'.table.inferType column = .int) ∧
    ∀ x : Float, x.isFinite →
      Histogram.decimalMeasure? (Row.recaseCell style (.float x)) = some x ∧
      (¬ IsLong x → Kind.ofCell (Row.recaseCell style (.float x)) = .decimal) ∧
      (IsLong x → Kind.ofCell (Row.recaseCell style (.float x)) = .integer) := by
  classical
  intro w w'
  obtain ⟨htable, htypes, hkept⟩ := recase_loaded order stamp style h.1
  rw [h.inferType_eq] at hkept
  refine ⟨htable, hkept, (congrArg (·.get? column) htypes).trans hkept, ?_, ?_, fun x hx => ?_⟩
  · intro hlong
    rw [htable, h.inferType_recased, if_neg hlong]
  · intro hlong
    rw [htable, h.inferType_recased, if_pos hlong]
  · have hkind := Kind.ofCell_recased_float hx style
    exact ⟨Cell.measure_recased_float hx style, fun hlong => hkind.trans (if_neg hlong),
      fun hlong => hkind.trans (if_pos hlong)⟩

/-- A fraction among long whole numbers, and a row that lacks the column. -/
theorem fraction_keeps_float :
    let t : Table := ⟨[Keyed.ofList [("c", .float 1e15), ("d", .null)],
      Keyed.ofList [("d", .int 1)], Keyed.ofList [("c", .float 0.1)]]⟩
    let w' := ((load .standard t none).value.apply .standard default (.recase .title "c")).value
    t.HoldsDoubles "c" ∧ ¬ t.AllLong "c" ∧ w'.types.get? "c" = some .float ∧
      w'.table.inferType "c" = .float := by
  intro t w'
  have h : t.HoldsDoubles "c" := by decide +kernel
  have hshort : ¬ IsLong 0.1 := by decide +kernel
  have hlong : ¬ t.AllLong "c" := fun hall =>
    hshort (hall (Keyed.ofList [("c", .float 0.1)]) (by simp [t]) 0.1 rfl)
  obtain ⟨-, -, hkept, hinferred, -⟩ := float_type_kept_unless_long t none default .title h
  exact ⟨h, hlong, hkept, hinferred hlong⟩

/-- The text of `10 ^ 15` looks like an integer, so the type kept of a column of such is not the one
inferred. -/
theorem long_whole_number_in_capitals :
    ¬ ∀ (t : Table) (column : String) (style : CaseStyle), t.HoldsDoubles column →
      let w' := ((load .standard t none).value.apply .standard default (.recase style column)).value
      w'.types.get? column = some (w'.table.inferType column) := by
  intro h
  have hkept := h (Table.ofRecords ["c"] [[.float 1e15]]) "c" .upper (by decide +kernel)
  exact absurd hkept (by decide +kernel)

end Workspace

end Tabular
