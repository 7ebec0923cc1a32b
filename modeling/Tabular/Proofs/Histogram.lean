import Mathlib.Algebra.BigOperators.Group.List.Basic
import Tabular.Metadata
import Tabular.Proofs.Gaps
import Tabular.Proofs.Inference
import Tabular.Proofs.Number.Finite

/-!
# Histograms count every value once

Three scans go over the cells of a column: one finds its type, one finds gaps, and one measures the
cells and counts them into bins. They fit together: in a column of finite numbers, **each cell is
either a gap or has a measure as of the inferred type** (`Histogram.isSome_measure?`), and each
measure falls into exactly one of the five bins, whatever comes out of the arithmetic
(`Histogram.total_ofMeasures`). So the counts of the bins and the number of gaps make up the number
of rows, which is what it means for the metadata of a column to be `Balanced`.
-/

namespace Tabular

namespace Cell

/-- The cell holds no double that is infinite or undefined. -/
def Finite : Cell → Prop
  | float x => x.isFinite
  | _ => True

instance : DecidablePred Finite
  | float x => inferInstanceAs (Decidable (x.isFinite = true))
  | null | bool _ | int _ | text _ => isTrue trivial

/-- The cells of a column are those that hold data and the missing ones. -/
theorem length_present_add_countP (cells : List Cell) :
    (present cells).length + cells.countP (·.isMissing) = cells.length := by
  rw [present, ← List.countP_eq_length_filter, Nat.add_comm, List.length_eq_countP_add_countP]
  congr 2
  funext c
  simp

end Cell

namespace Histogram

/-! ### Measures -/

/-- The measure of a value as of a type. -/
def measure? : ColumnType → Cell → Option Float
  | .text => textMeasure?
  | .int => integerMeasure?
  | .float => decimalMeasure?
  | .boolean => fun _ => none

theorem measures?_eq {type : ColumnType} (h : type ≠ .boolean) (cells : List Cell) :
    measures? type cells = some (cells.filterMap (measure? type)) := by
  cases type with
  | boolean => exact absurd rfl h
  | _ => rfl

/-- Whatever is missing has no measure of any type. -/
theorem measure?_of_isMissing (type : ColumnType) {c : Cell} (h : c.isMissing) :
    measure? type c = none := by
  cases c with
  | null => cases type <;> rfl
  | text s =>
    obtain rfl : s = "" := by simpa [Cell.isMissing] using h
    cases type <;> decide
  | _ => simp [Cell.isMissing] at h

/-- A text that looks like a number is a finite one, an integer included. -/
theorem isSome_finite?_of_isNumber {s : String} (h : (Kind.ofText s).isNumber) :
    (Kind.finite? (Text.trim s.toList)).isSome := by
  simp only [Kind.ofText] at h
  split at h
  next hint =>
    obtain ⟨x, hx, hfinite⟩ := Number.exists_readFloat?_of_readInt64? hint
    rw [Kind.finite?, hx, Option.filter_some, if_pos hfinite]
    rfl
  split at h
  next hdecimal => exact hdecimal
  split at h <;> cases h

/-- Whatever a type other than that of truth values admits has a measure of the type. -/
theorem isSome_measure?_of_admits {type : ColumnType} {c : Cell} (hb : type ≠ .boolean)
    (hfinite : c.Finite) (hc : c.isMissing = false) (h : type.Admits c) :
    (measure? type c).isSome := by
  cases type with
  | boolean => exact absurd rfl hb
  | text => simp [measure?, textMeasure?, hc]
  | int =>
    cases c with
    | int n => rfl
    | text s =>
      have hkind : Kind.ofText s = .integer := h
      simp only [Kind.ofText] at hkind
      split at hkind
      next hint => simpa [measure?, integerMeasure?] using hint
      · repeat' split at hkind
        all_goals cases hkind
    | _ => cases h
  | float =>
    cases c with
    | int n => rfl
    | float x =>
      have hx : x.isFinite := hfinite
      simp [measure?, decimalMeasure?, hx]
    | text s => exact isSome_finite?_of_isNumber h
    | _ => cases h

/-- **A cell of a column has a measure exactly if it is no gap.** -/
theorem isSome_measure? {type : ColumnType} {c : Cell} (hb : type ≠ .boolean)
    (hfinite : c.Finite) (h : c.isMissing = false → type.Admits c) :
    (measure? type c).isSome = !c.isMissing := by
  cases hc : c.isMissing with
  | true => rw [measure?_of_isMissing type hc]; rfl
  | false => exact isSome_measure?_of_admits hb hfinite hc (h hc)

/-! ### Bins -/

theorem binOf_lt (offset : Float) : binOf offset < bins := by
  unfold binOf
  split
  · exact Nat.lt_of_le_of_lt (Nat.min_le_left _ _) (by decide)
  · decide

/-- The counts of the numbers below a bound make up the number of these. -/
private theorem sum_count_range (places : List Nat) : ∀ n : Nat,
    ((List.range n).map (places.count ·)).sum = places.countP (· < n)
  | 0 => by simp
  | n + 1 => by
    have hsplit : places.countP (· < n + 1) = places.countP (· < n) + places.count n := by
      induction places with
      | nil => rfl
      | cons p places ih =>
        simp only [List.countP_cons, List.count_cons, ih, decide_eq_true_eq, beq_iff_eq]
        split_ifs <;> omega
    rw [List.range_succ, List.map_append, List.sum_append, sum_count_range places n, hsplit,
      List.map_singleton, List.sum_singleton]

/-- **Every measure is counted in exactly one bin.** -/
theorem total_ofMeasures (xs : List Float) : (ofMeasures xs).total = xs.length := by
  have hcounts : ∀ places : List Nat, (∀ p ∈ places, p < bins) →
      ((List.range bins).map (places.count ·)).sum = places.length := fun places hplaces => by
    rw [sum_count_range, List.countP_eq_length]
    simpa using hplaces
  simp only [ofMeasures, total]
  refine (hcounts _ fun p hp => ?_).trans (List.length_map _)
  obtain ⟨x, -, rfl⟩ := List.mem_map.mp hp
  exact binOf_lt _

theorem length_counts_ofMeasures (xs : List Float) : (ofMeasures xs).counts.length = bins := by
  simp [ofMeasures]

theorem length_labels_ofMeasures (xs : List Float) : (ofMeasures xs).labels.length = bins := by
  simp [ofMeasures]

end Histogram

/-! ### Metadata of a column -/

/-- Type, distribution and gaps fit together, for a column of `size` cells: truth values have no
histogram, and for any other type there are five bins, which leave out the gaps only. -/
structure Metadata.Balanced (size : Nat) (m : Metadata) : Prop where
  unsupported : m.type = .boolean → m.distribution = .unsupported .boolean
  binned : m.type ≠ .boolean → ∃ h, m.distribution = .binned h ∧ h.counts.length = 5 ∧
    h.labels.length = 5 ∧ h.total + m.gaps.count = size

/-- **What is found out about a column of finite numbers fits together.** -/
theorem Provider.describe_standard_balanced {t : Table} {c : String}
    (hfinite : ∀ cell ∈ t.column c, cell.Finite) :
    (standard.describe t c).value.Balanced t.size := by
  show Metadata.Balanced t.size ⟨t.inferType c, t.distribution c (t.inferType c), t.gaps c⟩
  constructor
  case unsupported =>
    intro hb
    have hb : t.inferType c = .boolean := hb
    rw [hb]
    rfl
  case binned =>
    intro hb
    have hmeasures := Histogram.measures?_eq hb (t.column c)
    refine ⟨Histogram.ofMeasures ((t.column c).filterMap (Histogram.measure? (t.inferType c))),
      ?_, Histogram.length_counts_ofMeasures _, Histogram.length_labels_ofMeasures _, ?_⟩
    · simp only [Table.distribution, hmeasures]
    · have hpresent : ∀ cell ∈ t.column c,
          (Histogram.measure? (t.inferType c) cell).isSome = !cell.isMissing := fun cell hcell =>
        Histogram.isSome_measure? hb (hfinite cell hcell) fun hc =>
          Table.admits_inferType (Cell.mem_present.mpr ⟨hcell, hc⟩)
      have hlength : ((t.column c).filterMap (Histogram.measure? (t.inferType c))).length =
          (Cell.present (t.column c)).length := by
        rw [List.length_filterMap_eq_countP, Cell.present, ← List.countP_eq_length_filter]
        exact List.countP_congr fun cell hcell => by rw [hpresent cell hcell]
      rw [Histogram.total_ofMeasures, hlength, Table.count_gaps, Cell.length_present_add_countP]
      exact List.length_map _

end Tabular
