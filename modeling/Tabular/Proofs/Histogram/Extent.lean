import Tabular.Proofs.Histogram

/-!
# Histograms and the order of rows

A histogram is drawn between the least and the greatest measure, which one pass over the measures
finds. In the order of ranks no two doubles are alike, zero and negative zero included
(`Double.rank_injective`). So **there is only one least and one greatest measure**
(`Histogram.IsExtent.unique`): whatever finds them finds the same, and the bounds of the bins hang on
the measures alone. How often a bin is hit does not hang on their order either, and neither does the
histogram (`Histogram.ofMeasures_perm`).
-/

namespace Tabular

/-- **No two doubles share a place** in the order of all doubles. -/
theorem Double.rank_injective {x y : Float} (h : rank x = rank y) : x = y := by
  refine Float.toBits_inj.mp (UInt64.toNat_inj.mp ?_)
  simp only [rank] at h
  split at h <;> split at h <;> omega

namespace Histogram

variable {xs ys : List Float} {x low high low' high' : Float}

/-! ### The least and the greatest measure -/

/-- `low` and `high` are a least and a greatest one of the measures, in the order of ranks. -/
structure IsExtent (xs : List Float) (low high : Float) : Prop where
  low_mem : low ∈ xs
  high_mem : high ∈ xs
  low_le : ∀ x ∈ xs, Double.rank low ≤ Double.rank x
  le_high : ∀ x ∈ xs, Double.rank x ≤ Double.rank high

/-- There is but one least and one greatest measure. -/
theorem IsExtent.unique (h : IsExtent xs low high) (h' : IsExtent xs low' high') :
    low = low' ∧ high = high' := by
  have hlow := Int.le_antisymm (h.low_le low' h'.low_mem) (h'.low_le low h.low_mem)
  have hhigh := Int.le_antisymm (h'.le_high high h.high_mem) (h.le_high high' h'.high_mem)
  exact ⟨Double.rank_injective hlow, Double.rank_injective hhigh⟩

theorem IsExtent.perm (h : IsExtent xs low high) (hp : xs.Perm ys) : IsExtent ys low high where
  low_mem := hp.mem_iff.mp h.low_mem
  high_mem := hp.mem_iff.mp h.high_mem
  low_le x hx := h.low_le x (hp.mem_iff.mpr hx)
  le_high x hx := h.le_high x (hp.mem_iff.mpr hx)

/-- The least and the greatest measure, with one more. -/
def widen (e : Float × Float) (x : Float) : Float × Float :=
  (if Double.rank x < Double.rank e.1 then x else e.1,
    if Double.rank e.2 < Double.rank x then x else e.2)

theorem extent_concat (x y : Float) (xs : List Float) :
    extent (x :: (xs ++ [y])) = widen (extent (x :: xs)) y := by
  simp only [extent, List.foldl_append]
  rfl

/-- One more measure takes the place of the least or the greatest one if it lies beyond. -/
theorem IsExtent.widen (h : IsExtent xs low high) (x : Float) :
    IsExtent (xs ++ [x]) (Histogram.widen (low, high) x).1 (Histogram.widen (low, high) x).2 := by
  have hmem : ∀ y, y ∈ xs ++ [x] ↔ y ∈ xs ∨ y = x := fun y => by simp
  have hlow := h.low_le
  have hhigh := h.le_high
  simp only [Histogram.widen]
  constructor
  case low_mem => split_ifs <;> simp [h.low_mem]
  case high_mem => split_ifs <;> simp [h.high_mem]
  case low_le =>
    intro y hy
    obtain hy | rfl := (hmem y).mp hy
    · have hy := hlow y hy
      split_ifs <;> omega
    · split_ifs <;> omega
  case le_high =>
    intro y hy
    obtain hy | rfl := (hmem y).mp hy
    · have hy := hhigh y hy
      split_ifs <;> omega
    · split_ifs <;> omega

/-- **The extent is found** by going through the measures once. -/
theorem isExtent_extent (hne : xs ≠ []) : IsExtent xs (extent xs).1 (extent xs).2 := by
  obtain ⟨x, xs, rfl⟩ := List.exists_cons_of_ne_nil hne
  clear hne
  induction xs using List.reverseRecOn with
  | nil =>
    have hsingle : ∀ y ∈ [x], Double.rank y = Double.rank x := by simp
    exact ⟨List.mem_singleton_self x, List.mem_singleton_self x, fun y hy => (hsingle y hy).ge,
      fun y hy => (hsingle y hy).le⟩
  | append_singleton xs y ih =>
    rw [extent_concat, ← List.cons_append]
    exact ih.widen y

theorem extent_eq (h : IsExtent xs low high) : extent xs = (low, high) := by
  have hextent := (isExtent_extent (List.ne_nil_of_mem h.low_mem)).unique h
  exact Prod.ext hextent.1 hextent.2

/-- The extent does not depend on the order of the measures. -/
theorem extent_perm (hp : xs.Perm ys) : extent xs = extent ys := by
  by_cases hne : xs = []
  · subst hne
    rw [hp.nil_eq]
  · exact (extent_eq ((isExtent_extent hne).perm hp)).symm

/-! ### Bins -/

/-- The histogram of measures over given bounds. -/
def between (low high : Float) (xs : List Float) : Histogram :=
  let places := xs.map fun x => binOf ((x - low) / binWidth low high)
  ⟨(List.range bins).map places.count, (List.range bins).map (label low high)⟩

/-- A histogram is drawn over the extent of its measures. -/
theorem ofMeasures_eq_between (xs : List Float) :
    ofMeasures xs = between (extent xs).1 (extent xs).2 xs := rfl

/-- Over given bounds, the order of the measures does not matter. -/
theorem between_perm (hp : xs.Perm ys) : between low high xs = between low high ys := by
  have hplaces := hp.map fun x => binOf ((x - low) / binWidth low high)
  simp only [between, hplaces.count_eq]

/-- **The order of the measures does not matter.** -/
theorem ofMeasures_perm (hp : xs.Perm ys) : ofMeasures xs = ofMeasures ys := by
  rw [ofMeasures_eq_between, ofMeasures_eq_between, extent_perm hp, between_perm hp]

end Histogram

/-! ### Tables -/

namespace Table

open Histogram

variable {t t' : Table} {type : ColumnType}

theorem column_perm (h : t.rows.Perm t'.rows) (column : String) :
    (t.column column).Perm (t'.column column) :=
  h.map _

theorem histogram_of_ne_boolean (h : type ≠ .boolean) (t : Table) (column : String) :
    t.histogram column type = .ok (ofMeasures ((t.column column).filterMap (measure? type))) := by
  simp only [histogram, measures?_eq h]

theorem distribution_of_ne_boolean (h : type ≠ .boolean) (t : Table) (column : String) :
    t.distribution column type =
      .binned (ofMeasures ((t.column column).filterMap (measure? type))) := by
  simp only [distribution, measures?_eq h]

/-- **Histograms ignore the order of rows.** Take two tables with the same rows, ragged or not, in
any orders, any column and any type. The histograms of the column as of the type are the same, or
both are refused for that type; and so are the distributions, which hold the histogram or name the
type. The bounds of a histogram are a least and a greatest measure, and it does not matter which. -/
theorem histograms_ignore_row_order (h : t.rows.Perm t'.rows) (column : String)
    (type : ColumnType) :
    t'.histogram column type = t.histogram column type ∧
    t'.distribution column type = t.distribution column type ∧
    (∀ drawn, t.histogram column type = .ok drawn ↔ t.distribution column type = .binned drawn) ∧
    (∀ refused, t.histogram column type = .error ⟨refused⟩ ↔
      t.distribution column type = .unsupported refused) ∧
    ∀ xs, measures? type (t'.column column) = some xs → ∀ low high, IsExtent xs low high →
      t.histogram column type = .ok (between low high xs) := by
  by_cases hb : type = .boolean
  · subst hb
    have herror : ∀ t : Table, t.histogram column .boolean = .error ⟨.boolean⟩ := fun _ => rfl
    have hunsupported : ∀ t : Table, t.distribution column .boolean = .unsupported .boolean :=
      fun _ => rfl
    simp [herror, hunsupported, measures?]
  · have hp := (column_perm h column).filterMap (measure? type)
    rw [histogram_of_ne_boolean hb, histogram_of_ne_boolean hb, distribution_of_ne_boolean hb,
      distribution_of_ne_boolean hb, ofMeasures_perm hp, measures?_eq hb]
    refine ⟨rfl, rfl, by simp, by simp, fun xs hxs low high hextent => ?_⟩
    cases hxs
    rw [ofMeasures_eq_between, extent_eq hextent]

/-- The negative one of two zeros is the least measure, whichever comes first. -/
theorem zeros_in_either_order :
    let t := Table.ofRecords ["x"] [[.float 0], [.float (-0)], [.text "3"]]
    let t' := Table.ofRecords ["x"] [[.text "3"], [.float (-0)], [.float 0]]
    let xs : List Float := [3, -0, 0]
    (t.rows.Perm t'.rows ∧ measures? .float (t'.column "x") = some xs ∧ IsExtent xs (-0) 3) ∧
    t'.histogram "x" .float = t.histogram "x" .float ∧
    t'.distribution "x" .float = t.distribution "x" .float ∧
    t.histogram "x" .float = .ok (between (-0) 3 xs) := by
  intro t t' xs
  have h : t.rows.Perm t'.rows := (List.reverse_perm t'.rows :)
  have hxs : measures? .float (t'.column "x") = some xs := by decide
  have hextent : IsExtent xs (-0) 3 :=
    ⟨List.mem_cons_of_mem _ List.mem_cons_self, List.mem_cons_self, by decide, by decide⟩
  have hall := histograms_ignore_row_order h "x" .float
  exact ⟨⟨h, hxs, hextent⟩, hall.1, hall.2.1, hall.2.2.2.2 xs hxs (-0) 3 hextent⟩

end Table

end Tabular
