import Tabular.Proofs.Histogram.Extent
import Tabular.Proofs.Number.Arithmetic

/-!
# The outer bins of a histogram

The least measure of a column belongs into the first bin, and the greatest into the last, which ends
there. The greatest one gets there through two divisions: the span of the measures is divided by five
for the width of a bin, and then the span, which is how far the greatest measure is from the least, by
that width. **A double divided by its rounded fifth is at least four** (`Histogram.binOf_of_large`): a
fifth rounded up is still at most a fourth, since it lies between two neighbouring multiples of one
power of two, and rounding does not cross any of these.

That takes some bits of the significand. Few steps of the least positive double are too coarse for a
fifth, and a span beyond the greatest double is no number to divide. So the greatest measure is in
the last bin **exactly if the span is finite and has at least four steps** (`Table.outer_bins_iff`).
-/

namespace Tabular

open Binary

namespace Histogram

variable {s z w low high x y : Float} {m : Nat} {q : Int} {xs : List Float}

/-! ### A span counted in its fifths -/

/-- The fifth of many steps is at most a fourth of them, and at least an eighth. -/
theorem exists_ofFloat_fifth (hs : ofFloat s = finite false m q) (hm : 16 ≤ m) :
    ∃ m' q', ofFloat (s / 5) = finite false m' q' ∧ m' ≠ 0 ∧
      4 * (m' * 2 ^ q' : ℚ) ≤ m * 2 ^ q ∧ (m * 2 ^ q : ℚ) ≤ 8 * (m' * 2 ^ q') := by
  obtain ⟨hc, hq, -⟩ := ofFloat_eq_finite_iff.mp hs
  have hlt := hc.lt
  have hunit : (0 : ℚ) < 2 ^ q := by positivity
  have hfive : ofFloat 5 = finite false (5 * 2 ^ 50) (-50) := by decide
  have hfifth : (m * 2 ^ q : ℚ) / ((5 * 2 ^ 50 : Nat) * 2 ^ (-50 : Int)) = m / 5 * 2 ^ q := by
    rw [zpow_neg, zpow_ofNat]
    push_cast
    field_simp
    norm_num
  have hself : (m * 2 ^ q : ℚ) / ((5 * 2 ^ 50 : Nat) * 2 ^ (-50 : Int)) ≤ m * 2 ^ q := by
    rw [hfifth]
    gcongr
    exact div_le_self (Nat.cast_nonneg m) (by norm_num)
  have hrepresentable : ∀ k : Nat, k ≤ 2 ^ 53 → Representable (k * 2 ^ q) := fun k hk =>
    ⟨k, q, hk, hc.le, rfl⟩
  obtain ⟨m', q', hdiv, hrounds⟩ := Double.exists_ofFloat_div hs hfive (by decide)
    (hrepresentable m hlt.le) (hc.lt_two_pow hq) hself
  rw [hfifth] at hrounds
  -- the fifth lies between two neighbouring multiples of the same power of two
  have hlow : ((m / 5 : Nat) * 2 ^ q : ℚ) ≤ m' * 2 ^ q' := by
    refine (hrounds _ (hrepresentable _ (by omega))).1 ?_
    gcongr
    exact Nat.cast_div_le
  have hhigh : (m' * 2 ^ q' : ℚ) ≤ (m / 5 + 1 : Nat) * 2 ^ q := by
    have hnext : m ≤ (m / 5 + 1) * 5 := by omega
    refine (hrounds _ (hrepresentable _ (by omega))).2 ?_
    gcongr
    rw [div_le_iff₀ (by norm_num)]
    exact_mod_cast hnext
  have habove : 4 * (m' * 2 ^ q' : ℚ) ≤ m * 2 ^ q := by
    have hless : 4 * (m / 5 + 1) ≤ m := by omega
    calc 4 * (m' * 2 ^ q' : ℚ) ≤ 4 * ((m / 5 + 1 : Nat) * 2 ^ q) := by gcongr
      _ = (4 * (m / 5 + 1) : Nat) * 2 ^ q := by push_cast; ring
      _ ≤ m * 2 ^ q := by gcongr
  have hbelow : (m * 2 ^ q : ℚ) ≤ 8 * (m' * 2 ^ q') := by
    have hless : m ≤ 8 * (m / 5) := by omega
    calc (m * 2 ^ q : ℚ) ≤ (8 * (m / 5) : Nat) * 2 ^ q := by gcongr
      _ = 8 * ((m / 5 : Nat) * 2 ^ q) := by push_cast; ring
      _ ≤ 8 * (m' * 2 ^ q') := by gcongr
  refine ⟨m', q', hdiv, ?_, habove, hbelow⟩
  rintro rfl
  rw [Nat.cast_zero, zero_mul, mul_zero] at hbelow
  exact hbelow.not_gt (value_pos (by omega) q)

/-- A span of many steps is at least four of its fifths, and so falls into the last bin. -/
theorem binOf_of_large (hs : ofFloat s = finite false m q) (hm : 16 ≤ m) :
    binOf (s / (s / 5)) = 4 := by
  obtain ⟨m', q', hfifth, hm', habove, hbelow⟩ := exists_ofFloat_fifth hs hm
  have hpos : (0 : ℚ) < m' * 2 ^ q' := value_pos hm' q'
  have hfour : Representable 4 := ⟨1, 2, by decide, by decide, by norm_num⟩
  have height : Representable (2 ^ 3) := ⟨1, 3, by decide, by decide, by norm_num⟩
  have hsmall : (2 : ℚ) ^ 3 < 2 ^ 1024 := pow_lt_pow_right₀ one_lt_two (by decide)
  have hquotient : (m * 2 ^ q : ℚ) / (m' * 2 ^ q') ≤ 2 ^ 3 := by
    rw [div_le_iff₀ hpos]
    linarith
  obtain ⟨k, j, hoffset, hrounds⟩ := Double.exists_ofFloat_div hs hfifth hm' height
    hsmall hquotient
  have hlast : ((4 : Nat) : ℚ) ≤ k * 2 ^ j := (hrounds 4 hfour).1 ((le_div_iff₀ hpos).mpr habove)
  simp only [binOf, hoffset]
  exact Nat.min_eq_left (le_wholePart hlast)

/-- The double that is `m` steps of the least positive one, if `m` is small. -/
def steps (m : Nat) : Float := Float.ofBits (UInt64.ofNat m)

theorem ofFloat_steps : ∀ m < 16, ofFloat (steps m) = finite false m (-1074) := by decide

/-- A positive double is infinite, has few steps, or has so many that its significand is not small. -/
theorem span_cases (h : 0 < s) : s = 1 / 0 ∨ (∃ m < 16, m ≠ 0 ∧ s = steps m) ∨
    ∃ m q, ofFloat s = finite false m q ∧ 16 ≤ m := by
  obtain hs | ⟨m, q, hs, hm⟩ := Double.pos_iff.mp h
  · have hinfinity : ofFloat (1 / 0) = infinite false := by decide
    exact .inl (ofFloat_injective (hs.trans hinfinity.symm))
  obtain hfew | hmany := Nat.lt_or_ge m 16
  · have hfull := (ofFloat_eq_finite_iff.mp hs).1.full
    obtain rfl : q = -1074 := by omega
    exact .inr (.inl ⟨m, hfew, hm, ofFloat_injective (hs.trans (ofFloat_steps m hfew).symm)⟩)
  · exact .inr (.inr ⟨m, q, hs, hmany⟩)

/-- Few steps are less than many. -/
theorem steps_le_of_large {k : Nat} (hk : k < 16) (hs : ofFloat s = finite false m q)
    (hm : 16 ≤ m) : steps k ≤ s := by
  have hle := (ofFloat_eq_finite_iff.mp hs).1.le
  rw [Double.le_iff_place_le (ofFloat_steps k hk) hs, place, place]
  omega

/-- **A span falls into the last bin** exactly if it is finite and has at least four steps. -/
theorem binOf_span_eq_last_iff (h : 0 < s) :
    binOf (s / (s / 5)) = 4 ↔ s.isFinite ∧ Float.ofBits 4 ≤ s := by
  obtain rfl | ⟨m, hm, hne, rfl⟩ | ⟨m, q, hs, hm⟩ := span_cases h
  · decide
  · have hfew : ∀ m < 16, m ≠ 0 → (binOf (steps m / (steps m / 5)) = 4 ↔
        (steps m).isFinite ∧ Float.ofBits 4 ≤ steps m) := by decide
    exact hfew m hm hne
  · exact iff_of_true (binOf_of_large hs hm)
      ⟨Double.isFinite_iff.mpr ⟨_, _, _, hs⟩, steps_le_of_large (by decide : 4 < 16) hs hm⟩

/-- **The fifth of a span is positive and finite** exactly if the span is finite and has at least
three steps. -/
theorem fifth_pos_and_finite_iff (h : 0 < s) :
    0 < s / 5 ∧ (s / 5).isFinite ↔ s.isFinite ∧ Float.ofBits 3 ≤ s := by
  obtain rfl | ⟨m, hm, hne, rfl⟩ | ⟨m, q, hs, hm⟩ := span_cases h
  · decide
  · have hfew : ∀ m < 16, m ≠ 0 → (0 < steps m / 5 ∧ (steps m / 5).isFinite ↔
        (steps m).isFinite ∧ Float.ofBits 3 ≤ steps m) := by decide
    exact hfew m hm hne
  · obtain ⟨m', q', hfifth, hm', -, -⟩ := exists_ofFloat_fifth hs hm
    exact iff_of_true
      ⟨Double.pos_iff.mpr (.inr ⟨_, _, hfifth, hm'⟩), Double.isFinite_iff.mpr ⟨_, _, _, hfifth⟩⟩
      ⟨Double.isFinite_iff.mpr ⟨_, _, _, hs⟩, steps_le_of_large (by decide : 3 < 16) hs hm⟩

/-! ### Bins between bounds -/

/-- The bin that a measure falls into between bounds. -/
def binBetween (low high x : Float) : Nat := binOf ((x - low) / binWidth low high)

theorem counts_between (low high : Float) (xs : List Float) : (between low high xs).counts =
    (List.range bins).map fun bin => xs.countP (binBetween low high · == bin) := by
  simp only [between, List.count, List.countP_map]
  rfl

/-- A zero divided by anything is zero or no number, and so falls into the first bin. -/
theorem binOf_zero_div {negative : Bool} (hz : ofFloat z = finite negative 0 (-1074)) (w : Float) :
    binOf (z / w) = 0 := by
  have hunpack : z.toModel.unpack = .zero (sign negative) := by
    rw [unpack_eq, hz]
    rfl
  have hzero : ∀ s, binOf (.ofModel (.pack (.zero s))) = 0 := by
    intro s
    obtain ⟨negative, hs⟩ : ∃ negative, ofFloat (.ofModel (.pack (.zero s))) =
        finite negative 0 (-1074) := by
      cases s
      case positive => exact ⟨false, by decide⟩
      case negative => exact ⟨true, by decide⟩
    have hwhole : wholePart 0 (-1074) = 0 := by rw [wholePart_of_neg (by decide), Nat.zero_div]
    rw [binOf, hs]
    cases negative
    case false => simp only [hwhole, Nat.min_zero]
    case true => rfl
  have hnone : binOf (.ofModel (.pack .notANumber)) = 0 := by decide
  rw [Double.div_eq, hunpack]
  cases w.toModel.unpack with
  | zero _ | notANumber => exact hnone
  | infinity _ | finite _ _ _ _ => exact hzero _

/-- Whatever equals the least measure falls into the first bin. -/
theorem binBetween_of_beq_low (hx : x.isFinite) (hlow : low.isFinite) (h : x == low)
    (high : Float) : binBetween low high x = 0 := by
  obtain ⟨negative, hzero⟩ :=
    Double.exists_ofFloat_sub_self hx hlow ((Double.beq_iff hx hlow).mp h)
  exact binOf_zero_div hzero _

theorem binWidth_of_lt (hlow : low.isFinite) (hhigh : high.isFinite) (h : low < high) :
    binWidth low high = (high - low) / 5 :=
  if_pos (Double.sub_pos hhigh hlow h)

/-- Whatever equals the greatest measure falls into the last bin exactly if the measures span a
finite number of steps, and at least four. -/
theorem binBetween_eq_last_iff (hlow : low.isFinite) (hhigh : high.isFinite) (h : low < high)
    (hx : x == high) : binBetween low high x = 4 ↔
      (high - low).isFinite ∧ Float.ofBits 4 ≤ high - low := by
  rw [binBetween, Double.sub_congr_left hhigh hlow hx h, binWidth_of_lt hlow hhigh h]
  exact binOf_span_eq_last_iff (Double.sub_pos hhigh hlow h)

/-! ### Measures of numbers -/

theorem isFinite_nearestInt (n : Int64) : (Double.nearestInt n.toInt).isFinite := by
  have hlow := n.le_toInt
  have hhigh := n.toInt_lt
  refine isFinite_nearest _ (nearestBits_lt ?_)
  omega

theorem isFinite_of_finite? {cs : List Char} (h : Kind.finite? cs = some x) : x.isFinite :=
  (Option.filter_eq_some_iff.mp h).2

/-- The measures of numbers are finite. -/
theorem isFinite_of_measure? {type : ColumnType} (htype : type = .int ∨ type = .float) {c : Cell}
    (h : measure? type c = some x) : x.isFinite := by
  obtain rfl | rfl := htype
  · cases c with
    | int n =>
      cases h
      exact isFinite_nearestInt n
    | float y =>
      obtain ⟨hy, hx⟩ := Option.ite_none_right_eq_some.mp h
      cases hx
      exact Double.isFinite_truncated hy
    | text s =>
      obtain ⟨n, -, rfl⟩ := Option.map_eq_some_iff.mp h
      exact isFinite_nearestInt n
    | _ => cases h
  · cases c with
    | int n =>
      cases h
      exact isFinite_nearestInt n
    | float y =>
      obtain ⟨hy, hx⟩ := Option.ite_none_right_eq_some.mp h
      cases hx
      exact hy
    | text s => exact isFinite_of_finite? h
    | _ => cases h

/-- The extent of finite measures bounds their values. -/
theorem IsExtent.bounds (h : IsExtent xs low high) (hfinite : ∀ x ∈ xs, x.isFinite) (hx : x ∈ xs) :
    low ≤ x ∧ x ≤ high := by
  have hlow := hfinite low h.low_mem
  have hhigh := hfinite high h.high_mem
  have hx' := hfinite x hx
  exact ⟨(Double.le_iff hlow hx').mpr (Double.value_le_of_rank_le hlow hx' (h.low_le x hx)),
    (Double.le_iff hx' hhigh).mpr (Double.value_le_of_rank_le hx' hhigh (h.le_high x hx))⟩

/-- Measures that are not all equal have a least one below the greatest. -/
theorem IsExtent.lt (h : IsExtent xs low high) (hfinite : ∀ x ∈ xs, x.isFinite) (hx : x ∈ xs)
    (hy : y ∈ xs) (hne : ¬ x == y) : low < high := by
  obtain ⟨hlowx, hxhigh⟩ := h.bounds hfinite hx
  obtain ⟨hlowy, hyhigh⟩ := h.bounds hfinite hy
  have hlow := hfinite low h.low_mem
  have hhigh := hfinite high h.high_mem
  have hx := hfinite x hx
  have hy := hfinite y hy
  rw [Double.le_iff hlow hx] at hlowx
  rw [Double.le_iff hx hhigh] at hxhigh
  rw [Double.le_iff hlow hy] at hlowy
  rw [Double.le_iff hy hhigh] at hyhigh
  rw [Double.beq_iff hx hy] at hne
  rw [Double.lt_iff hlow hhigh]
  refine lt_of_not_ge fun hle => hne (le_antisymm ?_ ?_) <;> linarith

end Histogram

namespace Table

open Histogram

/-- **The outer bins hold the extremes unless the span is out of range.** Take any table, any of its
columns and a type of numbers. The measures of the column are finite, and each bin of the histogram
counts those that fall into it. Unless all are equal, there are a least and a greatest one. Whatever
equals the least is in the first bin. Whatever equals the greatest is in the last bin exactly if the
difference of both does not overflow and is at least four times the least positive double. The width
of the bins is positive and finite exactly if the difference does not overflow and is at least three
times the least positive double. -/
theorem outer_bins_iff (t : Table) (column : String) {type : ColumnType}
    (htype : type = .int ∨ type = .float) : ∃ xs low high,
      measures? type (t.column column) = some xs ∧ extent xs = (low, high) ∧
      t.histogram column type = .ok (between low high xs) ∧
      (between low high xs).counts =
        (List.range 5).map (fun bin => xs.countP (binBetween low high · == bin)) ∧
      (∀ x ∈ xs, x.isFinite ∧ low ≤ x ∧ x ≤ high) ∧
      ((∃ x ∈ xs, ∃ y ∈ xs, ¬ x == y) → low ∈ xs ∧ high ∈ xs ∧ low < high ∧
        (∀ x ∈ xs, x == low → binBetween low high x = 0) ∧
        (∀ x ∈ xs, x == high → (binBetween low high x = 4 ↔
          (high - low).isFinite ∧ Float.ofBits 4 ≤ high - low)) ∧
        (0 < binWidth low high ∧ (binWidth low high).isFinite ↔
          (high - low).isFinite ∧ Float.ofBits 3 ≤ high - low)) := by
  have hb : type ≠ .boolean := by
    obtain rfl | rfl := htype <;> decide
  obtain ⟨xs, hxs⟩ : ∃ xs, xs = (t.column column).filterMap (measure? type) := ⟨_, rfl⟩
  have hfinite : ∀ x ∈ xs, x.isFinite := by
    rw [hxs]
    intro x hx
    obtain ⟨c, -, hc⟩ := List.mem_filterMap.mp hx
    exact isFinite_of_measure? htype hc
  obtain ⟨low, high, hextent⟩ : ∃ low high, extent xs = (low, high) := ⟨_, _, rfl⟩
  have hisExtent : ∀ x ∈ xs, IsExtent xs low high := fun x hx => by
    have h := isExtent_extent (List.ne_nil_of_mem hx)
    rwa [hextent] at h
  refine ⟨xs, low, high, (measures?_eq hb _).trans (congrArg some hxs.symm), hextent, ?_,
    counts_between low high xs, fun x hx => ⟨hfinite x hx, (hisExtent x hx).bounds hfinite hx⟩, ?_⟩
  · rw [histogram_of_ne_boolean hb, ← hxs, ofMeasures_eq_between, hextent]
  · rintro ⟨x, hx, y, hy, hne⟩
    have h := hisExtent x hx
    have hlow := hfinite low h.low_mem
    have hhigh := hfinite high h.high_mem
    have hlt := h.lt hfinite hx hy hne
    refine ⟨h.low_mem, h.high_mem, hlt, fun z hz heq => ?_, fun z hz heq => ?_, ?_⟩
    · exact binBetween_of_beq_low (hfinite z hz) hlow heq high
    · exact binBetween_eq_last_iff hlow hhigh hlt heq
    · rw [binWidth_of_lt hlow hhigh hlt]
      exact fifth_pos_and_finite_iff (Double.sub_pos hhigh hlow hlt)

/-- Four steps are enough. -/
theorem four_steps_in_outer_bins :
    let t := Table.ofRecords ["x"] [[.float 0], [.float (Float.ofBits 4)]]
    (ColumnType.float = .int ∨ ColumnType.float = .float) ∧
    t.histogram "x" .float = .ok (between 0 (Float.ofBits 4) [0, Float.ofBits 4]) ∧
    binBetween 0 (Float.ofBits 4) 0 = 0 ∧ binBetween 0 (Float.ofBits 4) (Float.ofBits 4) = 4 := by
  intro t
  have htype : ColumnType.float = .int ∨ ColumnType.float = .float := .inr rfl
  obtain ⟨xs, low, high, hxs, hextent, hdrawn, -, -, houter⟩ := outer_bins_iff t "x" htype
  have hmeasures : measures? .float (t.column "x") = some [0, Float.ofBits 4] := by decide
  obtain rfl := Option.some.inj (hmeasures.symm.trans hxs)
  have hbounds : extent [0, Float.ofBits 4] = (0, Float.ofBits 4) := by decide
  obtain ⟨rfl, rfl⟩ := Prod.mk.inj (hbounds.symm.trans hextent)
  obtain ⟨hlow, hhigh, -, hfirst, hlast, -⟩ :=
    houter ⟨0, List.mem_cons_self, Float.ofBits 4, by simp, by decide⟩
  exact ⟨htype, hdrawn, hfirst 0 hlow (by decide), (hlast _ hhigh (by decide)).mpr (by decide)⟩

/-- With the span of one step the width is zero, and with that of three steps it is too great by
two thirds. With a span that overflows it is infinite. The last bin stays empty in all three. -/
theorem greatest_left_out :
    let counts := fun low high : Float =>
      ((Table.ofRecords ["x"] [[.float low], [.float high]]).histogram "x" .float).toOption.map
        (·.counts)
    counts 0 (Float.ofBits 1) = some [2, 0, 0, 0, 0] ∧
    counts 0 (Float.ofBits 3) = some [1, 0, 0, 1, 0] ∧
    counts (-1e308) 1e308 = some [2, 0, 0, 0, 0] ∧
    binWidth 0 (Float.ofBits 1) = 0 ∧ binWidth (-1e308) 1e308 = 1 / 0 := by
  decide +kernel

end Table

end Tabular
