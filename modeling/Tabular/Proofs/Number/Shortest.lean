import Tabular.Number.Text
import Tabular.Proofs.Number.Nearest

/-!
# The shortest decimal of a double

The shortest decimal is searched for on grids of powers of ten, from coarse to fine, and the first
grid that has a point in the interval of the double gives it. So **it rounds to the double**
(`Decimal.shortest_spec`), and no grid that is coarser than its own would do. A whole number lies on
the grid of whole numbers itself, so its shortest decimal has no places; and no interval is so small
that a grid of 340 places misses it, so the search does not end without a point.
-/

namespace Tabular

namespace Decimal

/-! ### Points of a grid -/

section Grid

variable {closed : Bool} {low value high unit n k : Nat} {e : Int}

/-- The point taken lies within the interval. -/
theorem within_of_gridPoint {tie : Tie} (hlow : low < value) (hhigh : value < high)
    (hunit : 0 < unit) (h : gridPoint tie closed low value high unit = some n) :
    Within closed low high (n * unit) := by
  have hbelow : value / unit * unit ≤ value := Nat.div_mul_le_self _ _
  have habove : value < (value / unit + 1) * unit :=
    (Nat.div_lt_iff_lt_mul hunit).mp (Nat.lt_succ_self _)
  simp only [gridPoint] at h
  simp only [Within]
  cases closed <;> simp only [Bool.false_eq_true, if_false, if_true] at h ⊢ <;> grind

/-- A grid with a point in the interval has one next to the value. -/
theorem isSome_gridPoint (tie : Tie) (value : Nat) (hk : Within closed low high (k * unit)) :
    (gridPoint tie closed low value high unit).isSome := by
  have hside : k * unit ≤ value / unit * unit ∨ (value / unit + 1) * unit ≤ k * unit := by
    obtain hle | hlt := Nat.lt_or_ge (value / unit) k
    · exact .inr (Nat.mul_le_mul_right unit hle)
    · exact .inl (Nat.mul_le_mul_right unit hlt)
  simp only [gridPoint]
  simp only [Within] at hk
  cases closed <;> simp only [Bool.false_eq_true, if_false, if_true] at hk ⊢ <;> grind

/-- A point of the grid of `10 ^ e` against an interval given over a common denominator. -/
theorem within_scaled (hunit : 0 < unit) :
    Within closed (low * Nat.pow 10 (-e).toNat) (high * Nat.pow 10 (-e).toNat)
        (n * (unit * Nat.pow 10 e.toNat)) ↔
      Within closed (low / unit : ℚ) (high / unit : ℚ) (n * 10 ^ e) := by
  have hunit : (0 : ℚ) < unit := by exact_mod_cast hunit
  have hscale : (0 : ℚ) < unit * 10 ^ (-e).toNat := by positivity
  have hend (a : Nat) : ((a * Nat.pow 10 (-e).toNat : Nat) : ℚ) =
      a / unit * (unit * 10 ^ (-e).toNat) := by
    rw [Nat.pow_eq]
    push_cast
    field_simp
  have hpoint : ((n * (unit * Nat.pow 10 e.toNat) : Nat) : ℚ) =
      n * 10 ^ e * (unit * 10 ^ (-e).toNat) := by
    have hpower : (10 : ℚ) ^ e.toNat = 10 ^ e * 10 ^ (-e).toNat := by
      obtain ⟨k, rfl | rfl⟩ := Int.eq_nat_or_neg e <;> simp
    rw [Nat.pow_eq]
    push_cast
    rw [hpower]
    ring
  rw [← within_natCast_iff, hend, hend, hpoint, within_mul_iff hscale]

/-- **The first grid that meets the interval** is found, and the point taken lies within. -/
theorem coarsest_eq (tie : Tie) (hlow : low < value) (hhigh : value < high) (hunit : 0 < unit)
    {e₀ : Int} (hk : Within closed (low / unit : ℚ) (high / unit) (k * 10 ^ e₀)) :
    ∀ (tries : Nat) {e : Int}, e₀ ≤ e → e < e₀ + tries →
      ∃ n e', coarsest tie closed low value high unit e tries = ⟨n, e'⟩ ∧ e₀ ≤ e' ∧
        Within closed (low / unit : ℚ) (high / unit) (n * 10 ^ e')
  | 0, e, hle, hlt => by omega
  | tries + 1, e, hle, hlt => by
    have hup : 0 < unit * Nat.pow 10 e.toNat := Nat.mul_pos hunit (Nat.pow_pos (by decide))
    have hdown : 0 < Nat.pow 10 (-e).toNat := Nat.pow_pos (by decide)
    rw [coarsest]
    split
    next n hn =>
      refine ⟨n, e, rfl, hle, (within_scaled hunit).mp (within_of_gridPoint ?_ ?_ hup hn)⟩
      · exact Nat.mul_lt_mul_of_pos_right hlow hdown
      · exact Nat.mul_lt_mul_of_pos_right hhigh hdown
    next hnone =>
      obtain rfl | hne := eq_or_ne e e₀
      · have hsome := isSome_gridPoint tie (value * Nat.pow 10 (-e).toNat)
          ((within_scaled hunit).mpr hk)
        rw [hnone] at hsome
        exact absurd hsome Bool.false_ne_true
      · exact coarsest_eq tie hlow hhigh hunit hk tries (by omega) (by omega)

end Grid

end Decimal

namespace Binary

variable {m : Nat} {q : Int}

/-! ### Whole numbers -/

/-- A whole number is its own whole part. -/
theorem wholePart_eq (h : isWhole m q) : (wholePart m q : ℚ) = m * 2 ^ q := by
  obtain hq | hq := le_or_gt 0 q
  · rw [wholePart_of_nonneg hq]
    obtain ⟨k, rfl⟩ := Int.eq_ofNat_of_zero_le hq
    simp
  · obtain ⟨k, rfl⟩ := Int.eq_negSucc_of_lt_zero hq
    have hdvd : 2 ^ (k + 1) ∣ m := by simpa [isWhole, Nat.dvd_iff_mod_eq_zero] using h
    rw [wholePart_of_neg hq, zpow_negSucc, Int.neg_negSucc, Int.toNat_natCast,
      Nat.cast_div hdvd (by positivity)]
    push_cast
    rw [div_eq_mul_inv]

/-- A double with more places after the point than its significand has bits is no whole number. -/
theorem le_of_isWhole (h : Canonical m q) (hm : m ≠ 0) (hwhole : isWhole m q) : -52 ≤ q := by
  obtain hq | hq := le_or_gt 0 q
  · omega
  · obtain ⟨k, rfl⟩ := Int.eq_negSucc_of_lt_zero hq
    have hdvd : 2 ^ (k + 1) ∣ m := by simpa [isWhole, Nat.dvd_iff_mod_eq_zero] using hwhole
    have hlt : 2 ^ (k + 1) < 2 ^ 53 :=
      Nat.lt_of_le_of_lt (Nat.le_of_dvd (Nat.pos_of_ne_zero hm) hdvd) h.lt
    have hk := (Nat.pow_lt_pow_iff_right (by decide)).mp hlt
    omega

/-- A double owns no whole number other than itself if it is cut into units finer than one. -/
theorem eq_of_owns_natCast {n : Nat} (h : Owns m q n) (hq : q < 0) : n * 2 ^ (-q).toNat = m := by
  obtain ⟨k, rfl⟩ := Int.eq_negSucc_of_lt_zero hq
  obtain ⟨hlow, hhigh⟩ := h.le
  have hsteps : (lowSteps m (Int.negSucc k) : ℚ) ≤ 2 := by
    exact_mod_cast (lowSteps_bounds m (Int.negSucc k)).2
  have hscale : (0 : ℚ) < 2 ^ (k + 1) := by positivity
  have hquarter : (2 : ℚ) ^ (Int.negSucc k - 2) * 2 ^ (k + 1) = 1 / 4 := by
    rw [zpow_sub₀ two_ne_zero, zpow_negSucc]
    field_simp
    norm_num
  rw [← mul_le_mul_iff_of_pos_right hscale, mul_assoc, hquarter] at hlow hhigh
  have hbelow : 2 * m ≤ 2 * (n * 2 ^ (k + 1)) + 1 := by
    rw [← Nat.cast_le (α := ℚ)]
    push_cast
    linarith
  have habove : 2 * (n * 2 ^ (k + 1)) ≤ 2 * m + 1 := by
    rw [← Nat.cast_le (α := ℚ)]
    push_cast
    linarith
  rw [Int.neg_negSucc, Int.toNat_natCast]
  omega

/-- What owns a whole number is one itself, or is too large to be anything else. -/
theorem isWhole_of_owns {n : Nat} (h : Owns m q n) : isWhole m q := by
  rw [isWhole, Bool.or_eq_true, decide_eq_true_eq, beq_iff_eq]
  refine or_iff_not_imp_left.mpr fun hq => ?_
  rw [← eq_of_owns_natCast h (not_le.mp hq)]
  exact Nat.mul_mod_left _ _

end Binary

namespace Decimal

open Binary (Canonical Owns lowSteps)

variable {m n k : Nat} {q e : Int}

/-- The search in quarters of the unit, of which so many make up one over the common denominator. -/
private theorem exists_coarsest (tie : Tie) (hm : m ≠ 0) (hk : Owns m q (k * 10 ^ e))
    (hle : e ≤ topExponent q) (hlt : topExponent q < e + 1400) {step unit : Nat}
    (hstep : 0 < step) (hunit : 0 < unit)
    (hquarter : (step / unit : ℚ) = 2 ^ (q - 2)) :
    ∃ n e', coarsest tie (m % 2 == 0) (4 * m * step - lowSteps m q * step) (4 * m * step)
        (4 * m * step + 2 * step) unit (topExponent q) 1400 = ⟨n, e'⟩ ∧ e ≤ e' ∧
      Owns m q (n * 10 ^ e') := by
  have hsteps := Binary.lowSteps_bounds m q
  have hlow : lowSteps m q * step ≤ 4 * m * step := Nat.mul_le_mul_right _ (by omega)
  have hends : ((4 * m * step - lowSteps m q * step : Nat) / unit : ℚ) =
        (4 * m - lowSteps m q) * 2 ^ (q - 2) ∧
      ((4 * m * step + 2 * step : Nat) / unit : ℚ) = (4 * m + 2) * 2 ^ (q - 2) := by
    rw [← hquarter, Nat.cast_sub hlow]
    push_cast
    constructor <;> ring
  have hpos : 0 < lowSteps m q * step := Nat.mul_pos hsteps.1 hstep
  have hbelow : 4 * m * step - lowSteps m q * step < 4 * m * step := by omega
  have habove : 4 * m * step < 4 * m * step + 2 * step := by omega
  rw [Owns, ← hends.1, ← hends.2] at hk
  obtain ⟨n, e', hfound, he, hn⟩ := coarsest_eq tie hbelow habove hunit hk 1400 hle hlt
  rw [hends.1, hends.2] at hn
  exact ⟨n, e', hfound, he, hn⟩

/-- **The shortest decimal rounds to the double**, and it is on a grid at least as coarse as any
that has a point in the interval. -/
theorem exists_shortest (tie : Tie) (hm : m ≠ 0) (hk : Owns m q (k * 10 ^ e))
    (hle : e ≤ topExponent q) (hlt : topExponent q < e + 1400) :
    ∃ n e', shortest tie m q = ⟨n, e'⟩ ∧ e ≤ e' ∧ Owns m q (n * 10 ^ e') := by
  rw [shortest, if_neg hm]
  obtain hq | hq := le_or_gt 0 q
  · have hquarter : ((Nat.pow 2 q.toNat : Nat) / (4 : Nat) : ℚ) = 2 ^ (q - 2) := by
      obtain ⟨j, rfl⟩ := Int.eq_ofNat_of_zero_le hq
      rw [zpow_sub₀ two_ne_zero]
      norm_num
    simp only [if_pos hq]
    exact exists_coarsest tie hm hk hle hlt (Nat.pow_pos (by decide)) (by decide) hquarter
  · have hquarter : ((1 : Nat) / (4 * Nat.pow 2 (-q).toNat : Nat) : ℚ) = 2 ^ (q - 2) := by
      obtain ⟨j, rfl⟩ := Int.eq_negSucc_of_lt_zero hq
      rw [zpow_sub₀ two_ne_zero, zpow_negSucc]
      norm_num
      ring
    have hfound := exists_coarsest tie hm hk hle hlt Nat.one_pos
      (Nat.mul_pos (by decide) (Nat.pow_pos (by decide))) hquarter
    rw [Nat.mul_one] at hfound
    simp only [if_neg (not_le.mpr hq)]
    exact hfound

/-- The finest grid that is needed has points everywhere between doubles. -/
theorem exists_owns_finest (h : -1074 ≤ q) : ∃ k : Nat, Owns m q (k * 10 ^ (-340 : Int)) := by
  have hfine : (10 : ℚ) ^ (-340 : Int) ≤ 2 ^ (q - 2) := by
    have hbase : ((10 : ℚ) ^ 20)⁻¹ ≤ (2 ^ 64)⁻¹ := by norm_num
    calc (10 : ℚ) ^ (-340 : Int) = ((10 ^ 20)⁻¹) ^ 17 := by rw [inv_pow, ← pow_mul]; rfl
      _ ≤ ((2 ^ 64)⁻¹) ^ 17 := by gcongr
      _ = 2 ^ (-1088 : Int) := by rw [inv_pow, ← pow_mul]; rfl
      _ ≤ 2 ^ (q - 2) := zpow_le_zpow_right₀ one_le_two (by omega)
  obtain ⟨grid, hgrid⟩ : ∃ grid : ℚ, 10 ^ (-340 : Int) = grid := ⟨_, rfl⟩
  obtain ⟨v, hv⟩ : ∃ v : ℚ, m * 2 ^ q = v := ⟨_, rfl⟩
  have hpos : 0 < grid := by
    rw [← hgrid]
    positivity
  have hpositive : 0 ≤ v / grid := by
    rw [← hv]
    positivity
  have hfloor := Nat.floor_le hpositive
  rw [le_div_iff₀ hpos] at hfloor
  rw [hgrid] at hfine
  refine ⟨⌊v / grid⌋₊ + 1, Binary.owns_of_lt ?_ ?_⟩
  · rw [hv, hgrid, ← div_le_iff₀ hpos]
    push_cast
    exact (Nat.lt_floor_add_one _).le
  · rw [hv, hgrid]
    push_cast
    linarith

theorem topExponent_bounds (h : -1074 ≤ q) (hmax : q ≤ 971) :
    -340 ≤ topExponent q ∧ topExponent q < 1000 := by
  rw [topExponent]
  omega

/-- **The shortest decimal of a double** rounds to it. It has no more than 340 places, and none at
all exactly if the double is a whole number. -/
theorem shortest_spec (tie : Tie) (h : Canonical m q) (hmax : q ≤ 971) (hm : m ≠ 0) :
    ∃ n e, shortest tie m q = ⟨n, e⟩ ∧ Owns m q (n * 10 ^ e) ∧ n ≠ 0 ∧ -340 ≤ e ∧
      (0 ≤ e ↔ Binary.isWhole m q) := by
  obtain ⟨hlow, hhigh⟩ := topExponent_bounds h.le hmax
  obtain ⟨k, hk⟩ := exists_owns_finest (m := m) h.le
  obtain ⟨n, e, hshortest, he, hn⟩ := exists_shortest tie hm hk hlow (by omega)
  have hpos : n ≠ 0 := by
    rintro rfl
    simpa using hn.pos hm
  refine ⟨n, e, hshortest, hn, hpos, he, fun hplaces => ?_, fun hwhole => ?_⟩
  · obtain ⟨j, rfl⟩ := Int.eq_ofNat_of_zero_le hplaces
    have hwhole : (n * 10 ^ (j : Int) : ℚ) = (n * 10 ^ j : Nat) := by simp
    exact Binary.isWhole_of_owns (hwhole ▸ hn)
  have hw := Binary.wholePart_eq hwhole
  have hq := Binary.le_of_isWhole h hm hwhole
  have hown : Owns m q (Binary.wholePart m q * 10 ^ (0 : Int)) := by
    refine Binary.owns_of_lt ?_ ?_
    · simp [hw]
    · rw [hw]
      simp
      positivity
  have htop : 0 ≤ topExponent q := by
    rw [topExponent]
    omega
  obtain ⟨n', e', hshortest', he', -⟩ := exists_shortest tie hm hown htop (by omega)
  obtain ⟨-, rfl⟩ := Decimal.mk.inj (hshortest'.symm.trans hshortest)
  exact he'

end Decimal

end Tabular
