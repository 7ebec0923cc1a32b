import Tabular.Proofs.Number.Exact

/-!
# What rounds to a double

Every double owns an interval of numbers, which reaches half way to its neighbours (`Binary.Owns`).
The ends belong to it if its significand is even, and the interval is shorter below the first double
of a binade. **A quotient is rounded to the double that owns it** (`Binary.nearest_eq`), in whatever
form its two terms are given: the unit is found from their lengths, and in that unit the significand
is the nearest whole number. The first double of a binade also owns numbers of the binade below,
where the significand is rounded up to one bit more and carries over.
-/

namespace Tabular

/-! ### Intervals -/

/-- The number lies between two others, which count as well if `closed`. -/
def Within {α : Type} [LE α] [LT α] (closed : Bool) (low high v : α) : Prop :=
  if closed then low ≤ v ∧ v ≤ high else low < v ∧ v < high

section Within

variable {closed : Bool}

theorem Within.le {α : Type} [Preorder α] {low high v : α} (h : Within closed low high v) :
    low ≤ v ∧ v ≤ high := by
  rw [Within] at h
  split at h
  · exact h
  · exact ⟨h.1.le, h.2.le⟩

theorem Within.mono {α : Type} [Preorder α] {low low' high high' v : α}
    (h : Within closed low high v) (hlow : low' ≤ low) (hhigh : high ≤ high') :
    Within closed low' high' v := by
  rw [Within] at h ⊢
  split at h
  next hclosed => exact if_pos hclosed ▸ ⟨hlow.trans h.1, h.2.trans hhigh⟩
  next hopen => exact if_neg hopen ▸ ⟨hlow.trans_lt h.1, h.2.trans_le hhigh⟩

/-- Intervals may be stretched. -/
theorem within_mul_iff {low high v c : ℚ} (hc : 0 < c) :
    Within closed (low * c) (high * c) (v * c) ↔ Within closed low high v := by
  simp only [Within, mul_le_mul_iff_of_pos_right hc, mul_lt_mul_iff_of_pos_right hc]

theorem within_natCast_iff {low high v : Nat} :
    Within closed (low : ℚ) (high : ℚ) (v : ℚ) ↔ Within closed low high v := by
  simp only [Within, Nat.cast_le, Nat.cast_lt]

end Within

namespace Binary

variable {m : Nat} {q : Int} {v : ℚ}

/-! ### Intervals of doubles -/

/-- How many quarters of the unit lie between a double and the lower end of its interval. A double
at the lower end of its binade has a neighbour below at half the distance. -/
def lowSteps (m : Nat) (q : Int) : Nat := if m = 2 ^ 52 ∧ q ≠ -1074 then 1 else 2

/-- The number is nearer to `m · 2 ^ q` than to its neighbours among the doubles, or as near and
`m` is even. -/
def Owns (m : Nat) (q : Int) (v : ℚ) : Prop :=
  Within (m % 2 == 0) ((4 * m - lowSteps m q) * 2 ^ (q - 2) : ℚ) ((4 * m + 2) * 2 ^ (q - 2) : ℚ) v

theorem lowSteps_bounds (m : Nat) (q : Int) : 0 < lowSteps m q ∧ lowSteps m q ≤ 2 := by
  rw [lowSteps]
  split <;> decide

/-- The unit and its half in quarters. -/
theorem unit_eq (q : Int) :
    (2 : ℚ) ^ q = 4 * 2 ^ (q - 2) ∧ (2 : ℚ) ^ (q - 1) = 2 * 2 ^ (q - 2) := by
  rw [zpow_sub₀ two_ne_zero, zpow_sub₀ two_ne_zero]
  constructor <;> norm_num <;> ring

theorem Owns.pos (h : Owns m q v) (hm : m ≠ 0) : 0 < v := by
  have hone : (1 : ℚ) ≤ m := by exact_mod_cast Nat.one_le_iff_ne_zero.mpr hm
  have hsteps : (lowSteps m q : ℚ) ≤ 2 := by exact_mod_cast (lowSteps_bounds m q).2
  have hquarter : (0 : ℚ) < 2 ^ (q - 2) := by positivity
  calc (0 : ℚ) < (4 * m - lowSteps m q) * 2 ^ (q - 2) := mul_pos (by linarith) hquarter
    _ ≤ v := h.le.1

/-- A double owns itself and all above it within two quarters of its unit. -/
theorem owns_of_lt (hle : m * 2 ^ q ≤ v) (hlt : v < m * 2 ^ q + 2 * 2 ^ (q - 2)) : Owns m q v := by
  have hsteps : (0 : ℚ) < lowSteps m q := by exact_mod_cast (lowSteps_bounds m q).1
  have hquarter : (0 : ℚ) < 2 ^ (q - 2) := by positivity
  rw [(unit_eq q).1] at hle hlt
  rw [Owns, Within]
  split <;> constructor <;> nlinarith

/-! ### The unit of a quotient -/

section Quotient

variable {a b n d k : Nat} {t : Int}

/-- A quotient is scaled to a unit exactly. -/
theorem descale_div (a : Nat) (hb : 0 < b) (t : Int) : 0 < (descale a b t).2 ∧
    ((descale a b t).1 / (descale a b t).2 : ℚ) * 2 ^ t = a / b := by
  have hb' : (b : ℚ) ≠ 0 := by exact_mod_cast hb.ne'
  rw [descale]
  split
  next h =>
    obtain ⟨j, rfl⟩ := Int.eq_ofNat_of_zero_le h
    refine ⟨Nat.mul_pos hb (Nat.pow_pos (by decide)), ?_⟩
    simp
    field_simp
  next h =>
    obtain ⟨j, rfl⟩ := Int.eq_negSucc_of_lt_zero (not_le.mp h)
    refine ⟨hb, ?_⟩
    simp
    field_simp

private theorem le_of_scaled {i j : Int} (h : (2 ^ 52 * 2 ^ i : ℚ) < 2 ^ 53 * 2 ^ j) : i ≤ j := by
  have hlt : (2 : ℚ) ^ i < 2 ^ (j + 1) := by
    rw [zpow_add_one₀ two_ne_zero]
    linarith
  have := (zpow_lt_zpow_iff_right₀ one_lt_two).mp hlt
  omega

/-- The lengths of two numbers tell their quotient up to a factor of four. -/
private theorem div_bounds {q : Int} (ha : 0 < a) (hb : 0 < b)
    (hq : (a.log2 : Int) - b.log2 - 52 = q) :
    (2 ^ 51 * 2 ^ q : ℚ) ≤ a / b ∧ (a / b : ℚ) < 2 ^ 53 * 2 ^ q := by
  have hb' : (0 : ℚ) < b := by exact_mod_cast hb
  have halow : (2 : ℚ) ^ a.log2 ≤ a := by exact_mod_cast Nat.log2_self_le ha.ne'
  have hahigh : (a : ℚ) < 2 ^ (a.log2 + 1) := by exact_mod_cast Nat.lt_log2_self
  have hblow : (2 : ℚ) ^ b.log2 ≤ b := by exact_mod_cast Nat.log2_self_le hb.ne'
  have hbhigh : (b : ℚ) < 2 ^ (b.log2 + 1) := by exact_mod_cast Nat.lt_log2_self
  have hpower : (2 : ℚ) ^ a.log2 = 2 ^ q * 2 ^ 52 * 2 ^ b.log2 := by
    have hsum : (a.log2 : Int) = q + (52 : Nat) + b.log2 := by omega
    rw [← zpow_natCast, hsum, zpow_add₀ two_ne_zero, zpow_add₀ two_ne_zero, zpow_natCast,
      zpow_natCast]
  rw [pow_succ] at hahigh hbhigh
  constructor
  · rw [le_div_iff₀ hb']
    calc (2 ^ 51 * 2 ^ q * b : ℚ) ≤ 2 ^ 51 * 2 ^ q * (2 ^ b.log2 * 2) := by gcongr
      _ = 2 ^ a.log2 := by rw [hpower]; ring
      _ ≤ a := halow
  · rw [div_lt_iff₀ hb']
    calc (a : ℚ) < 2 ^ a.log2 * 2 := hahigh
      _ = 2 ^ 53 * 2 ^ q * 2 ^ b.log2 := by rw [hpower]; ring
      _ ≤ 2 ^ 53 * 2 ^ q * b := by gcongr

/-- **The unit of a quotient** is the one in which its whole part has 53 bits, or the least. -/
theorem exponentOf_eq (ha : 0 < a) (hb : 0 < b) (hle : -1074 ≤ t)
    (hlt : (a / b : ℚ) < 2 ^ 53 * 2 ^ t) (hfull : t = -1074 ∨ (2 ^ 52 * 2 ^ t : ℚ) ≤ a / b) :
    exponentOf a b = t := by
  obtain ⟨q, hq⟩ : ∃ q : Int, (a.log2 : Int) - b.log2 - 52 = q := ⟨_, rfl⟩
  obtain ⟨hhalf, hwhole⟩ := div_bounds ha hb hq
  obtain ⟨hpos, hdiv⟩ := descale_div a hb q
  have hpos : (0 : ℚ) < (descale a b q).2 := by exact_mod_cast hpos
  have hunit : (0 : ℚ) < 2 ^ q := by positivity
  have hbelow : (descale a b q).1 < 2 ^ 52 * (descale a b q).2 ↔ (a / b : ℚ) < 2 ^ 52 * 2 ^ q := by
    rw [← hdiv, mul_lt_mul_iff_of_pos_right hunit, div_lt_iff₀ hpos]
    exact_mod_cast Iff.rfl
  have hnext : (2 : ℚ) ^ q = 2 * 2 ^ (q - 1) := by rw [← zpow_one_add₀ two_ne_zero, add_sub_cancel]
  -- the exponent that leaves 53 bits, which may be too small for a double
  obtain ⟨s, hs, hsbelow, hsabove⟩ : ∃ s, (if (a / b : ℚ) < 2 ^ 52 * 2 ^ q then q - 1 else q) = s ∧
      (a / b : ℚ) < 2 ^ 53 * 2 ^ s ∧ (2 ^ 52 * 2 ^ s : ℚ) ≤ a / b := by
    refine ⟨_, rfl, ?_⟩
    split
    next h =>
      rw [hnext] at h hhalf
      constructor <;> linarith
    next h => exact ⟨hwhole, not_lt.mp h⟩
  have hst := le_of_scaled (hsabove.trans_lt hlt)
  simp only [exponentOf, hq, hbelow, hs]
  obtain rfl | hfull := hfull
  · omega
  · have hts := le_of_scaled (hfull.trans_lt hsbelow)
    omega

/-! ### Rounding to a whole number -/

/-- A quotient is rounded to the whole number that it is within half of, to an even one also from
there. -/
theorem roundDiv_eq (hd : 0 < d)
    (h : Within (k % 2 == 0) (2 * (d * k)) (2 * (d * k) + 2 * d) (2 * n + d)) :
    roundDiv n d = k := by
  have hdiv := Nat.div_add_mod n d
  have hmod := Nat.mod_lt n hd
  obtain ⟨hlow, hhigh⟩ := h.le
  -- no other whole numbers than the two around the quotient are that near
  obtain rfl | rfl : k = n / d ∨ k = n / d + 1 := by
    have hlow : n / d ≤ k := by
      by_contra hlt
      have := Nat.mul_le_mul_left d (Nat.succ_le_of_lt (Nat.lt_of_not_le hlt))
      rw [Nat.mul_succ] at this
      omega
    have hhigh : k ≤ n / d + 1 := by
      by_contra hlt
      have := Nat.mul_le_mul_left d (Nat.succ_le_of_lt (Nat.lt_of_not_le hlt))
      rw [Nat.mul_succ, Nat.mul_succ] at this
      omega
    omega
  · rw [Within] at h
    simp only [roundDiv]
    grind
  · rw [Within, Nat.mul_succ] at h
    simp only [roundDiv]
    grind

/-- The bits of a quotient whose unit is known: it is within half of a whole number of units. -/
theorem nearestBits_eq_of_unit (ha : 0 < a) (hb : 0 < b) (ht : exponentOf a b = t)
    (h : Within (k % 2 == 0) (k - 1 / 2 : ℚ) (k + 1 / 2 : ℚ) (a / b / 2 ^ t)) :
    nearestBits a b = min ((t + 1074).toNat * 2 ^ 52 + k) (2047 * 2 ^ 52) := by
  obtain ⟨hpos, hdiv⟩ := descale_div a hb t
  obtain ⟨n, d, hnd⟩ : ∃ n d, descale a b t = (n, d) := ⟨_, _, rfl⟩
  rw [hnd] at hpos hdiv
  have hd : (0 : ℚ) < d := by exact_mod_cast hpos
  have hunit : (2 : ℚ) ^ t ≠ 0 := by positivity
  rw [← hdiv, mul_div_cancel_right₀ _ hunit] at h
  have hcleared : Within (k % 2 == 0) (2 * (d * k)) (2 * (d * k) + 2 * d) (2 * n + d) := by
    rw [← within_natCast_iff]
    have hscale : (0 : ℚ) < 2 * d := by positivity
    have hscaled := (within_mul_iff hscale).mpr h
    have hquotient : (n / d : ℚ) * (2 * d) = 2 * n := by field_simp
    rw [hquotient] at hscaled
    push_cast
    rw [Within] at hscaled ⊢
    split at hscaled
    next heven =>
      rw [if_pos heven]
      constructor <;> linarith
    next hodd =>
      rw [if_neg hodd]
      constructor <;> linarith
  rw [nearestBits, if_neg ha.ne']
  simp only [ht, hnd, roundDiv_eq hpos hcleared]

/-! ### Numbers owned by a double -/

private theorem place_lt (h : Canonical m q) (hmax : q ≤ 971) : place m q < 2047 * 2 ^ 52 := by
  obtain ⟨hlt, hle, -⟩ := h
  rw [place]
  omega

/-- Rounding in the binade of the double. -/
private theorem nearestBits_eq_of_le (h : Canonical m q) (hmax : q ≤ 971) (ha : 0 < a) (hb : 0 < b)
    (hv : Owns m q (a / b)) (hbinade : q = -1074 ∨ (2 ^ 52 * 2 ^ q : ℚ) ≤ a / b) :
    nearestBits a b = place m q := by
  have hquarter : (0 : ℚ) < 2 ^ (q - 2) := by positivity
  have hunit := (unit_eq q).1
  have hm : (m : ℚ) + 1 ≤ 2 ^ 53 := by exact_mod_cast h.lt
  have hsteps : (lowSteps m q : ℚ) ≤ 2 := by exact_mod_cast (lowSteps_bounds m q).2
  have hbelow : (a / b : ℚ) < 2 ^ 53 * 2 ^ q := by
    rw [hunit]
    nlinarith [hv.le.2]
  have hwithin : Within (m % 2 == 0) (m - 1 / 2 : ℚ) (m + 1 / 2 : ℚ) (a / b / 2 ^ q) := by
    have hunitpos : (0 : ℚ) < 2 ^ q := by positivity
    rw [← within_mul_iff hunitpos, div_mul_cancel₀ _ hunitpos.ne', hunit]
    exact hv.mono (by nlinarith) (by nlinarith)
  rw [nearestBits_eq_of_unit ha hb (exponentOf_eq ha hb h.le hbelow hbinade) hwithin]
  exact Nat.min_eq_left (place_lt h hmax).le

/-- Rounding up from the binade below. -/
private theorem nearestBits_eq_of_lt (h : Canonical m q) (hmax : q ≤ 971) (ha : 0 < a) (hb : 0 < b)
    (hv : Owns m q (a / b)) (hq : q ≠ -1074) (hless : (a / b : ℚ) < 2 ^ 52 * 2 ^ q) :
    nearestBits a b = place m q := by
  have hquarter : (0 : ℚ) < 2 ^ (q - 2) := by positivity
  obtain ⟨hunit, hhalf⟩ := unit_eq q
  have hfull := h.full
  have hle := h.le
  -- of all doubles in a binade only the first owns numbers below it
  have hm : m = 2 ^ 52 := by
    by_contra hne
    have hsteps : (lowSteps m q : ℚ) ≤ 2 := by exact_mod_cast (lowSteps_bounds m q).2
    have hmore : (2 ^ 52 + 1 : ℚ) ≤ m := by
      have hmore : 2 ^ 52 + 1 ≤ m := by omega
      exact_mod_cast hmore
    rw [hunit] at hless
    nlinarith [hv.le.1]
  subst hm
  have hstep : lowSteps (2 ^ 52) q = 1 := if_pos ⟨rfl, hq⟩
  have hlow := hv.le.1
  rw [hstep] at hlow
  push_cast at hlow
  rw [hunit] at hless
  have hbelow : (a / b : ℚ) < 2 ^ 53 * 2 ^ (q - 1) := by linarith
  have habove : (2 ^ 52 * 2 ^ (q - 1) : ℚ) ≤ a / b := by linarith
  have hwithin : Within (2 ^ 53 % 2 == 0) ((2 ^ 53 : Nat) - 1 / 2 : ℚ) ((2 ^ 53 : Nat) + 1 / 2 : ℚ)
      (a / b / 2 ^ (q - 1)) := by
    have hpos : (0 : ℚ) < 2 ^ (q - 1) := by positivity
    rw [← within_mul_iff hpos, div_mul_cancel₀ _ hpos.ne', hhalf, Within, if_pos (by decide)]
    push_cast
    constructor <;> linarith
  rw [nearestBits_eq_of_unit ha hb (exponentOf_eq ha hb (by omega) hbelow (.inr habove)) hwithin,
    place]
  omega

/-- **What a double owns gets its bits.** -/
theorem nearestBits_eq (h : Canonical m q) (hmax : q ≤ 971) (hb : 0 < b) (hv : Owns m q (a / b)) :
    nearestBits a b = place m q := by
  obtain rfl | ha := Nat.eq_zero_or_pos a
  · have hm : m = 0 := by
      by_contra hm
      simpa using hv.pos hm
    have hfull := h.full
    rw [nearestBits, if_pos rfl, place]
    omega
  by_cases hbinade : q = -1074 ∨ (2 ^ 52 * 2 ^ q : ℚ) ≤ a / b
  · exact nearestBits_eq_of_le h hmax ha hb hv hbinade
  · obtain ⟨hq, hless⟩ := not_or.mp hbinade
    exact nearestBits_eq_of_lt h hmax ha hb hv hq (not_le.mp hless)

/-- **A quotient is rounded to the double that owns it.** -/
theorem nearest_eq {x : Float} {negative : Bool} (hx : ofFloat x = finite negative m q) (hb : 0 < b)
    (hv : Owns m q (a / b)) : nearest negative a b = x := by
  obtain ⟨hcanonical, hmax, hbits⟩ := ofFloat_eq_finite_iff.mp hx
  rw [nearest, nearestBits_eq hcanonical hmax hb hv, ← hbits]
  simp

end Quotient

end Binary

end Tabular
