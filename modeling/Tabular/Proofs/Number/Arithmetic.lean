import Tabular.Proofs.Number.Rounding

/-!
# Differences, products and quotients of doubles

Division, multiplication and subtraction of doubles compute a result with the bits that rounding
needs, and leave the rest to rounding. So **a quotient of positive doubles is on the same side of all
numbers of 53 bits** as the exact one, as long as it is in range (`Double.exists_ofFloat_div`). So is a
product, which is finite unless the exact one exceeds all doubles (`Double.isFinite_mul`). A difference
is computed in the smaller one of both units, of which it is a whole number. It is zero for equal
values only, and **the difference between a double and a smaller one is positive**
(`Double.sub_pos`), however near they are.
-/

namespace Tabular

open Float.Model (Format UnpackedFloat totalExponent)
open Float.Model.UnpackedFloat (Sign ExtendedMantissa roundWithAccuracy)

namespace Binary

variable {negative₁ negative₂ : Bool} {m m₁ m₂ : Nat} {q q₁ q₂ : Int}

/-! ### Signs and zero -/

theorem sign_mul_sign (negative₁ negative₂ : Bool) :
    sign negative₁ * sign negative₂ = sign (negative₁ != negative₂) := by
  cases negative₁ <;> cases negative₂ <;> rfl

theorem canonical_zero : Canonical 0 (-1074) := ⟨by decide, by decide, .inl rfl⟩

/-! ### Division -/

/-- A quotient lies between its whole part and the next whole number. -/
theorem brackets_div (a : Nat) {b : Nat} (hb : 0 < b) (q : Int) :
    Brackets (.ofMantissaAndAccuracy (a / b) (UnpackedFloat.accuracyOfFraction (a % b) b)) q
      (a / b * 2 ^ q) := by
  have haccuracy : (ExtendedMantissa.ofMantissaAndAccuracy (a / b)
      (UnpackedFloat.accuracyOfFraction (a % b) b)).accuracy = .exact ↔ a % b = 0 := by
    rw [UnpackedFloat.accuracyOfFraction]
    split
    next h => exact iff_of_true rfl h
    next h =>
      refine iff_of_false ?_ h
      cases compare (2 * (a % b)) b <;> nofun
  have hbpos : (0 : ℚ) < b := by exact_mod_cast hb
  have hpos : (0 : ℚ) < 2 ^ q := by positivity
  have hdiv : (a : ℚ) = b * (a / b : Nat) + (a % b : Nat) := by
    exact_mod_cast (Nat.div_add_mod a b).symm
  have hmod : ((a % b : Nat) : ℚ) < b := by exact_mod_cast Nat.mod_lt a hb
  constructor
  · rw [mantissa_ofMantissaAndAccuracy]
    gcongr
    exact Nat.cast_div_le
  · rw [mantissa_ofMantissaAndAccuracy]
    gcongr
    rw [div_lt_iff₀ hbpos]
    linarith
  · rw [haccuracy, mantissa_ofMantissaAndAccuracy, mul_left_inj' hpos.ne', div_eq_iff hbpos.ne']
    constructor
    · intro h
      rw [h] at hdiv
      push_cast at hdiv
      linarith
    · intro h
      have hzero : ((a % b : Nat) : ℚ) = 0 := by linarith
      exact_mod_cast hzero

/-- A quotient has at most one bit less than the difference of lengths. -/
theorem log2_le_log2_div (a : Nat) {b : Nat} (hb : b ≠ 0) :
    a.log2 ≤ (a / b).log2 + b.log2 + 1 := by
  by_cases ha : a = 0
  · rw [ha, Nat.log2_zero]
    exact Nat.zero_le _
  · have hquotient : a / b + 1 ≤ 2 ^ ((a / b).log2 + 1) := Nat.lt_log2_self
    have hless : a < 2 ^ ((a / b).log2 + b.log2 + 2) := by
      calc a < (a / b + 1) * b :=
          (Nat.div_lt_iff_lt_mul (Nat.pos_of_ne_zero hb)).mp (Nat.lt_succ_self _)
        _ ≤ 2 ^ ((a / b).log2 + 1) * 2 ^ (b.log2 + 1) :=
          Nat.mul_le_mul hquotient (Nat.le_of_lt Nat.lt_log2_self)
        _ = 2 ^ ((a / b).log2 + b.log2 + 2) := by
          rw [← Nat.pow_add]
          congr 1
          omega
    have := (Nat.log2_lt ha).mpr hless
    omega

theorem log2_mul_two_pow (hm : m ≠ 0) (k : Nat) : m.log2 + k ≤ (m * 2 ^ k).log2 := by
  rw [Nat.le_log2 (Nat.mul_ne_zero hm (Nat.two_pow_pos k).ne'), Nat.pow_add]
  exact Nat.mul_le_mul_right _ (Nat.log2_self_le hm)

/-- A quotient is rounded to a number on the same side of all representable ones. -/
theorem exists_div (negative₁ negative₂ : Bool) (h₂ : m₂ ≠ 0) (q₁ q₂ : Int) :
    ∃ m q, UnpackedFloat.div .binary64 (toUnpacked (finite negative₁ m₁ q₁))
      (toUnpacked (finite negative₂ m₂ q₂)) = toUnpacked (finite (negative₁ != negative₂) m q) ∧
      Canonical m q ∧ Rounds ((m₁ * 2 ^ q₁) / (m₂ * 2 ^ q₂)) (m * 2 ^ q) := by
  by_cases h₁ : m₁ = 0
  · refine ⟨0, -1074, ?_, canonical_zero, by simp [h₁, Rounds]⟩
    rw [toUnpacked, toUnpacked, toUnpacked, dif_pos h₁, dif_neg h₂, dif_pos rfl, ← sign_mul_sign]
    rfl
  obtain ⟨k, hk⟩ : ∃ k : Nat, q₁ - q₂ - k = min (q₁ - q₂) (Format.binary64.targetExponent
    (totalExponent m₁ q₁ - totalExponent m₂ q₂)) := ⟨(q₁ - q₂ - min (q₁ - q₂)
      (Format.binary64.targetExponent (totalExponent m₁ q₁ - totalExponent m₂ q₂))).toNat, by omega⟩
  have hshift : (q₁ - q₂ - (q₁ - q₂ - k)).toNat = k := by omega
  have hdiv : UnpackedFloat.div .binary64 (toUnpacked (finite negative₁ m₁ q₁))
      (toUnpacked (finite negative₂ m₂ q₂)) =
        roundWithAccuracy .binary64 (sign (negative₁ != negative₂)) (m₁ * 2 ^ k / m₂) (q₁ - q₂ - k)
          (UnpackedFloat.accuracyOfFraction (m₁ * 2 ^ k % m₂) m₂) := by
    rw [toUnpacked, toUnpacked, dif_neg h₁, dif_neg h₂, ← sign_mul_sign]
    simp only [UnpackedFloat.div, UnpackedFloat.divCore, ← hk, hshift, Nat.shiftLeft_eq]
    rfl
  have hbrackets := brackets_div (m₁ * 2 ^ k) (Nat.pos_of_ne_zero h₂) (q₁ - q₂ - k)
  have hvalue : ((m₁ * 2 ^ k : Nat) / m₂ * 2 ^ (q₁ - q₂ - k) : ℚ) =
      (m₁ * 2 ^ q₁) / (m₂ * 2 ^ q₂) := by
    have hm₂ : (m₂ : ℚ) ≠ 0 := by exact_mod_cast h₂
    rw [zpow_sub₀ two_ne_zero, zpow_sub₀ two_ne_zero, zpow_natCast]
    push_cast
    field_simp
  rw [hvalue] at hbrackets
  rw [hdiv]
  refine exists_roundWithAccuracy _ ?_ hbrackets
  -- the quotient has been shifted far enough to be cut off, and not beyond
  rw [targetExponent_eq] at hk ⊢
  have hlog := log2_mul_two_pow h₁ k
  have hquotient := log2_le_log2_div (m₁ * 2 ^ k) h₂
  simp only [totalExponent] at hk ⊢
  omega

/-! ### Subtraction -/

theorem brackets_exact (m : Nat) (q : Int) :
    Brackets (.ofMantissaAndAccuracy m .exact) q (m * 2 ^ q) where
  le := le_rfl
  lt := by
    show (m * 2 ^ q : ℚ) < (m + 1) * 2 ^ q
    gcongr
    exact lt_add_one _
  exact := iff_of_true rfl rfl

theorem exists_round (negative : Bool) (hm : m ≠ 0) (q : Int) :
    ∃ m' q', UnpackedFloat.round .binary64 (sign negative) m q =
      toUnpacked (finite negative m' q') ∧ Canonical m' q' ∧
      Rounds (m * 2 ^ q) (m' * 2 ^ q') := by
  obtain ⟨k, hk⟩ : ∃ k, (q - Format.binary64.targetExponent (totalExponent m q)).toNat = k :=
    ⟨_, rfl⟩
  have hlog := log2_mul_two_pow hm k
  have hvalue : (m * 2 ^ q : ℚ) = (m * 2 ^ k : Nat) * 2 ^ (q - k) := by
    rw [zpow_sub₀ two_ne_zero, zpow_natCast]
    push_cast
    field_simp
  rw [hvalue]
  simp only [UnpackedFloat.round, UnpackedFloat.decreaseExponent, hk, Nat.shiftLeft_eq]
  refine exists_roundWithAccuracy negative ?_ (brackets_exact _ _)
  rw [targetExponent_eq, totalExponent] at hk ⊢
  omega

theorem Rounds.pos {r : ℚ} (h : Rounds (m * 2 ^ q) r) (hm : m ≠ 0) (hq : -1074 ≤ q) : 0 < r := by
  have hone : (1 : ℚ) ≤ m := by exact_mod_cast Nat.one_le_iff_ne_zero.mpr hm
  have hpos : (0 : ℚ) < 2 ^ q := by positivity
  have hunit : Representable (2 ^ q) := ⟨1, q, by decide, hq, by simp⟩
  refine hpos.trans_le ((h _ hunit).1 ?_)
  calc (2 : ℚ) ^ q = 1 * 2 ^ q := (one_mul _).symm
    _ ≤ m * 2 ^ q := by gcongr

/-- A number as a whole number of units that are at most its own. -/
theorem value_eq_apply {k : Int} (hk : k ≤ q) (negative : Bool) (m : Nat) :
    (finite negative m q).value =
      ((sign negative).apply (m * 2 ^ (q - k).toNat : Nat) : Int) * 2 ^ k := by
  have hmagnitude := magnitude_eq hk m
  cases negative
  case false => exact hmagnitude
  case true =>
    rw [value, if_pos rfl, hmagnitude, ← neg_mul]
    simp [sign, Sign.apply]

/-- Two numbers other than zero are subtracted as whole numbers of the smaller one of their units. -/
theorem exists_sub_eq_normalize (h₁ : m₁ ≠ 0) (h₂ : m₂ ≠ 0) :
    ∃ a : Int, UnpackedFloat.sub .binary64 (toUnpacked (finite negative₁ m₁ q₁))
      (toUnpacked (finite negative₂ m₂ q₂)) =
        UnpackedFloat.normalize .binary64 a (min q₁ q₂) .positive ∧
      (finite negative₁ m₁ q₁).value - (finite negative₂ m₂ q₂).value = a * 2 ^ min q₁ q₂ := by
  refine ⟨(sign negative₁).apply (m₁ * 2 ^ (q₁ - min q₁ q₂).toNat : Nat) -
    (sign negative₂).apply (m₂ * 2 ^ (q₂ - min q₁ q₂).toNat : Nat), ?_, ?_⟩
  · rw [toUnpacked, toUnpacked, dif_neg h₁, dif_neg h₂]
    simp only [UnpackedFloat.sub, UnpackedFloat.decreaseExponent, Nat.shiftLeft_eq]
  · rw [value_eq_apply (min_le_left q₁ q₂), value_eq_apply (min_le_right q₁ q₂)]
    push_cast
    ring

/-- The difference of equal numbers is zero. -/
theorem exists_sub_eq_zero (h : (finite negative₁ m₁ q₁).value = (finite negative₂ m₂ q₂).value) :
    ∃ negative, UnpackedFloat.sub .binary64 (toUnpacked (finite negative₁ m₁ q₁))
      (toUnpacked (finite negative₂ m₂ q₂)) = .zero (sign negative) := by
  by_cases h₁ : m₁ = 0 <;> by_cases h₂ : m₂ = 0
  · subst h₁ h₂
    cases negative₁ <;> cases negative₂
    case true.false => exact ⟨true, rfl⟩
    all_goals exact ⟨false, rfl⟩
  · rw [h₁, value_zero] at h
    exact absurd h.symm (value_ne_zero h₂ _ _)
  · rw [h₂, value_zero] at h
    exact absurd h (value_ne_zero h₁ _ _)
  · obtain ⟨a, hsub, hvalue⟩ := exists_sub_eq_normalize h₁ h₂
    obtain rfl : a = 0 := by
      rw [h, sub_self, eq_comm, mul_eq_zero] at hvalue
      exact_mod_cast hvalue.resolve_right (by positivity)
    exact ⟨false, hsub⟩

/-- The difference between a number and a smaller one is positive. -/
theorem exists_sub (hc₁ : Canonical m₁ q₁) (hc₂ : Canonical m₂ q₂)
    (h : (finite negative₂ m₂ q₂).value < (finite negative₁ m₁ q₁).value) :
    ∃ m q, UnpackedFloat.sub .binary64 (toUnpacked (finite negative₁ m₁ q₁))
      (toUnpacked (finite negative₂ m₂ q₂)) = toUnpacked (finite false m q) ∧ Canonical m q ∧
      m ≠ 0 := by
  by_cases h₁ : m₁ = 0 <;> by_cases h₂ : m₂ = 0
  · rw [h₁, h₂, value_zero, value_zero] at h
    exact absurd h (lt_irrefl 0)
  · subst h₁
    rw [value_zero] at h
    cases negative₂ with
    | false => exact absurd h (value_pos h₂ q₂).not_gt
    | true =>
      refine ⟨m₂, q₂, ?_, hc₂, h₂⟩
      simp only [toUnpacked, dif_neg h₂]
      rfl
  · subst h₂
    rw [value_zero] at h
    cases negative₁ with
    | false =>
      refine ⟨m₁, q₁, ?_, hc₁, h₁⟩
      simp only [toUnpacked, dif_neg h₁]
      rfl
    | true => exact absurd h (value_neg h₁ q₁).not_gt
  · obtain ⟨a, hsub, hvalue⟩ := exists_sub_eq_normalize h₁ h₂
    have hunit : (0 : ℚ) < 2 ^ min q₁ q₂ := by positivity
    have ha : 0 < a := by
      rw [← sub_pos, hvalue, mul_pos_iff_of_pos_right hunit] at h
      exact_mod_cast h
    obtain ⟨n, rfl⟩ := Int.eq_ofNat_of_zero_le ha.le
    have hn : n ≠ 0 := by omega
    obtain ⟨m, q, hround, hcanonical, hrounds⟩ := exists_round false hn (min q₁ q₂)
    refine ⟨m, q, ?_, hcanonical, ?_⟩
    · rw [hsub, UnpackedFloat.normalize, compare_gt_iff_gt.mpr ha]
      exact hround
    · rintro rfl
      have hpos := hrounds.pos hn (le_min hc₁.le hc₂.le)
      simp at hpos

/-! ### Multiplication -/

/-- One of two factors has all its bits, unless the unit of their product is below that of all
doubles. -/
theorem Canonical.full_mul (hc₁ : Canonical m₁ q₁) (hc₂ : Canonical m₂ q₂) (h₁ : m₁ ≠ 0)
    (h₂ : m₂ ≠ 0) : q₁ + q₂ ≤ -1074 ∨ 2 ^ 52 ≤ m₁ * m₂ := by
  rcases hc₁.full with hq₁ | hm₁
  · rcases hc₂.full with hq₂ | hm₂
    · exact .inl (by omega)
    · exact .inr (hm₂.trans (Nat.le_mul_of_pos_left _ (Nat.pos_of_ne_zero h₁)))
  · exact .inr (hm₁.trans (Nat.le_mul_of_pos_right _ (Nat.pos_of_ne_zero h₂)))

/-- A product is rounded to a number on the same side of all representable ones. -/
theorem exists_mul (negative₁ negative₂ : Bool) (hc₁ : Canonical m₁ q₁) (hc₂ : Canonical m₂ q₂) :
    ∃ m q, UnpackedFloat.mul .binary64 (toUnpacked (finite negative₁ m₁ q₁))
      (toUnpacked (finite negative₂ m₂ q₂)) = toUnpacked (finite (negative₁ != negative₂) m q) ∧
      Canonical m q ∧ Rounds ((m₁ * 2 ^ q₁) * (m₂ * 2 ^ q₂)) (m * 2 ^ q) := by
  by_cases h₁ : m₁ = 0
  · refine ⟨0, -1074, ?_, canonical_zero, by simp [h₁, Rounds]⟩
    simp only [toUnpacked, dif_pos h₁, dite_true, ← sign_mul_sign]
    split <;> rfl
  by_cases h₂ : m₂ = 0
  · refine ⟨0, -1074, ?_, canonical_zero, by simp [h₂, Rounds]⟩
    simp only [toUnpacked, dif_neg h₁, dif_pos h₂, dite_true, ← sign_mul_sign]
    rfl
  have hmul : UnpackedFloat.mul .binary64 (toUnpacked (finite negative₁ m₁ q₁))
      (toUnpacked (finite negative₂ m₂ q₂)) =
        roundWithAccuracy .binary64 (sign (negative₁ != negative₂)) (m₁ * m₂) (q₁ + q₂) .exact := by
    rw [toUnpacked, toUnpacked, dif_neg h₁, dif_neg h₂, ← sign_mul_sign]
    rfl
  have hbrackets := brackets_exact (m₁ * m₂) (q₁ + q₂)
  have hvalue : ((m₁ * m₂ : Nat) * 2 ^ (q₁ + q₂) : ℚ) = (m₁ * 2 ^ q₁) * (m₂ * 2 ^ q₂) := by
    rw [zpow_add₀ two_ne_zero]
    push_cast
    ring
  rw [hvalue] at hbrackets
  rw [hmul]
  refine exists_roundWithAccuracy _ ?_ hbrackets
  rw [targetExponent_eq, totalExponent]
  rcases hc₁.full_mul hc₂ h₁ h₂ with hsmall | hlarge
  · omega
  · have hlog : 52 ≤ (m₁ * m₂).log2 := (Nat.le_log2 (Nat.mul_ne_zero h₁ h₂)).mpr hlarge
    omega

/-! ### The range of doubles -/

theorem Canonical.lt_two_pow (h : Canonical m q) (hq : q ≤ 971) :
    (m * 2 ^ q : ℚ) < 2 ^ 1024 := by
  have hm : (m : ℚ) < 2 ^ 53 := by exact_mod_cast h.lt
  have hpower : (2 : ℚ) ^ q ≤ 2 ^ (971 : Int) := zpow_le_zpow_right₀ one_le_two hq
  calc (m * 2 ^ q : ℚ) < 2 ^ 53 * 2 ^ q := by gcongr
    _ ≤ (2 : ℚ) ^ 53 * 2 ^ (971 : Int) := by gcongr
    _ = 2 ^ 1024 := by rw [zpow_ofNat, ← pow_add]

/-- A canonical number below the power of two beyond all doubles is one of them. -/
theorem Canonical.le_of_lt_two_pow (h : Canonical m q) (hlt : (m * 2 ^ q : ℚ) < 2 ^ 1024) :
    q ≤ 971 := by
  obtain ⟨-, -, hfull⟩ := h
  refine not_lt.mp fun hq => hlt.not_ge ?_
  have hbig : 2 ^ 52 ≤ m := by omega
  have hm : (2 : ℚ) ^ 52 ≤ m := by exact_mod_cast hbig
  have hpower : (2 : ℚ) ^ (972 : Int) ≤ 2 ^ q := zpow_le_zpow_right₀ one_le_two hq
  calc (2 : ℚ) ^ 1024 = 2 ^ 52 * 2 ^ (972 : Int) := by rw [zpow_ofNat, ← pow_add]
    _ ≤ (m : ℚ) * 2 ^ q := by gcongr

end Binary

namespace Double

open Binary

variable {x x' y : Float} {negative₁ negative₂ : Bool} {m₁ m₂ : Nat} {q₁ q₂ : Int}

theorem sub_eq (x y : Float) :
    x - y = .ofModel (.pack (.sub .binary64 x.toModel.unpack y.toModel.unpack)) := rfl

theorem mul_eq (x y : Float) :
    x * y = .ofModel (.pack (.mul .binary64 x.toModel.unpack y.toModel.unpack)) := rfl

theorem div_eq (x y : Float) :
    x / y = .ofModel (.pack (.div .binary64 x.toModel.unpack y.toModel.unpack)) := rfl

/-- The difference of doubles of one value is zero. -/
theorem exists_ofFloat_sub_self (hx : x.isFinite) (hy : y.isFinite) (h : value x = value y) :
    ∃ negative, ofFloat (x - y) = finite negative 0 (-1074) := by
  obtain ⟨negative, m, q, hx⟩ := isFinite_iff.mp hx
  obtain ⟨negative', m', q', hy⟩ := isFinite_iff.mp hy
  rw [value, value, hx, hy] at h
  obtain ⟨n, hsub⟩ := exists_sub_eq_zero h
  refine ⟨n, ?_⟩
  rw [sub_eq, unpack_eq, unpack_eq, hx, hy, hsub]
  exact ofFloat_pack n canonical_zero

/-- **The difference between a double and a smaller one is positive**, though it may be infinite. -/
theorem sub_pos (hx : x.isFinite) (hy : y.isFinite) (h : y < x) : 0 < x - y := by
  rw [lt_iff hy hx] at h
  obtain ⟨negative, m, q, hx⟩ := isFinite_iff.mp hx
  obtain ⟨negative', m', q', hy⟩ := isFinite_iff.mp hy
  rw [value, value, hx, hy] at h
  obtain ⟨n, j, hsub, hcanonical, hn⟩ := exists_sub (ofFloat_eq_finite_iff.mp hx).1
    (ofFloat_eq_finite_iff.mp hy).1 h
  have hdifference : ofFloat (x - y) = if j ≤ 971 then finite false n j else infinite false := by
    rw [sub_eq, unpack_eq, unpack_eq, hx, hy, hsub]
    exact ofFloat_pack false hcanonical
  rw [pos_iff]
  split at hdifference
  · exact .inr ⟨n, j, hdifference, hn⟩
  · exact .inl hdifference

/-- It does not matter which one of two zeros something else is subtracted from. -/
theorem zero_sub_eq_neg_zero_sub (hy : y.isFinite) (h : value y ≠ 0) : 0 - y = -0 - y := by
  obtain ⟨negative, m, q, hy⟩ := isFinite_iff.mp hy
  have hm : m ≠ 0 := by
    rintro rfl
    rw [value, hy, value_zero] at h
    exact h rfl
  have hunpack : y.toModel.unpack = .finite (sign negative) m q (Nat.pos_of_ne_zero hm) := by
    rw [unpack_eq, hy, toUnpacked, dif_neg hm]
  rw [sub_eq, sub_eq, hunpack]
  rfl

/-- Doubles of one value have the same difference to a smaller double. -/
theorem sub_congr_left (hx : x.isFinite) (hy : y.isFinite) (hbeq : x' == x)
    (h : y < x) : x' - y = x - y := by
  rw [lt_iff hy hx] at h
  have hzero : value 0 = 0 := by
    have h : ofFloat 0 = finite false 0 (-1074) := by decide
    rw [value, h, value_zero]
  have hnegative : value (-0) = 0 := by
    have h : ofFloat (-0) = finite true 0 (-1074) := by decide
    rw [value, h, value_zero]
  obtain ⟨-, -, rfl | ⟨rfl, rfl⟩ | ⟨rfl, rfl⟩⟩ := Float.beq_iff_ne_nan_and_eq.mp hbeq
  · rfl
  · exact zero_sub_eq_neg_zero_sub hy (h.trans_eq hnegative).ne
  · exact (zero_sub_eq_neg_zero_sub hy (h.trans_eq hzero).ne).symm

/-- A product of finite doubles is on the same side of all representable numbers as the exact one, or
infinite if it is too large. -/
theorem exists_ofFloat_mul (hx : ofFloat x = finite negative₁ m₁ q₁)
    (hy : ofFloat y = finite negative₂ m₂ q₂) : ∃ m q, Canonical m q ∧
      ofFloat (x * y) = (if q ≤ 971 then finite (negative₁ != negative₂) m q
        else infinite (negative₁ != negative₂)) ∧
      Rounds ((m₁ * 2 ^ q₁) * (m₂ * 2 ^ q₂)) (m * 2 ^ q) := by
  obtain ⟨m, q, hmul, hcanonical, hrounds⟩ := exists_mul negative₁ negative₂
    (ofFloat_eq_finite_iff.mp hx).1 (ofFloat_eq_finite_iff.mp hy).1
  refine ⟨m, q, hcanonical, ?_, hrounds⟩
  rw [mul_eq, unpack_eq, unpack_eq, hx, hy, hmul]
  exact ofFloat_pack _ hcanonical

/-- **The product of finite doubles** is finite if the exact one is at most some finite double. -/
theorem isFinite_mul (hx : ofFloat x = finite negative₁ m₁ q₁)
    (hy : ofFloat y = finite negative₂ m₂ q₂) {bound : ℚ} (hbound : Representable bound)
    (hlt : bound < 2 ^ 1024) (hle : (m₁ * 2 ^ q₁) * (m₂ * 2 ^ q₂) ≤ bound) : (x * y).isFinite := by
  obtain ⟨m, q, hcanonical, hproduct, hrounds⟩ := exists_ofFloat_mul hx hy
  have hsmall : q ≤ 971 := hcanonical.le_of_lt_two_pow (((hrounds bound hbound).2 hle).trans_lt hlt)
  rw [if_pos hsmall] at hproduct
  exact isFinite_iff.mpr ⟨_, m, q, hproduct⟩

/-- A product of finite doubles is finite unless it is infinite. -/
theorem isFinite_mul_of_isInf_eq_false (hx : x.isFinite) (hy : y.isFinite)
    (h : (x * y).isInf = false) : (x * y).isFinite := by
  obtain ⟨negative₁, m₁, q₁, hx⟩ := isFinite_iff.mp hx
  obtain ⟨negative₂, m₂, q₂, hy⟩ := isFinite_iff.mp hy
  obtain ⟨m, q, -, hproduct, -⟩ := exists_ofFloat_mul hx hy
  split at hproduct
  · exact isFinite_iff.mpr ⟨_, m, q, hproduct⟩
  · exact absurd (isInf_iff.mpr ⟨_, hproduct⟩) (Bool.eq_false_iff.mp h)

/-- **The quotient of finite doubles** whose exact value is at most some finite double is finite, and
is on the same side of all representable numbers. -/
theorem exists_ofFloat_div (hx : ofFloat x = finite negative₁ m₁ q₁)
    (hy : ofFloat y = finite negative₂ m₂ q₂) (h₂ : m₂ ≠ 0) {bound : ℚ}
    (hbound : Representable bound) (hlt : bound < 2 ^ 1024)
    (hle : (m₁ * 2 ^ q₁) / (m₂ * 2 ^ q₂) ≤ bound) :
    ∃ m q, ofFloat (x / y) = finite (negative₁ != negative₂) m q ∧
      Rounds ((m₁ * 2 ^ q₁) / (m₂ * 2 ^ q₂)) (m * 2 ^ q) := by
  obtain ⟨m, q, hdiv, hcanonical, hrounds⟩ := exists_div negative₁ negative₂ h₂ q₁ q₂
  refine ⟨m, q, ?_, hrounds⟩
  have hsmall : q ≤ 971 := hcanonical.le_of_lt_two_pow (((hrounds bound hbound).2 hle).trans_lt hlt)
  have hpack := ofFloat_pack (negative₁ != negative₂) hcanonical
  rw [if_pos hsmall] at hpack
  rw [div_eq, unpack_eq, unpack_eq, hx, hy, hdiv]
  exact hpack

/-- A finite double divided by one of at least one is finite. -/
theorem isFinite_div (hx : x.isFinite) (hy : y.isFinite) (hone : 1 ≤ y) : (x / y).isFinite := by
  have hy₁ : (1 : ℚ) ≤ |value y| := by
    have hvalue : value 1 = 1 := by
      have h : ofFloat 1 = finite false (2 ^ 52) (-52) := by decide
      rw [value, h]
      norm_num [Binary.value]
    rw [le_iff (by decide) hy, hvalue] at hone
    exact hone.trans (le_abs_self _)
  obtain ⟨negative₁, m₁, q₁, hx⟩ := isFinite_iff.mp hx
  obtain ⟨negative₂, m₂, q₂, hy⟩ := isFinite_iff.mp hy
  obtain ⟨hcanonical, hmax, -⟩ := ofFloat_eq_finite_iff.mp hx
  rw [abs_value hy] at hy₁
  have h₂ : m₂ ≠ 0 := by
    rintro rfl
    norm_num at hy₁
  have hle : (m₁ * 2 ^ q₁ : ℚ) / (m₂ * 2 ^ q₂) ≤ m₁ * 2 ^ q₁ := div_le_self (by positivity) hy₁
  obtain ⟨m, q, hdiv, -⟩ := exists_ofFloat_div hx hy h₂
    ⟨m₁, q₁, hcanonical.lt.le, hcanonical.le, rfl⟩ (hcanonical.lt_two_pow hmax) hle
  exact isFinite_iff.mpr ⟨_, m, q, hdiv⟩

/-- The negative of a finite double is finite. -/
theorem isFinite_neg (hx : x.isFinite) : (-x).isFinite := by
  obtain ⟨negative, m, q, hx⟩ := isFinite_iff.mp hx
  obtain ⟨hcanonical, hmax, -⟩ := ofFloat_eq_finite_iff.mp hx
  have hneg : -x = .ofModel (.pack (.neg x.toModel.unpack)) := rfl
  have hunpacked : (toUnpacked (finite negative m q)).neg = toUnpacked (finite (!negative) m q) := by
    simp only [toUnpacked]
    cases negative <;> split <;> rfl
  rw [isFinite_iff, hneg, unpack_eq, hx, hunpacked, ofFloat_pack _ hcanonical, if_pos hmax]
  exact ⟨_, m, q, rfl⟩

end Double

end Tabular
