import Mathlib
import Tabular.Proofs.Number.Finite

/-!
# Doubles and their values

A double has the bits that stand for it, a value, and a form that arithmetic works on. This module
ties them together. The bits of a finite double, without the sign, count the doubles from zero on
(`Binary.place`); the form for arithmetic is the one read off the bits (`Binary.unpack_eq`), and bits
are found for it again as long as they last (`Binary.ofFloat_pack`). **Finite doubles compare as
their values** (`Double.compare_eq`), and so they do in the order of all doubles
(`Double.value_le_of_rank_le`).
-/

namespace Tabular

open Float.Model (Format UnpackedFloat)
open Float.Model.UnpackedFloat (Sign unpackExponent unpackMantissa unpackSign)

namespace Binary

variable {x : Float} {negative negative' : Bool} {m m' : Nat} {q q' : Int}

/-! ### Bits -/

/-- Significand and exponent are those of a finite double, or would be if exponents went further
up: the significand has 53 bits, and all of them count unless the exponent is the least. -/
structure Canonical (m : Nat) (q : Int) : Prop where
  lt : m < 2 ^ 53
  le : -1074 ≤ q
  full : q = -1074 ∨ 2 ^ 52 ≤ m

/-- The bits of a finite double without its sign. They count the doubles from zero on. -/
def place (m : Nat) (q : Int) : Nat := (q + 1074).toNat * 2 ^ 52 + m

theorem ofFloat_eq_finite_iff : ofFloat x = finite negative m q ↔ Canonical m q ∧ q ≤ 971 ∧
    x.toBits.toNat = (if negative then 2 ^ 63 else 0) + place m q := by
  have hbits := x.toBits.toNat_lt
  constructor
  · intro h
    simp only [ofFloat] at h
    split at h
    · split at h <;> cases h
    split at h
    all_goals
      obtain ⟨rfl, rfl, rfl⟩ := finite.inj h
      refine ⟨⟨?_, ?_, ?_⟩, ?_, ?_⟩
      iterate 4 omega
      simp only [place, beq_iff_eq]
      split <;> omega
  · rintro ⟨⟨hlt, hle, hfull⟩, hmax, h⟩
    have hsign : x.toBits.toNat / 2 ^ 63 = if negative then 1 else 0 := by
      rw [h, place]
      split <;> omega
    have hnegative : (x.toBits.toNat / 2 ^ 63 == 1) = negative := by
      rw [hsign]
      cases negative <;> rfl
    have hrest : x.toBits.toNat % 2 ^ 63 = place m q := by
      cases negative <;> simp only [place] at h ⊢ <;> simp at h <;> omega
    rw [place] at hrest
    simp only [ofFloat, hnegative]
    rw [if_neg (by omega)]
    split
    next hzero =>
      obtain rfl : q = -1074 := by omega
      congr 1
      omega
    next hpos => congr 1 <;> omega

/-! ### The form for arithmetic -/

/-- The sign of a number that is negative or not. -/
def sign (negative : Bool) : Sign := if negative then .negative else .positive

/-- What a double stands for, in the form that arithmetic works on. -/
def toUnpacked : Binary → UnpackedFloat
  | finite negative m q =>
    if h : m = 0 then .zero (sign negative)
    else .finite (sign negative) m q (Nat.pos_of_ne_zero h)
  | infinite negative => .infinity (sign negative)
  | undefined => .notANumber

private theorem ofBitVec_unpackSign (b : BitVec Format.binary64.numBits) :
    Sign.ofBitVec (unpackSign b) = sign (b.toNat / 2 ^ 63 == 1) := by
  have hlt : b.toNat < 2 ^ 64 := b.isLt
  have hbit : (unpackSign b).toNat = b.toNat / 2 ^ 63 := by
    simp [unpackSign, Nat.shiftRight_eq_div_pow]
    omega
  have hzero : unpackSign b = 0#1 ↔ b.toNat / 2 ^ 63 = 0 := by
    rw [← BitVec.toNat_inj, hbit]
    rfl
  simp only [Sign.ofBitVec, sign, hzero, beq_iff_eq]
  split <;> split <;> first | rfl | omega

/-- **Arithmetic works on what the double stands for.** -/
theorem unpack_eq (x : Float) : x.toModel.unpack = toUnpacked (ofFloat x) := by
  obtain ⟨b, hb⟩ : ∃ b : BitVec Format.binary64.numBits, b = x.toBits.toBitVec := ⟨_, rfl⟩
  have hnat : x.toBits.toNat = b.toNat := by
    rw [hb]
    rfl
  have hexponent : (unpackExponent b).toNat = b.toNat / 2 ^ 52 % 2 ^ 11 := by
    simp [unpackExponent, Nat.shiftRight_eq_div_pow]
  have hfraction : (unpackMantissa b).toNat = b.toNat % 2 ^ 52 := by
    simp [unpackMantissa]
  have hall : unpackExponent b = -1#_ ↔ b.toNat / 2 ^ 52 % 2 ^ 11 = 2047 := by
    rw [← BitVec.toNat_inj, hexponent]
    rfl
  have hnone : unpackExponent b = 0#_ ↔ b.toNat / 2 ^ 52 % 2 ^ 11 = 0 := by
    rw [← BitVec.toNat_inj, hexponent]
    rfl
  have hzero : unpackMantissa b = 0#_ ↔ b.toNat % 2 ^ 52 = 0 := by
    rw [← BitVec.toNat_inj, hfraction]
    rfl
  have hleading : (1#1 ++ unpackMantissa b).toNat = 2 ^ 52 + b.toNat % 2 ^ 52 := by
    rw [BitVec.toNat_append, ← Nat.shiftLeft_add_eq_or_of_lt (BitVec.isLt _), hfraction]
    rfl
  have hmodel : x.toModel.unpack = UnpackedFloat.unpack .binary64 b := by
    rw [hb]
    rfl
  rw [hmodel]
  simp only [UnpackedFloat.unpack, ofFloat, ofBitVec_unpackSign, hnat, hall, hnone, hzero]
  by_cases hset : b.toNat / 2 ^ 52 % 2 ^ 11 = 2047
  · simp only [hset, if_true]
    split <;> rfl
  simp only [hset, if_false]
  by_cases hclear : b.toNat / 2 ^ 52 % 2 ^ 11 = 0
  · simp only [hclear, if_true, toUnpacked]
    split
    · rfl
    · congr 1
      rw [hexponent, hclear]
      rfl
  · simp only [hclear, if_false, toUnpacked]
    rw [dif_neg (by omega)]
    congr 1
    rw [hexponent]
    rfl

/-- **No two doubles stand for the same.** -/
theorem ofFloat_injective {x y : Float} (h : ofFloat x = ofFloat y) : x = y := by
  have hunpacked : x.toModel.unpack = y.toModel.unpack := by rw [unpack_eq, unpack_eq, h]
  have hbits := (UnpackedFloat.unpack_inj_of_valid x.toModel.valid y.toModel.valid).mp hunpacked
  exact Float.toBits_inj.mp (UInt64.toBitVec_inj.mp hbits)

private theorem toNat_packComponents (s : Sign) (e : BitVec 11) (f : BitVec 52) :
    (UnpackedFloat.packComponents .binary64 s e f).toNat =
      s.toBitVec.toNat * 2 ^ 63 + (e.toNat * 2 ^ 52 + f.toNat) := by
  rw [UnpackedFloat.packComponents, BitVec.toNat_append, BitVec.toNat_append,
    ← Nat.shiftLeft_add_eq_or_of_lt f.isLt, ← Nat.shiftLeft_add_eq_or_of_lt e.isLt,
    Nat.shiftLeft_eq, Nat.shiftLeft_eq]
  ring

private theorem toNat_pack (negative : Bool) (h : Canonical m q) :
    (UnpackedFloat.pack .binary64 (toUnpacked (finite negative m q))).toNat =
      (if negative then 2 ^ 63 else 0) + if q ≤ 971 then place m q else 2047 * 2 ^ 52 := by
  have hsign : (sign negative).toBitVec.toNat * 2 ^ 63 = if negative then 2 ^ 63 else 0 := by
    cases negative <;> rfl
  obtain ⟨hlt, hle, hfull⟩ := h
  simp only [toUnpacked, place]
  split
  next hzero =>
    obtain rfl : q = -1074 := by omega
    subst hzero
    simp only [UnpackedFloat.pack, UnpackedFloat.packedZero]
    rw [toNat_packComponents, hsign]
    simp
  next hpos =>
    have hbias : (Format.exponentBias .binary64 : Int) = 1023 := rfl
    have hmany : 2 ^ 11 ≤ (q + 1023 + (52 : Nat)).toNat + 1 ↔ ¬ q ≤ 971 := by omega
    have hnormal : m.log2 + 1 = 1 + 52 ↔ 2 ^ 52 ≤ m := by
      have hlog : m.log2 < 53 := (Nat.log2_lt hpos).mpr hlt
      rw [← Nat.le_log2 hpos]
      omega
    simp only [UnpackedFloat.pack, hbias, Format.mantissaBits, hmany, hnormal]
    by_cases hq : q ≤ 971
    · rw [if_neg (not_not.mpr hq), if_pos hq]
      split
      all_goals
        rw [toNat_packComponents, hsign, BitVec.toNat_ofNat, BitVec.toNat_ofNat]
        omega
    · rw [if_pos hq, if_neg hq, UnpackedFloat.packedInfinity, toNat_packComponents, hsign]
      rfl

/-- **A finite result becomes the double that stands for it**, or infinity if it is too large. -/
theorem ofFloat_pack (negative : Bool) (h : Canonical m q) :
    ofFloat (.ofModel (.pack (toUnpacked (finite negative m q)))) =
      if q ≤ 971 then finite negative m q else infinite negative := by
  have hbits : (Float.ofModel (.pack (toUnpacked (finite negative m q)))).toBits.toNat = _ :=
    toNat_pack negative h
  split
  next hq =>
    rw [if_pos hq] at hbits
    exact ofFloat_eq_finite_iff.mpr ⟨h, hq, hbits⟩
  next hq =>
    rw [if_neg hq] at hbits
    simp only [ofFloat, hbits]
    cases negative <;> rfl

/-! ### Order -/

/-- The value of a finite double. -/
def value : Binary → ℚ
  | finite negative m q => if negative then -(m * 2 ^ q : ℚ) else m * 2 ^ q
  | _ => 0

/-- A number is a whole number of any unit that is at most its own. -/
theorem magnitude_eq {k : Int} (h : k ≤ q) (m : Nat) :
    (m * 2 ^ q : ℚ) = (m * 2 ^ (q - k).toNat : Nat) * 2 ^ k := by
  have hpower : (2 : ℚ) ^ q = 2 ^ (q - k).toNat * 2 ^ k := by
    rw [← zpow_natCast, ← zpow_add₀ two_ne_zero]
    congr 1
    omega
  rw [hpower]
  push_cast
  ring

theorem value_zero (negative : Bool) (q : Int) : (finite negative 0 q).value = 0 := by
  simp [value]

theorem value_pos (hm : m ≠ 0) (q : Int) : 0 < (finite false m q).value := by
  show (0 : ℚ) < m * 2 ^ q
  positivity

theorem value_neg (hm : m ≠ 0) (q : Int) : (finite true m q).value < 0 :=
  neg_lt_zero.mpr (value_pos hm q)

theorem value_ne_zero (hm : m ≠ 0) (negative : Bool) (q : Int) :
    (finite negative m q).value ≠ 0 := by
  cases negative
  case false => exact (value_pos hm q).ne'
  case true => exact (value_neg hm q).ne

theorem magnitude_lt_of_place_lt (h : Canonical m q) (h' : Canonical m' q')
    (hlt : place m q < place m' q') : (m * 2 ^ q : ℚ) < m' * 2 ^ q' := by
  obtain ⟨hm, hq, hfull⟩ := h
  obtain ⟨hm', hq', hfull'⟩ := h'
  rw [place, place] at hlt
  obtain heq | hnext : q = q' ∨ q + 1 ≤ q' := by omega
  · subst heq
    have hlt : m < m' := by omega
    gcongr
  · have hpower : (2 : ℚ) ^ (q + 1) ≤ 2 ^ q' := zpow_le_zpow_right₀ one_le_two hnext
    have hm : (m : ℚ) < 2 ^ 53 := by exact_mod_cast hm
    have hbig : 2 ^ 52 ≤ m' := by omega
    have hm' : (2 : ℚ) ^ 52 ≤ m' := by exact_mod_cast hbig
    calc (m * 2 ^ q : ℚ) < 2 ^ 53 * 2 ^ q := by gcongr
      _ = 2 ^ 52 * 2 ^ (q + 1) := by rw [zpow_add_one₀ two_ne_zero]; ring
      _ ≤ m' * 2 ^ q' := by gcongr

/-- Doubles are counted in the order of their magnitudes. -/
theorem compare_place (h : Canonical m q) (h' : Canonical m' q') :
    compare (place m q) (place m' q') = compare (m * 2 ^ q : ℚ) (m' * 2 ^ q') := by
  obtain hlt | heq | hgt := Nat.lt_trichotomy (place m q) (place m' q')
  · rw [compare_lt_iff_lt.mpr hlt, compare_lt_iff_lt.mpr (magnitude_lt_of_place_lt h h' hlt)]
  · obtain ⟨hm, hq, hfull⟩ := h
    obtain ⟨hm', hq', hfull'⟩ := h'
    rw [place, place] at heq
    obtain ⟨rfl, rfl⟩ : q = q' ∧ m = m' := by omega
    rw [compare_eq_iff_eq.mpr rfl, compare_eq_iff_eq.mpr rfl]
  · rw [compare_gt_iff_gt.mpr hgt, compare_gt_iff_gt.mpr (magnitude_lt_of_place_lt h' h hgt)]

theorem magnitude_le_of_place_le (h : Canonical m q) (h' : Canonical m' q')
    (hle : place m q ≤ place m' q') : (m * 2 ^ q : ℚ) ≤ m' * 2 ^ q' := by
  rwa [← compare_le_iff_le, ← compare_place h h', compare_le_iff_le]

/-- Doubles are counted by exponents first. -/
theorem compare_exponent_then (h : Canonical m q) (h' : Canonical m' q') :
    (compare q q').then (compare m m') = compare (place m q) (place m' q') := by
  obtain ⟨hm, hq, hfull⟩ := h
  obtain ⟨hm', hq', hfull'⟩ := h'
  obtain hlt | heq | hgt := Int.lt_trichotomy q q'
  · have hplace : place m q < place m' q' := by
      rw [place, place]
      omega
    rw [compare_lt_iff_lt.mpr hlt, compare_lt_iff_lt.mpr hplace]
    rfl
  · subst heq
    simp [place, Nat.compare_eq_ite_lt]
  · have hplace : place m' q' < place m q := by
      rw [place, place]
      omega
    rw [compare_gt_iff_gt.mpr hgt, compare_gt_iff_gt.mpr hplace]
    rfl

private theorem compare_neg_neg (a b : ℚ) : compare (-a) (-b) = (compare a b).swap := by
  obtain hlt | heq | hgt := lt_trichotomy a b
  · rw [compare_lt_iff_lt.mpr hlt, compare_gt_iff_gt.mpr (neg_lt_neg hlt)]
    rfl
  · rw [compare_eq_iff_eq.mpr heq, compare_eq_iff_eq.mpr (congrArg _ heq)]
    rfl
  · rw [compare_gt_iff_gt.mpr hgt, compare_lt_iff_lt.mpr (neg_lt_neg hgt)]
    rfl

/-- Finite numbers in the form for arithmetic compare as their values. -/
theorem compare_toUnpacked (h : Canonical m q) (h' : Canonical m' q') :
    (toUnpacked (finite negative m q)).compare (toUnpacked (finite negative' m' q')) =
      some (compare (finite negative m q).value (finite negative' m' q').value) := by
  have hboth := (compare_exponent_then h h').trans (compare_place h h')
  simp only [toUnpacked]
  by_cases hm : m = 0 <;> by_cases hm' : m' = 0
  · subst hm hm'
    rw [value_zero, value_zero, dif_pos rfl, dif_pos rfl]
    exact congrArg some (compare_eq_iff_eq.mpr rfl).symm
  · subst hm
    rw [value_zero, dif_pos rfl, dif_neg hm']
    cases negative'
    case false => exact congrArg some (compare_lt_iff_lt.mpr (value_pos hm' q')).symm
    case true => exact congrArg some (compare_gt_iff_gt.mpr (value_neg hm' q')).symm
  · subst hm'
    rw [value_zero, dif_neg hm, dif_pos rfl]
    cases negative
    case false => exact congrArg some (compare_gt_iff_gt.mpr (value_pos hm q)).symm
    case true => exact congrArg some (compare_lt_iff_lt.mpr (value_neg hm q)).symm
  · rw [dif_neg hm, dif_neg hm']
    cases negative <;> cases negative'
    case false.false => exact congrArg some hboth
    case false.true =>
      exact congrArg some (compare_gt_iff_gt.mpr ((value_neg hm' q').trans (value_pos hm q))).symm
    case true.false =>
      exact congrArg some (compare_lt_iff_lt.mpr ((value_neg hm q).trans (value_pos hm' q'))).symm
    case true.true => exact congrArg some ((congrArg _ hboth).trans (compare_neg_neg _ _).symm)

/-! ### Whole parts -/

theorem wholePart_of_nonneg (h : 0 ≤ q) : wholePart m q = m * 2 ^ q.toNat := if_pos h

theorem wholePart_of_neg (h : q < 0) : wholePart m q = m / 2 ^ (-q).toNat := if_neg h.not_ge

theorem le_wholePart {n : Nat} (h : (n : ℚ) ≤ m * 2 ^ q) : n ≤ wholePart m q := by
  obtain hq | hq := le_or_gt 0 q
  · rw [wholePart_of_nonneg hq]
    obtain ⟨k, rfl⟩ := Int.eq_ofNat_of_zero_le hq
    exact_mod_cast h
  · rw [wholePart_of_neg hq]
    obtain ⟨k, rfl⟩ := Int.eq_negSucc_of_lt_zero hq
    rw [zpow_negSucc, ← div_eq_mul_inv, le_div_iff₀ (by positivity)] at h
    rw [Int.neg_negSucc, Int.toNat_natCast, Nat.le_div_iff_mul_le (Nat.two_pow_pos _)]
    exact_mod_cast h

/-- A whole number that is a significand of 53 bits shifted up has this significand. -/
theorem nearestBits_shifted {k : Nat} (hm : 2 ^ 52 ≤ m) (hm' : m < 2 ^ 53) (hk : k ≤ 971) :
    nearestBits (m * 2 ^ k) 1 = (k + 1074) * 2 ^ 52 + m := by
  have hne : m * 2 ^ k ≠ 0 := by positivity
  have hlog : (m * 2 ^ k).log2 = 52 + k := by
    rw [Nat.log2_eq_iff hne, Nat.add_right_comm, Nat.pow_add, Nat.pow_add]
    exact ⟨Nat.mul_le_mul_right _ hm, Nat.mul_lt_mul_of_pos_right hm' (Nat.two_pow_pos k)⟩
  have hdescale : descale (m * 2 ^ k) 1 k = (m * 2 ^ k, 2 ^ k) := by
    rw [descale, if_pos (Int.natCast_nonneg k), Int.toNat_natCast, Nat.one_mul]
    rfl
  have hexponent : exponentOf (m * 2 ^ k) 1 = k := by
    have hone : (1 : Nat).log2 = 0 := by decide
    have hq : ((52 + k : Nat) : Int) - (0 : Nat) - 52 = k := by omega
    have hfull : ¬ m * 2 ^ k < 2 ^ 52 * 2 ^ k := not_lt.mpr (Nat.mul_le_mul_right _ hm)
    simp only [exponentOf, hlog, hone, hq, hdescale, if_neg hfull]
    omega
  have hround : roundDiv (m * 2 ^ k) (2 ^ k) = m := by
    simp [roundDiv, (Nat.two_pow_pos k).ne]
  rw [nearestBits, if_neg hne]
  simp only [hexponent, hdescale, hround]
  omega

end Binary

namespace Double

open Binary

variable {x y : Float}

/-- The value of a double, zero if the double is not finite. -/
def value (x : Float) : ℚ := (ofFloat x).value

theorem abs_value {negative : Bool} {m : Nat} {q : Int} (h : ofFloat x = finite negative m q) :
    |value x| = m * 2 ^ q := by
  have hpos : (0 : ℚ) ≤ m * 2 ^ q := by positivity
  rw [value, h, Binary.value]
  split
  · rw [abs_neg, abs_of_nonneg hpos]
  · exact abs_of_nonneg hpos

theorem isFinite_iff : x.isFinite ↔ ∃ negative m q, ofFloat x = finite negative m q := by
  show x.toModel.unpack.isFinite ↔ _
  rw [unpack_eq]
  cases ofFloat x with
  | finite negative m q =>
    simp only [toUnpacked]
    split <;> simp [UnpackedFloat.isFinite]
  | _ => simp [toUnpacked, UnpackedFloat.isFinite]

theorem isInf_iff : x.isInf ↔ ∃ negative, ofFloat x = infinite negative := by
  show x.toModel.unpack.isInf ↔ _
  rw [unpack_eq]
  cases ofFloat x with
  | finite negative m q =>
    simp only [toUnpacked]
    split <;> simp [UnpackedFloat.isInf]
  | _ => simp [toUnpacked, UnpackedFloat.isInf]

/-- No finite double is infinite. -/
theorem isInf_eq_false (h : x.isFinite) : x.isInf = false := by
  obtain ⟨negative, m, q, hx⟩ := isFinite_iff.mp h
  simp [← Bool.not_eq_true, isInf_iff, hx]

/-- **Finite doubles compare as their values.** -/
theorem compare_eq (hx : x.isFinite) (hy : y.isFinite) :
    x.toModel.unpack.compare y.toModel.unpack = some (compare (value x) (value y)) := by
  obtain ⟨negative, m, q, hx⟩ := isFinite_iff.mp hx
  obtain ⟨negative', m', q', hy⟩ := isFinite_iff.mp hy
  rw [unpack_eq, unpack_eq, value, value, hx, hy]
  exact compare_toUnpacked (ofFloat_eq_finite_iff.mp hx).1 (ofFloat_eq_finite_iff.mp hy).1

theorem lt_iff (hx : x.isFinite) (hy : y.isFinite) : x < y ↔ value x < value y := by
  have hmodel : x < y ↔ x.toModel.unpack.lt y.toModel.unpack := decide_eq_true_iff
  rw [hmodel, UnpackedFloat.lt, compare_eq hx hy, ← compare_lt_iff_lt]
  simp

theorem le_iff (hx : x.isFinite) (hy : y.isFinite) : x ≤ y ↔ value x ≤ value y := by
  have hmodel : x ≤ y ↔ x.toModel.unpack.le y.toModel.unpack := decide_eq_true_iff
  rw [hmodel, UnpackedFloat.le, compare_eq hx hy, ← compare_le_iff_le, Option.any_some]
  exact Ordering.isLE_iff_ne_gt

theorem beq_iff (hx : x.isFinite) (hy : y.isFinite) : x == y ↔ value x = value y := by
  show x.toModel.unpack.beq y.toModel.unpack ↔ _
  rw [UnpackedFloat.beq, compare_eq hx hy, ← compare_eq_iff_eq (a := value x)]
  simp

/-- Doubles that are not negative are in the order in which they are counted. -/
theorem le_iff_place_le {m m' : Nat} {q q' : Int} (hx : ofFloat x = finite false m q)
    (hy : ofFloat y = finite false m' q') : x ≤ y ↔ place m q ≤ place m' q' := by
  rw [le_iff (isFinite_iff.mpr ⟨_, _, _, hx⟩) (isFinite_iff.mpr ⟨_, _, _, hy⟩), value, value, hx, hy,
    ← compare_le_iff_le, ← compare_le_iff_le (a := place m q),
    compare_place (ofFloat_eq_finite_iff.mp hx).1 (ofFloat_eq_finite_iff.mp hy).1]
  rfl

/-- A positive double is finite and has a significand other than zero, or is infinite. -/
theorem pos_iff : 0 < x ↔
    ofFloat x = infinite false ∨ ∃ m q, ofFloat x = finite false m q ∧ m ≠ 0 := by
  have hmodel : 0 < x ↔ UnpackedFloat.lt (.zero .positive) x.toModel.unpack := decide_eq_true_iff
  rw [hmodel, unpack_eq, UnpackedFloat.lt]
  cases ofFloat x with
  | finite negative m q =>
    by_cases hm : m = 0 <;> cases negative <;> simp [toUnpacked, hm, sign, UnpackedFloat.compare]
  | infinite negative => cases negative <;> simp [toUnpacked, sign, UnpackedFloat.compare]
  | undefined => simp [toUnpacked, UnpackedFloat.compare]

theorem rank_eq {negative : Bool} {m : Nat} {q : Int} (h : ofFloat x = finite negative m q) :
    rank x = if negative then -(place m q : Int) - 1 else place m q := by
  obtain ⟨⟨hlt, hle, -⟩, hmax, hbits⟩ := ofFloat_eq_finite_iff.mp h
  have hplace : place m q < 2 ^ 63 := by
    rw [place]
    omega
  simp only [rank, hbits]
  cases negative with
  | true =>
    simp only [if_true]
    rw [if_neg (by omega)]
    omega
  | false =>
    simp only [Bool.false_eq_true, if_false]
    rw [if_pos (by omega)]
    omega

/-- **The order of all doubles is that of values**, where there are any. -/
theorem value_le_of_rank_le (hx : x.isFinite) (hy : y.isFinite) (h : rank x ≤ rank y) :
    value x ≤ value y := by
  obtain ⟨negative, m, q, hx⟩ := isFinite_iff.mp hx
  obtain ⟨negative', m', q', hy⟩ := isFinite_iff.mp hy
  rw [rank_eq hx, rank_eq hy] at h
  have hcanonical := (ofFloat_eq_finite_iff.mp hx).1
  have hcanonical' := (ofFloat_eq_finite_iff.mp hy).1
  have hpos : (0 : ℚ) ≤ m * 2 ^ q := by positivity
  have hpos' : (0 : ℚ) ≤ m' * 2 ^ q' := by positivity
  rw [value, value, hx, hy, Binary.value, Binary.value]
  cases negative <;> cases negative'
  all_goals simp only [if_true, Bool.false_eq_true, if_false] at h ⊢
  case false.false =>
    have hle : place m q ≤ place m' q' := by omega
    exact magnitude_le_of_place_le hcanonical hcanonical' hle
  case false.true => omega
  case true.false => linarith
  case true.true =>
    have hle : place m' q' ≤ place m q := by omega
    exact neg_le_neg (magnitude_le_of_place_le hcanonical' hcanonical hle)

/-! ### Fractions -/

/-- A finite double is still finite without its fraction. -/
theorem isFinite_truncated {x : Float} (h : x.isFinite) : (truncated x).isFinite := by
  obtain ⟨negative, m, q, hx⟩ := isFinite_iff.mp h
  obtain ⟨⟨hlt, hle, hfull⟩, hmax, -⟩ := ofFloat_eq_finite_iff.mp hx
  have htruncated : truncated x = nearest negative (wholePart m q) 1 := by
    simp only [truncated, hx]
  rw [htruncated]
  refine isFinite_nearest negative ?_
  obtain hq | hq := le_or_gt 0 q
  · obtain ⟨k, rfl⟩ := Int.eq_ofNat_of_zero_le hq
    rw [wholePart_of_nonneg hq, Int.toNat_natCast, nearestBits_shifted (by omega) hlt (by omega)]
    omega
  · rw [wholePart_of_neg hq]
    have := Nat.div_le_self m (2 ^ (-q).toNat)
    exact nearestBits_lt (by omega)

end Double

end Tabular
