import Mathlib
import Tabular.Inference
import Tabular.Proofs.Number.Reading

/-!
# Whole numbers are finite doubles

The double nearest to a whole number of 64 bits is finite, so **every text that reads as an integer
also reads as a finite decimal number** (`Number.exists_readFloat?_of_readInt64?`). A column of
numbers may therefore take the integers among its texts for decimals without losing any.

Whether a double is finite is decided by its exponent bits: it is unless all of them are set
(`Double.isFinite_ofBits`). Rounding a number below `2 ^ 64` leaves its exponent far from there.
-/

namespace Tabular

open Float.Model (Format UnpackedFloat)
open Float.Model.UnpackedFloat (unpackExponent)

/-! ### Bits of finite doubles -/

/-- Bits stand for a finite number exactly if not all bits of the exponent are set. -/
private theorem isFinite_unpack_iff {spec : Format} {b : BitVec spec.numBits} :
    (UnpackedFloat.unpack spec b).isFinite ↔ unpackExponent b ≠ -1#_ := by
  simp only [UnpackedFloat.unpack]
  split
  next h => split <;> simp [UnpackedFloat.isFinite, h]
  next h => split <;> (try split) <;> simp [UnpackedFloat.isFinite, h]

/-- Finite bits are still finite when they are unpacked and packed again. -/
private theorem isFinite_unpack_pack_unpack {b : BitVec Format.binary64.numBits}
    (h : unpackExponent b ≠ -1#_) :
    (UnpackedFloat.unpack .binary64
      (UnpackedFloat.pack .binary64 (UnpackedFloat.unpack .binary64 b))).isFinite := by
  have hnumber : UnpackedFloat.isNaNBits b = false := decide_eq_false fun hb => h hb.1
  rw [UnpackedFloat.pack_unpack, hnumber, if_neg Bool.false_ne_true]
  exact isFinite_unpack_iff.mpr h

/-- A double made of bits is finite unless all bits of the exponent are set. -/
theorem Double.isFinite_ofBits {b : UInt64} (h : b.toNat / 2 ^ 52 % 2 ^ 11 ≠ 2047) :
    (Float.ofBits b).isFinite := by
  refine isFinite_unpack_pack_unpack fun hset => h ?_
  have htoNat := congrArg BitVec.toNat hset
  simpa [unpackExponent, Nat.shiftRight_eq_div_pow] using htoNat

/-! ### Nearest doubles -/

namespace Binary

/-- The nearest double is finite unless its bits are those of infinity. -/
theorem isFinite_nearest {a b : Nat} (negative : Bool) (h : nearestBits a b < 2047 * 2 ^ 52) :
    (nearest negative a b).isFinite := by
  refine Double.isFinite_ofBits ?_
  rw [UInt64.toNat_ofNat']
  cases negative <;> simp <;> omega

private theorem roundDiv_le (a b : Nat) : roundDiv a b ≤ a / b + 1 := by
  simp only [roundDiv]
  split <;> omega

/-- Scaled by a power of two that leaves it at most 54 bits, a whole number has at most these. -/
private theorem descale_div_le {n k : Nat} {q : Int} (hn : n < 2 ^ k) (hq : (k : Int) ≤ q + 54) :
    (descale n 1 q).1 / (descale n 1 q).2 ≤ 2 ^ 54 := by
  rw [descale]
  split
  next hpos =>
    have hk : 2 ^ k ≤ 2 ^ q.toNat * 2 ^ 54 := by
      rw [← Nat.pow_add]
      exact Nat.pow_le_pow_right (by decide) (by omega)
    refine Nat.div_le_of_le_mul ?_
    rw [Nat.one_mul]
    exact Nat.le_trans (Nat.le_of_lt hn) hk
  next hneg =>
    calc n * Nat.pow 2 (-q).toNat / 1 = n * 2 ^ (-q).toNat := Nat.div_one _
      _ ≤ 2 ^ k * 2 ^ (-q).toNat := Nat.mul_le_mul_right _ (Nat.le_of_lt hn)
      _ = 2 ^ (k + (-q).toNat) := (Nat.pow_add 2 k _).symm
      _ ≤ 2 ^ 54 := Nat.pow_le_pow_right (by decide) (by omega)

/-- A whole number of 64 bits is far below infinity. -/
theorem nearestBits_lt {n : Nat} (hn : n < 2 ^ 64) : nearestBits n 1 < 2047 * 2 ^ 52 := by
  rw [nearestBits]
  split
  next => decide
  next hne =>
    have hlog : n.log2 < 64 := (Nat.log2_lt hne).mpr hn
    have hq : exponentOf n 1 < 12 ∧ (n.log2 : Int) - 53 ≤ exponentOf n 1 := by
      have hone : (1 : Nat).log2 = 0 := by decide
      simp only [exponentOf, hone]
      split <;> omega
    generalize exponentOf n 1 = q at hq
    have hround : roundDiv (descale n 1 q).1 (descale n 1 q).2 ≤ 2 ^ 54 + 1 := by
      refine Nat.le_trans (roundDiv_le _ _) (Nat.succ_le_succ ?_)
      refine descale_div_le (k := n.log2 + 1) Nat.lt_log2_self ?_
      omega
    have hexponent : (q + 1074).toNat ≤ 1085 := by omega
    show min ((q + 1074).toNat * 2 ^ 52 + roundDiv (descale n 1 q).1 (descale n 1 q).2)
      (2047 * 2 ^ 52) < _
    omega

end Binary

/-! ### Integers read as decimal numbers -/

namespace Number

/-- A whole number without fraction and exponent is rounded as it is. -/
theorem ofScientific_zero (negative : Bool) (n : Nat) :
    ofScientific negative n 0 = Binary.nearest negative n 1 := by
  have hlarge : ¬ (400 : Int) < 0 := by decide
  have hsmall : ¬ (0 : Int) + (n.log2 + 1) < -400 := by omega
  rw [ofScientific, if_neg hlarge, if_neg hsmall]
  split
  next hn => rw [hn]
  next => rw [if_pos (Int.le_refl 0), Int.toNat_zero, Nat.pow_eq, Nat.pow_zero, Nat.mul_one]

/-- A nonempty text of digits is written without point and exponent. -/
theorem readDecimal?_of_digits {cs : List Char} (negative : Bool) (hne : cs ≠ [])
    (hdigits : ∀ c ∈ cs, isDigit c) :
    readDecimal? negative cs = some (Binary.nearest negative (ofDigits cs) 1) := by
  have htake : takeDigits cs = (cs, []) := by
    rw [takeDigits, List.takeWhile_eq_self_iff.mpr hdigits, List.dropWhile_eq_nil_iff.mpr hdigits]
  have hfraction : takeFraction [] = ([], []) := rfl
  simp only [readDecimal?, htake, hfraction]
  simp [hne, readExponent?, ofScientific_zero]

/-- A nonempty text of digits is a decimal number and no name of one. -/
theorem readFloat?_of_readNat? {cs : List Char} {negative : Bool} {digits : List Char} {n : Nat}
    (hsign : takeSign cs = (negative, digits)) (h : readNat? digits = some n) :
    readFloat? cs = some (Binary.nearest negative n 1) := by
  simp only [readNat?, Option.ite_none_left_eq_some, Bool.or_eq_true, List.isEmpty_iff,
    Bool.not_eq_true', not_or, Bool.not_eq_false, List.all_eq_true, Option.some.injEq] at h
  obtain ⟨⟨hne, hdigits⟩, rfl⟩ := h
  have hname : ∀ {c : Char} {name : List Char}, c ∈ name → isDigit c = false → digits ≠ name := by
    rintro c name hc hletter rfl
    exact Bool.false_ne_true (hletter.symm.trans (hdigits c hc))
  have hinf : digits ≠ "inf".toList := hname (c := 'i') (by decide) (by decide)
  have hinfinity : digits ≠ "infinity".toList := hname (c := 'i') (by decide) (by decide)
  have hnan : digits ≠ "nan".toList := hname (c := 'n') (by decide) (by decide)
  simp only [readFloat?, hsign, toAsciiSmall_of_digits hdigits, hinf, hinfinity, hnan, or_self,
    if_false, readDecimal?_of_digits negative hne hdigits]

theorem readInt?_eq_some_iff {cs : List Char} {k : Int} : readInt? cs = some k ↔
    ∃ n, readNat? (takeSign cs).2 = some n ∧ (if (takeSign cs).1 then -(n : Int) else n) = k := by
  simp only [readInt?]
  cases readNat? (takeSign cs).2 <;> simp

/-- **A text that reads as an integer reads as a finite decimal number.** -/
theorem exists_readFloat?_of_readInt64? {cs : List Char} (h : (readInt64? cs).isSome) :
    ∃ x, readFloat? cs = some x ∧ x.isFinite := by
  obtain ⟨i, hi⟩ := Option.isSome_iff_exists.mp h
  obtain ⟨k, hk, hbounds⟩ := Option.bind_eq_some_iff.mp hi
  rw [toInt64?, Option.ite_none_right_eq_some] at hbounds
  obtain ⟨⟨hlow, hhigh⟩, -⟩ := hbounds
  obtain ⟨n, hn, rfl⟩ := readInt?_eq_some_iff.mp hk
  refine ⟨_, readFloat?_of_readNat? rfl hn, Binary.isFinite_nearest _ (Binary.nearestBits_lt ?_)⟩
  -- either sign leaves at most `2 ^ 63` for the digits
  split at hlow
  next => omega
  next hplus =>
    rw [if_neg hplus] at hhigh
    omega

end Number

end Tabular
