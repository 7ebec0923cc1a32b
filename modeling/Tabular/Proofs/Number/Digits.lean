import Tabular.Number.Decimal
import Tabular.Number.Reading

/-!
# Digits written and read

**Decimal digits read back as the number they were written for** (`Number.ofDigits_toDigits`), and a
run of digits is taken whole if no digit follows it (`Number.takeDigits_append`). Only zero is written
with a leading zero.
-/

namespace Tabular

namespace Number

variable {c : Char} {ds s : List Char}

theorem isDigit_eq (c : Char) : isDigit c = c.isDigit := by
  rw [Bool.eq_iff_iff, isDigit, Bool.and_eq_true, decide_eq_true_eq, decide_eq_true_eq,
    Char.isDigit_iff_toNat, Char.le_def, Char.le_def, UInt32.le_iff_toNat_le,
    UInt32.le_iff_toNat_le]
  rfl

theorem isDigit_of_mem_toDigits {n : Nat} (hc : c ∈ Nat.toDigits 10 n) : isDigit c := by
  rw [isDigit_eq]
  exact Nat.isDigit_of_mem_toDigits (by decide) (by decide) hc

theorem toDigits_eq_cons (n : Nat) : ∃ c ds, Nat.toDigits 10 n = c :: ds ∧ isDigit c := by
  obtain ⟨c, ds, hdigits⟩ := List.exists_cons_of_ne_nil (Nat.toDigits_ne_nil (n := n))
  exact ⟨c, ds, hdigits, isDigit_of_mem_toDigits (hdigits ▸ List.mem_cons_self)⟩

/-- Written digits read back. -/
theorem ofDigits_toDigits (n : Nat) : ofDigits (Nat.toDigits 10 n) = n :=
  Nat.ofDigitChars_ten_toDigits

/-- A run of digits is taken whole. -/
theorem takeDigits_append (hds : ∀ c ∈ ds, isDigit c) (hs : ∀ c ∈ s.head?, isDigit c = false) :
    takeDigits (ds ++ s) = (ds, s) := by
  have htake : s.takeWhile isDigit = [] := by
    cases s with
    | nil => rfl
    | cons c s => rw [List.takeWhile_cons, hs c rfl, if_neg Bool.false_ne_true]
  have hdrop : s.dropWhile isDigit = s := by
    cases s with
    | nil => rfl
    | cons c s => rw [List.dropWhile_cons, hs c rfl, if_neg Bool.false_ne_true]
  rw [takeDigits, List.takeWhile_append_of_pos hds, List.dropWhile_append_of_pos hds, htake, hdrop,
    List.append_nil]

/-- A number other than zero does not begin with the digit zero. -/
theorem toDigits_eq_cons_of_ne_zero {n : Nat} (hn : n ≠ 0) :
    ∃ c ds, Nat.toDigits 10 n = c :: ds ∧ c ≠ '0' := by
  induction n using Nat.strongRecOn with
  | ind n ih =>
    by_cases hlt : n < 10
    · exact ⟨_, [], Nat.toDigits_of_lt_base hlt, mt Nat.digitChar_eq_zero.mp hn⟩
    · obtain ⟨c, ds, hdigits, hc⟩ := ih (n / 10) (by omega) (by omega)
      refine ⟨c, ds ++ [Nat.digitChar (n % 10)], ?_, hc⟩
      rw [Nat.toDigits_of_base_le (by decide) (Nat.le_of_not_lt hlt), hdigits, List.cons_append]

end Number

end Tabular
