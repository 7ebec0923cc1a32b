import Tabular.Json.Reading
import Tabular.Number.Text
import Tabular.Proofs.Number.Arithmetic

/-!
# Numbers of a JSON text

A number that is no integer of 64 bits is read as a double in several roundings, so it need not be the
nearest one. But **what is read is finite** (`Numeral.isFinite_of_float?`): a product that becomes
infinite is refused, and quotients by powers of ten are no greater than what is divided. Digits that
make up a whole number of 64 bits are all kept and multiplied by one, so they are never refused
(`Numeral.isSome_float?_of_lt`).
-/

namespace Tabular

namespace Numeral

variable {n : Numeral} {x y : Float}

/-! ### Digits -/

theorem appended_fst_lt : ∀ {ds : List Char} {k : Nat}, k < 2 ^ 64 → (appended k ds).1 < 2 ^ 64
  | [], _, hk => hk
  | c :: ds, k, hk => by
    simp only [appended]
    split
    next hfits => exact appended_fst_lt hfits
    next => exact hk

/-- Digits that make up a number of 64 bits are all kept. -/
theorem appended_of_lt : ∀ {ds : List Char} {k : Nat}, Nat.ofDigitChars 10 ds k < 2 ^ 64 →
    appended k ds = (Nat.ofDigitChars 10 ds k, [])
  | [], _, _ => rfl
  | c :: ds, k, h => by
    rw [Nat.ofDigitChars_cons] at h ⊢
    have hfits : 10 * k + (c.toNat - '0'.toNat) < 2 ^ 64 := by
      refine Nat.lt_of_le_of_lt ?_ h
      rw [Nat.ofDigitChars_eq_ofDigitChars_zero]
      exact Nat.le_add_right_of_le (Nat.le_mul_of_pos_left _ (Nat.pow_pos (by decide)))
    rw [appended]
    exact (if_pos hfits).trans (appended_of_lt h)

/-! ### Powers of ten -/

theorem power_bounds : ∀ k ≤ 308, 1 ≤ power k ∧ (power k).isFinite := by decide +kernel

/-- So many rounds leave a power of ten that is a double. -/
theorem isFinite_divided : ∀ {rounds k : Nat} {x : Float}, x.isFinite → k ≤ 308 * (rounds + 1) →
    (divided x k rounds).isFinite
  | 0, k, x, hx, hk => by
    obtain ⟨hone, hpower⟩ := power_bounds k (by omega)
    exact Double.isFinite_div hx hpower hone
  | rounds + 1, k, x, hx, hk => by
    rw [divided]
    split
    next hlast =>
      obtain ⟨hone, hpower⟩ := power_bounds k hlast
      exact Double.isFinite_div hx hpower hone
    next =>
      split
      next => exact hx
      next =>
        obtain ⟨hone, hpower⟩ := power_bounds 308 (by decide)
        exact isFinite_divided (Double.isFinite_div hx hpower hone) (by omega)

theorem isFinite_of_scaled? {e : Int} (hx : x.isFinite) (h : scaled? x e = some y) :
    y.isFinite := by
  simp only [scaled?] at h
  split at h
  next =>
    rw [← Option.some.inj h]
    exact isFinite_divided hx (by omega)
  next =>
    split at h
    next hpower =>
      obtain ⟨hfinite, hproduct⟩ := Option.ite_none_left_eq_some.mp h
      rw [← Option.some.inj hproduct]
      exact Double.isFinite_mul_of_isInf_eq_false hx (power_bounds _ (by omega)).2
        (Bool.eq_false_iff.mpr hfinite)
    next =>
      rw [Option.ite_none_right_eq_some, Option.some_inj] at h
      exact h.2 ▸ hx

/-! ### Numbers -/

/-- **No number is read as an infinite double.** -/
theorem isFinite_of_float? (h : n.float? = some x) : x.isFinite := by
  obtain ⟨y, hy, rfl⟩ := Option.map_eq_some_iff.mp h
  -- the digits make up a number of 64 bits, so it is rounded to a finite double
  have hwhole : (appended 0 n.whole).1 < 2 ^ 64 := appended_fst_lt (by decide)
  have hfinite := isFinite_of_scaled?
    (Binary.isFinite_nearest _ (Binary.nearestBits_lt (appended_fst_lt hwhole))) hy
  split
  · exact Double.isFinite_neg hfinite
  · exact hfinite

-- the nearest double is written `51.248178375505404`
example : (float? ⟨false, "51".toList, some "248178375505404".toList, none⟩).map Double.jsonNumber =
    some "51.24817837550541".toList := by decide +kernel

/-- A whole number of 64 bits is never refused. -/
theorem isSome_float?_of_lt (hfraction : n.fraction = none) (hexponent : n.exponent = none)
    (h : Number.ofDigits n.whole < 2 ^ 64) : n.float?.isSome := by
  have hfinite : (Binary.nearest false (Number.ofDigits n.whole) 1).isFinite :=
    Binary.isFinite_nearest _ (Binary.nearestBits_lt h)
  obtain ⟨negative, m, q, hx⟩ := Double.isFinite_iff.mp hfinite
  obtain ⟨hcanonical, hmax, -⟩ := Binary.ofFloat_eq_finite_iff.mp hx
  have hone : Binary.ofFloat (power 0) = .finite false (2 ^ 52) (-52) := by decide
  have hproduct := Double.isFinite_mul hx hone ⟨m, q, hcanonical.lt.le, hcanonical.le, rfl⟩
    (hcanonical.lt_two_pow hmax) (by norm_num)
  have hkept : appended 0 n.whole = (Number.ofDigits n.whole, []) := appended_of_lt h
  simp [float?, hfraction, hexponent, hkept, appended, scaled?, Double.isInf_eq_false hproduct]

/-- **A number is an integer or a double**, whatever the parts of the layer, and could be read as a
double in either case. -/
theorem layer?_cases (n : Numeral) :
    (∃ i, n.float?.isSome ∧ ∀ δ, n.layer? δ = some (.int i)) ∨
      ∀ δ, n.layer? δ = n.float?.map .float := by
  unfold layer?
  dsimp only
  by_cases hplain : (n.fraction.isNone && n.exponent.isNone) = true
  · obtain ⟨hfraction, hexponent⟩ : n.fraction = none ∧ n.exponent = none := by simpa using hplain
    simp only [if_pos hplain]
    split
    next =>
      split
      next h => exact .inl ⟨_, isSome_float?_of_lt hfraction hexponent (by omega), fun _ => rfl⟩
      next => exact .inr fun _ => rfl
    next =>
      split
      next h => exact .inl ⟨_, isSome_float?_of_lt hfraction hexponent h, fun _ => rfl⟩
      next => exact .inr fun _ => rfl
  · simp only [if_neg hplain]
    exact .inr fun _ => trivial

/-- The integers among numbers have 64 bits besides their sign. -/
theorem natAbs_lt_of_layer? {δ : Type} {i : Int} (h : n.layer? δ = some (.int i)) :
    i.natAbs < 2 ^ 64 := by
  simp only [layer?] at h
  split at h
  · split at h <;> split at h <;> simp at h <;> omega
  · simp at h

theorem layer?_ne_array (n : Numeral) {δ : Type} (xs : List δ) : n.layer? δ ≠ some (.array xs) := by
  obtain ⟨i, -, hn⟩ | hn := n.layer?_cases <;> simp [hn]

theorem layer?_ne_object (n : Numeral) {δ : Type} (ms : List (String × δ)) :
    n.layer? δ ≠ some (.object ms) := by
  obtain ⟨i, -, hn⟩ | hn := n.layer?_cases <;> simp [hn]

/-- A number stands for itself if it is read without overflow. -/
theorem isSome_json?_iff (n : Numeral) : n.json?.isSome ↔ n.float?.isSome := by
  rw [json?]
  obtain ⟨i, hfloat, hlayer⟩ | hlayer := n.layer?_cases
  · simp only [hlayer, Option.isSome_some, hfloat]
  · rw [hlayer]
    cases n.float? <;> simp

end Numeral

end Tabular
