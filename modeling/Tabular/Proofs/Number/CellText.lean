import Tabular.Number.Text
import Tabular.Proofs.Number.Digits
import Tabular.Proofs.Number.Shortest

/-!
# The text of a double is read back

The text of a cell with a double has digits and perhaps a point among them, after a sign. Such a
text `Number.Spells` a whole number with some places, and it is read as the double nearest to that.
There are two layouts: whole numbers below `10 ^ 15` get one place, which is zero, and all others
their shortest digits. Either way the number written is owned by the double, so **the text of a
finite double reads as that double** (`Double.readFloat?_cellText`).

It reads as an integer as well exactly if it has no point and the digits stay within 64 bits. Whole
numbers from `10 ^ 15` on have no point. Rounding to the shortest digits does not take them across
`2 ^ 63`, and the double `2 ^ 63` itself is written with other digits. So **only whole numbers from
`10 ^ 15` to below `2 ^ 63` are taken for integers** (`Double.isSome_readInt64?_cellText_iff`).
-/

namespace Tabular

/-! ### Decimals spelled out -/

namespace Number

theorem ofDigits_append_zeros (ds : List Char) (k : Nat) :
    ofDigits (ds ++ List.replicate k '0') = ofDigits ds * 10 ^ k := by
  have h := Nat.ofDigitChars_append (b := 10) (l := ds) (m := List.replicate k '0') 0
  rw [Nat.ofDigitChars_replicate_zero, Nat.mul_comm] at h
  exact h

theorem ofDigits_zeros_append (k : Nat) (ds : List Char) :
    ofDigits (List.replicate k '0' ++ ds) = ofDigits ds := by
  have h := Nat.ofDigitChars_append (b := 10) (l := List.replicate k '0') (m := ds) 0
  rw [Nat.ofDigitChars_replicate_zero, Nat.mul_zero] at h
  exact h

/-- The text is a decimal number without sign and exponent: its digits make up `n`, and the last
`places` of them stand behind a point. -/
inductive Spells : List Char → Nat → Nat → Prop
  | whole {ds : List Char} (hne : ds ≠ []) (hdigits : ∀ c ∈ ds, isDigit c) :
    Spells ds (ofDigits ds) 0
  | pointed {whole fraction : List Char} (hne : whole ≠ []) (hne' : fraction ≠ [])
      (hwhole : ∀ c ∈ whole, isDigit c) (hfraction : ∀ c ∈ fraction, isDigit c) :
    Spells (whole ++ '.' :: fraction) (ofDigits (whole ++ fraction)) fraction.length

variable {cs : List Char} {n places : Nat}

/-- A plain decimal begins with a digit. -/
theorem Spells.head (h : Spells cs n places) : ∃ c s, cs = c :: s ∧ isDigit c := by
  cases h with
  | whole hne hdigits =>
    obtain ⟨c, s, rfl⟩ := List.exists_cons_of_ne_nil hne
    exact ⟨c, s, rfl, hdigits c List.mem_cons_self⟩
  | pointed hne _ hwhole _ =>
    obtain ⟨c, s, rfl⟩ := List.exists_cons_of_ne_nil hne
    exact ⟨c, _, rfl, hwhole c List.mem_cons_self⟩

theorem Spells.mem (h : Spells cs n places) : ∀ c ∈ cs, isDigit c ∨ c = '.' := by
  cases h with
  | whole _ hdigits => exact fun c hc => .inl (hdigits c hc)
  | pointed _ _ hwhole hfraction =>
    simp only [List.mem_append, List.mem_cons]
    rintro c (hc | rfl | hc)
    · exact .inl (hwhole c hc)
    · exact .inr rfl
    · exact .inl (hfraction c hc)

/-- The sign is taken off. -/
theorem Spells.takeSign_signed (h : Spells cs n places) (negative : Bool) :
    takeSign (Double.signed negative cs) = (negative, cs) := by
  obtain ⟨c, s, rfl, hc⟩ := h.head
  cases negative with
  | true => rfl
  | false =>
    have hsign : c ≠ '-' ∧ c ≠ '+' := by
      constructor <;> (rintro rfl; exact absurd hc (by decide))
    simp only [Double.signed, Bool.false_eq_true, if_false]
    unfold takeSign
    split <;> simp_all

/-- Places shift a whole number of digits. -/
theorem ofScientific_neg (negative : Bool) (n : Nat) {places : Nat} (hplaces : places ≤ 400) :
    ofScientific negative n (-(places : Int)) = Binary.nearest negative n (10 ^ places) := by
  rw [ofScientific]
  split
  next hn =>
    simp only [hn, Binary.nearest, Binary.nearestBits, if_true]
  next hn =>
    have hlarge : ¬ 400 < -(places : Int) := by omega
    have hsmall : ¬ -(places : Int) + (n.log2 + 1) < -400 := by omega
    rw [if_neg hlarge, if_neg hsmall]
    split
    next h =>
      obtain rfl : places = 0 := by omega
      simp
    next h => simp

/-- **A plain decimal is rounded as it is written.** -/
theorem Spells.readFloat?_signed (h : Spells cs n places) (hplaces : places ≤ 400)
    (negative : Bool) :
    readFloat? (Double.signed negative cs) = some (Binary.nearest negative n (10 ^ places)) := by
  have hname : ∀ name ∈ ["inf".toList, "infinity".toList, "nan".toList],
      Text.toAsciiSmall cs ≠ name := by
    obtain ⟨c, s, rfl, hc⟩ := h.head
    have hletter : ∀ name ∈ ["inf".toList, "infinity".toList, "nan".toList],
        ∀ d ∈ name.head?, isDigit d = false := by simp [isDigit]
    rintro name hmem rfl
    have hd := hletter _ hmem (Text.asciiSmall c) rfl
    rw [isDigit_asciiSmall] at hd
    exact Bool.false_ne_true (hd.symm.trans hc)
  simp only [List.forall_mem_cons] at hname
  rw [← ofScientific_neg negative n hplaces, readFloat?, h.takeSign_signed]
  simp only [hname.1, hname.2.1, hname.2.2.1, or_self, if_false]
  cases h with
  | whole hne hdigits =>
    rw [readDecimal?_of_digits negative hne hdigits, Int.natCast_zero, Int.neg_zero,
      ofScientific_zero]
  | @pointed whole fraction hne hne' hwhole hfraction =>
    have htake : takeDigits (whole ++ '.' :: fraction) = (whole, '.' :: fraction) :=
      takeDigits_append hwhole (by simp [isDigit])
    have hrest : takeDigits fraction = (fraction, []) := by
      simpa using takeDigits_append (s := []) hfraction (by simp)
    simp only [readDecimal?, htake, takeFraction, hrest]
    simp [hne, readExponent?]

/-- A plain decimal is a whole number if it has no places. -/
theorem Spells.readInt?_signed (h : Spells cs n places) (negative : Bool) :
    readInt? (Double.signed negative cs) =
      if places = 0 then some (if negative then -(n : Int) else n) else none := by
  rw [readInt?, h.takeSign_signed]
  cases h with
  | whole hne hdigits =>
    have hall : cs.all isDigit := List.all_eq_true.mpr hdigits
    simp [readNat?, hall, hne]
  | @pointed whole fraction hne hne' hwhole hfraction =>
    have hall : (whole ++ '.' :: fraction).all isDigit = false := by simp [isDigit]
    simp [readNat?, hall, hne']

/-- It is an integer as well if 64 bits hold it, where only the sign of `2 ^ 63` could matter. -/
theorem Spells.isSome_readInt64?_signed (h : Spells cs n 0) (hn : n ≠ 2 ^ 63) (negative : Bool) :
    (readInt64? (Double.signed negative cs)).isSome ↔ n < 2 ^ 63 := by
  rw [readInt64?, h.readInt?_signed, if_pos rfl, Option.bind_some, toInt64?]
  cases negative <;> grind

end Number

/-! ### Layouts -/

namespace Decimal

open Number (Spells isDigit ofDigits)

variable {n k : Nat} {e : Int}

/-- Digits with a point among them. -/
theorem spells_take_drop {ds : List Char} {p : Nat} (hds : ∀ c ∈ ds, isDigit c) (hp : 0 < p)
    (hlt : p < ds.length) :
    Spells (ds.take p ++ '.' :: ds.drop p) (ofDigits ds) (ds.length - p) := by
  have hne : ds.take p ≠ [] := List.ne_nil_of_length_pos (by rw [List.length_take]; omega)
  have hne' : ds.drop p ≠ [] := List.ne_nil_of_length_pos (by rw [List.length_drop]; omega)
  have h := Spells.pointed hne hne' (fun c hc => hds c (List.mem_of_mem_take hc))
    fun c hc => hds c (List.mem_of_mem_drop (i := p) hc)
  rwa [List.take_append_drop, List.length_drop] at h

theorem isDigit_of_mem_zeros {c : Char} (hc : c ∈ List.replicate k '0') : isDigit c := by
  rw [List.eq_of_mem_replicate hc]
  decide

/-- Digits behind the point, with zeros before them. -/
theorem spells_zeros {ds : List Char} (hne : ds ≠ []) (hds : ∀ c ∈ ds, isDigit c) (k : Nat) :
    Spells ('0' :: '.' :: List.replicate k '0' ++ ds) (ofDigits ds) (k + ds.length) := by
  have h := Spells.pointed (List.cons_ne_nil '0' [])
    (List.append_ne_nil_of_right_ne_nil (List.replicate k '0') hne) (by simp [isDigit])
    (List.forall_mem_append.mpr ⟨fun c => isDigit_of_mem_zeros (k := k), hds⟩)
  have hvalue : ofDigits (['0'] ++ (List.replicate k '0' ++ ds)) = ofDigits ds :=
    Number.ofDigits_zeros_append (k + 1) ds
  rw [hvalue, List.length_append, List.length_replicate] at h
  exact h

/-- **A decimal written without an exponent** has its digits, and zeros up to the point. -/
theorem spells_positional (hn : n ≠ 0) (e : Int) :
    Spells (positional ⟨n, e⟩) (n * 10 ^ e.toNat) (-e).toNat := by
  obtain ⟨ds, hds⟩ : ∃ ds, Nat.toDigits 10 n = ds := ⟨_, rfl⟩
  have hne : ds ≠ [] := hds ▸ Nat.toDigits_ne_nil
  have hdigits : ∀ c ∈ ds, isDigit c := fun c hc => Number.isDigit_of_mem_toDigits (hds ▸ hc)
  have hvalue : ofDigits ds = n := hds ▸ Number.ofDigits_toDigits n
  simp only [positional, digitChars, if_neg hn, hds]
  by_cases he : 0 ≤ e
  · have h := Spells.whole (List.append_ne_nil_of_left_ne_nil hne _) (List.forall_mem_append.mpr
      ⟨hdigits, fun c => isDigit_of_mem_zeros (k := e.toNat)⟩)
    have hplaces : (-e).toNat = 0 := by omega
    rw [Number.ofDigits_append_zeros, hvalue] at h
    rwa [if_pos he, hplaces]
  · have hpower : n * 10 ^ e.toNat = n := by
      rw [Int.toNat_of_nonpos (by omega), Nat.pow_zero, Nat.mul_one]
    rw [if_neg he, hpower, ← hvalue]
    by_cases hpoint : 0 < (ds.length : Int) + e
    · have hplaces : (-e).toNat = ds.length - ((ds.length : Int) + e).toNat := by omega
      rw [if_pos hpoint, hplaces]
      exact spells_take_drop hdigits (by omega) (by omega)
    · have hplaces : (-e).toNat = (-((ds.length : Int) + e)).toNat + ds.length := by omega
      rw [if_neg hpoint, hplaces]
      exact spells_zeros hne hdigits _

theorem roundDiv_mul (n : Nat) {b : Nat} (hb : 0 < b) : Binary.roundDiv (n * b) b = n := by
  have hpos : ¬ (b < 0 ∨ 0 = b ∧ n % 2 = 1) := by omega
  simp [Binary.roundDiv, Nat.mul_div_cancel n hb, hb.ne]

/-- A whole number is written with a fixed number of zeros behind the point. -/
theorem spells_fixed {m places : Nat} {q : Int} (hplaces : places ≠ 0)
    (hwhole : Binary.isWhole m q) :
    Spells (fixed places m q) (Binary.wholePart m q * 10 ^ places) places := by
  obtain ⟨a, b, hab, hb, ha⟩ : ∃ a b : Nat,
      (if 0 ≤ q then (m * Nat.pow 2 q.toNat, 1) else (m, Nat.pow 2 (-q).toNat)) = (a, b) ∧ 0 < b ∧
        a = Binary.wholePart m q * b := by
    rw [Binary.wholePart]
    split
    next hq => exact ⟨_, _, rfl, Nat.one_pos, (Nat.mul_one _).symm⟩
    next hq =>
      have hdvd : Nat.pow 2 (-q).toNat ∣ m := by
        simpa [Binary.isWhole, hq, Nat.dvd_iff_mod_eq_zero] using hwhole
      exact ⟨_, _, rfl, Nat.pow_pos (by decide), (Nat.div_mul_cancel hdvd).symm⟩
  have hround : Binary.roundDiv (a * Nat.pow 10 places) b = Binary.wholePart m q * 10 ^ places := by
    rw [ha, Nat.mul_right_comm]
    exact roundDiv_mul _ hb
  obtain ⟨ds, hds⟩ : ∃ ds, Nat.toDigits 10 (Binary.wholePart m q * 10 ^ places) = ds := ⟨_, rfl⟩
  obtain ⟨padded, hpadded⟩ : ∃ padded, List.replicate (places + 1 - ds.length) '0' ++ ds = padded :=
    ⟨_, rfl⟩
  have hdigits : ∀ c ∈ padded, isDigit c := by
    rw [← hpadded, List.forall_mem_append]
    exact ⟨fun c => isDigit_of_mem_zeros, fun c hc => Number.isDigit_of_mem_toDigits (hds ▸ hc)⟩
  have hvalue : ofDigits padded = Binary.wholePart m q * 10 ^ places := by
    rw [← hpadded, Number.ofDigits_zeros_append, ← hds, Number.ofDigits_toDigits]
  have hlength : places < padded.length := by
    rw [← hpadded, List.length_append, List.length_replicate]
    omega
  simp only [fixed, hab, hround, hds, hpadded, if_neg hplaces]
  have h := spells_take_drop hdigits (Nat.sub_pos_of_lt hlength) (by omega)
  rwa [hvalue, Nat.sub_sub_self hlength.le] at h

end Decimal

/-! ### Texts of cells -/

namespace Double

open Binary Number

variable {x : Float} {negative : Bool} {m n : Nat} {q : Int}

/-- **What the text of a finite double spells** is owned by the double. It has no places exactly if
the double is a whole number from `10 ^ 15` on. -/
theorem exists_spells (h : ofFloat x = finite negative m q) :
    ∃ cs n places, (cellText x).toList = signed negative cs ∧ Spells cs n places ∧ places ≤ 400 ∧
      Owns m q (n / (10 ^ places : Nat)) ∧
        (places = 0 ↔ Binary.isWhole m q ∧ 10 ^ 15 ≤ Binary.wholePart m q) := by
  obtain ⟨hcanonical, hmax, -⟩ := ofFloat_eq_finite_iff.mp h
  simp only [cellText, textBy, h, String.toList_ofList, Bool.and_eq_true, decide_eq_true_eq]
  split
  next hshort =>
    obtain ⟨hwhole, hlt⟩ := hshort
    have hvalue : ((Binary.wholePart m q * 10 ^ 1 : Nat) / (10 ^ 1 : Nat) : ℚ) = m * 2 ^ q := by
      rw [← wholePart_eq hwhole]
      push_cast
      field_simp
    refine ⟨_, _, 1, rfl, Decimal.spells_fixed one_ne_zero hwhole, by decide, ?_, ?_⟩
    · rw [hvalue]
      refine owns_of_lt le_rfl ?_
      have hquarter : (0 : ℚ) < 2 ^ (q - 2) := by positivity
      linarith
    · exact iff_of_false one_ne_zero fun hlong => absurd hlt (not_lt.mpr hlong.2)
  next hlong =>
    have hm : m ≠ 0 := by
      rintro rfl
      refine hlong ⟨?_, ?_⟩
      · simp [Binary.isWhole]
      · simp [Binary.wholePart]
    obtain ⟨n, e, hshortest, hn, hne, he, hplaces⟩ :=
      Decimal.shortest_spec .greater hcanonical hmax hm
    have hvalue : ((n * 10 ^ e.toNat : Nat) / (10 ^ (-e).toNat : Nat) : ℚ) = n * 10 ^ e := by
      obtain ⟨k, rfl | rfl⟩ := Int.eq_nat_or_neg e
      · simp
      · simp [div_eq_mul_inv]
    rw [hshortest]
    refine ⟨_, _, _, rfl, Decimal.spells_positional hne e, by omega, hvalue ▸ hn, ?_⟩
    have hzero : (-e).toNat = 0 ↔ 0 ≤ e := by omega
    rw [hzero, hplaces]
    exact ⟨fun hwhole => ⟨hwhole, not_lt.mp fun hlt => hlong ⟨hwhole, hlt⟩⟩, And.left⟩

/-- **The text of a finite double reads as the double.** -/
theorem readFloat?_cellText (h : x.isFinite) : readFloat? (cellText x).toList = some x := by
  obtain ⟨negative, m, q, hx⟩ := isFinite_iff.mp h
  obtain ⟨cs, n, places, htext, hspells, hplaces, hn, -⟩ := exists_spells hx
  rw [htext, hspells.readFloat?_signed hplaces, nearest_eq hx (Nat.pow_pos (by decide)) hn]

/-- The text of a finite double is made of digits, points and minus signs. -/
theorem mem_cellText (h : x.isFinite) :
    ∀ c ∈ (cellText x).toList, isDigit c ∨ c = '.' ∨ c = '-' := by
  obtain ⟨negative, m, q, hx⟩ := isFinite_iff.mp h
  obtain ⟨cs, n, places, htext, hspells, -⟩ := exists_spells hx
  rw [htext, signed]
  intro c hc
  split at hc
  · rcases List.mem_cons.mp hc with rfl | hc
    · exact .inr (.inr rfl)
    · exact (hspells.mem c hc).imp_right .inl
  · exact (hspells.mem c hc).imp_right .inl

/-! ### Doubles taken for integers -/

/-- The double is a whole number from `10 ^ 15` on that 64 bits with sign hold. -/
def IsLong (x : Float) : Prop := isWhole x ∧ 10 ^ 15 ≤ |value x| ∧ |value x| < 2 ^ 63

instance : DecidablePred IsLong := fun x =>
  inferInstanceAs (Decidable (isWhole x ∧ 10 ^ 15 ≤ |value x| ∧ |value x| < 2 ^ 63))

theorem isLong_iff (h : ofFloat x = finite negative m q) : IsLong x ↔
    (Binary.isWhole m q ∧ 10 ^ 15 ≤ Binary.wholePart m q) ∧ (m * 2 ^ q : ℚ) < 2 ^ 63 := by
  have hwhole : isWhole x = Binary.isWhole m q := by rw [isWhole, h]
  rw [IsLong, hwhole, abs_value h, and_assoc]
  refine and_congr_right fun hw => and_congr_left fun _ => ?_
  rw [← wholePart_eq hw]
  exact_mod_cast Iff.rfl

/-- **Rounding to a whole number does not cross `2 ^ 63`**, except from the double `2 ^ 63` itself.
-/
theorem owned_lt_or_gt (h : Canonical m q) (hn : Owns m q n) (hne : ¬ (m = 2 ^ 52 ∧ q = 11)) :
    n < 2 ^ 63 ∧ (m * 2 ^ q : ℚ) < 2 ^ 63 ∨ 2 ^ 63 < n ∧ (2 ^ 63 : ℚ) ≤ m * 2 ^ q := by
  obtain ⟨hlow, hhigh⟩ := hn.le
  have hsteps : (lowSteps m q : ℚ) ≤ 2 := by exact_mod_cast (lowSteps_bounds m q).2
  have hquarter : (0 : ℚ) < 2 ^ (q - 2) := by positivity
  rw [(unit_eq q).1]
  obtain hq | hq := lt_or_ge 10 q
  · right
    have hfull := h.full
    -- the double after `2 ^ 63`, or a double of a higher binade
    have hless : (2 ^ 63 : ℚ) < (4 * m - 2) * 2 ^ (q - 2) := by
      obtain rfl | hq := (Int.add_one_le_of_lt hq).eq_or_lt
      · have hm : (2 ^ 52 + 1 : ℚ) ≤ m := by
          have hm : 2 ^ 52 + 1 ≤ m := by omega
          exact_mod_cast hm
        norm_num
        linarith
      · have hm : (2 ^ 52 : ℚ) ≤ m := by
          have hm : 2 ^ 52 ≤ m := by omega
          exact_mod_cast hm
        calc (2 ^ 63 : ℚ) < (4 * 2 ^ 52 - 2) * 2 ^ (10 : Int) := by norm_num
          _ ≤ (4 * m - 2) * 2 ^ (q - 2) :=
            mul_le_mul (by linarith) (zpow_le_zpow_right₀ one_le_two (by omega)) (by positivity)
              (by linarith)
    have hless' : (2 ^ 63 : ℚ) < n := by nlinarith
    exact ⟨by exact_mod_cast hless', by linarith⟩
  · left
    have hm : (m : ℚ) + 1 ≤ 2 ^ 53 := by exact_mod_cast h.lt
    have hless : ((4 * m + 2) * 2 ^ (q - 2) : ℚ) < 2 ^ 63 :=
      calc ((4 * m + 2) * 2 ^ (q - 2) : ℚ) ≤ (4 * 2 ^ 53 - 2) * 2 ^ (8 : Int) :=
            mul_le_mul (by linarith) (zpow_le_zpow_right₀ one_le_two (by omega)) hquarter.le
              (by norm_num)
        _ < 2 ^ 63 := by norm_num
    have hless' : (n : ℚ) < 2 ^ 63 := by linarith
    exact ⟨by exact_mod_cast hless', by linarith⟩

/-- The double `2 ^ 63` is written as a greater number. -/
theorem cellText_of_two_pow (h : ofFloat x = finite negative (2 ^ 52) 11) :
    (cellText x).toList = signed negative "9223372036854776000".toList := by
  simp only [cellText, textBy, h, String.toList_ofList]
  cases negative <;> decide

/-- **Only long whole numbers are taken for integers.** -/
theorem isSome_readInt64?_cellText_iff (h : x.isFinite) :
    (readInt64? (cellText x).toList).isSome ↔ IsLong x := by
  obtain ⟨negative, m, q, hx⟩ := isFinite_iff.mp h
  obtain ⟨hcanonical, hmax, -⟩ := ofFloat_eq_finite_iff.mp hx
  rw [isLong_iff hx]
  by_cases hborder : m = 2 ^ 52 ∧ q = 11
  · obtain ⟨rfl, rfl⟩ := hborder
    rw [cellText_of_two_pow hx]
    refine iff_of_false (by cases negative <;> decide) fun hlong => ?_
    norm_num at hlong
  obtain ⟨cs, n, places, htext, hspells, -, hn, hplaces⟩ := exists_spells hx
  rw [htext, ← hplaces]
  obtain rfl | hpointed := eq_or_ne places 0
  · rw [Nat.pow_zero, Nat.cast_one, div_one] at hn
    have hside := owned_lt_or_gt hcanonical hn hborder
    rw [hspells.isSome_readInt64?_signed (by omega), eq_self, true_and]
    obtain ⟨hn, hv⟩ | ⟨hn, hv⟩ := hside
    · exact iff_of_true hn hv
    · exact iff_of_false hn.le.not_gt hv.not_gt
  · have hnone : readInt64? (signed negative cs) = none := by
      rw [readInt64?, hspells.readInt?_signed, if_neg hpointed, Option.bind_none]
    simp [hnone, hpointed]

end Double

end Tabular

