import Tabular.Number.Reading

/-!
# Reading numbers is blind to letter case

A number may be written with letters: an exponent mark, or the name of infinity or of the undefined
value. **Capitals of the ASCII alphabet may be made small before a text is read**, and the reading
is the same (`Number.readInt64?_toAsciiSmall`, `Number.readFloat?_toAsciiSmall`). Every step of the
reader has its own statement of this kind, down to single characters: a letter is no sign, digit or
point in either case, and blanks are no letters.
-/

namespace Tabular

namespace Text

variable (c : Char) (s : List Char)

/-- A character is its own small form, or the two are a letter of the ASCII alphabet. -/
theorem asciiSmall_cases {Q : Char → Char → Prop} (hself : asciiSmall c = c → Q c c)
    (hletter : ∀ n < 26, Q (Char.ofNat (65 + n)) (Char.ofNat (97 + n))) : Q c (asciiSmall c) := by
  by_cases h : 'A' ≤ c ∧ c ≤ 'Z'
  · have hlow : 65 ≤ c.toNat := UInt32.le_iff_toNat_le.mp (Char.le_def.mp h.1)
    have hhigh : c.toNat ≤ 90 := UInt32.le_iff_toNat_le.mp (Char.le_def.mp h.2)
    -- capitals and small letters stand at the same places of their alphabets
    have hc := hletter (c.toNat - 65) (by omega)
    rw [show 65 + (c.toNat - 65) = c.toNat by omega, Char.ofNat_toNat,
      show 97 + (c.toNat - 65) = c.toNat + 32 by omega] at hc
    rwa [asciiSmall, if_pos h]
  · have hc : asciiSmall c = c := if_neg h
    exact hc.symm ▸ hself hc

theorem asciiSmall_asciiSmall : asciiSmall (asciiSmall c) = asciiSmall c :=
  asciiSmall_cases c (Q := fun _ d => asciiSmall d = d) id (by decide)

theorem isBlank_asciiSmall : isBlank (asciiSmall c) = isBlank c :=
  asciiSmall_cases c (Q := fun c d => isBlank d = isBlank c) (fun _ => rfl) (by decide)

/-! ### Texts -/

theorem toAsciiSmall_toAsciiSmall : toAsciiSmall (toAsciiSmall s) = toAsciiSmall s := by
  rw [toAsciiSmall, toAsciiSmall, List.map_map]
  exact List.map_congr_left fun c _ => asciiSmall_asciiSmall c

@[simp] theorem length_toAsciiSmall : (toAsciiSmall s).length = s.length := List.length_map _

/-- Blanks are cut off alike before and after capitals are made small. -/
theorem trim_toAsciiSmall : trim (toAsciiSmall s) = toAsciiSmall (trim s) := by
  have hblank : isBlank ∘ asciiSmall = isBlank := funext isBlank_asciiSmall
  simp only [trim, strip, toAsciiSmall, List.dropWhile_map, ← List.map_reverse, hblank]

end Text

namespace Number

open Text

variable (c : Char) (cs : List Char)

/-! ### Signs and digits -/

theorem isDigit_asciiSmall : isDigit (asciiSmall c) = isDigit c :=
  asciiSmall_cases c (Q := fun c d => isDigit d = isDigit c) (fun _ => rfl) (by decide)

theorem asciiSmall_of_isDigit {c : Char} (h : isDigit c) : asciiSmall c = c := by
  revert h
  exact asciiSmall_cases c (Q := fun c d => isDigit c → d = c) (fun _ _ => rfl) (by decide)

/-- Making capitals small keeps a character apart from those that are no letters. -/
private theorem asciiSmall_eq_iff {x : Char} (hx : ∀ n < 26, Char.ofNat (97 + n) ≠ x)
    (hX : ∀ n < 26, Char.ofNat (65 + n) ≠ x) : asciiSmall c = x ↔ c = x :=
  asciiSmall_cases c (Q := fun c d => d = x ↔ c = x) (fun _ => Iff.rfl)
    fun n hn => iff_of_false (hx n hn) (hX n hn)

theorem toAsciiSmall_of_digits {cs : List Char} (h : ∀ c ∈ cs, isDigit c) :
    toAsciiSmall cs = cs := by
  rw [toAsciiSmall, List.map_congr_left fun c hc => asciiSmall_of_isDigit (h c hc), List.map_id']

private theorem takeSign_cons :
    takeSign (c :: cs) = if c = '-' then (true, cs) else if c = '+' then (false, cs)
      else (false, c :: cs) := by
  unfold takeSign
  split <;> simp_all

theorem takeSign_toAsciiSmall :
    takeSign (toAsciiSmall cs) = ((takeSign cs).1, toAsciiSmall (takeSign cs).2) := by
  cases cs with
  | nil => rfl
  | cons c cs =>
    have hminus := asciiSmall_eq_iff c (x := '-') (by decide) (by decide)
    have hplus := asciiSmall_eq_iff c (x := '+') (by decide) (by decide)
    simp only [toAsciiSmall, List.map_cons, takeSign_cons, hminus, hplus]
    split
    · rfl
    split <;> rfl

theorem takeDigits_toAsciiSmall :
    takeDigits (toAsciiSmall cs) = ((takeDigits cs).1, toAsciiSmall (takeDigits cs).2) := by
  have hdigit : isDigit ∘ asciiSmall = isDigit := funext isDigit_asciiSmall
  have hkeep : toAsciiSmall (cs.takeWhile isDigit) = cs.takeWhile isDigit :=
    toAsciiSmall_of_digits (List.all_eq_true.mp List.all_takeWhile)
  rw [toAsciiSmall] at hkeep
  simp only [takeDigits, toAsciiSmall, List.takeWhile_map, List.dropWhile_map, hdigit, hkeep]

/-! ### Whole numbers -/

theorem readNat?_toAsciiSmall : readNat? (toAsciiSmall cs) = readNat? cs := by
  have hdigit : isDigit ∘ asciiSmall = isDigit := funext isDigit_asciiSmall
  have hall : (toAsciiSmall cs).all isDigit = cs.all isDigit := by
    rw [toAsciiSmall, List.all_map, hdigit]
  rw [readNat?, readNat?, hall, toAsciiSmall, List.isEmpty_map]
  split
  next => rfl
  next h =>
    have hdigits : ∀ c ∈ cs, isDigit c := by simp_all
    rw [← toAsciiSmall, toAsciiSmall_of_digits hdigits]

theorem readInt?_toAsciiSmall : readInt? (toAsciiSmall cs) = readInt? cs := by
  simp only [readInt?, takeSign_toAsciiSmall, readNat?_toAsciiSmall]

theorem readInt64?_toAsciiSmall : readInt64? (toAsciiSmall cs) = readInt64? cs := by
  rw [readInt64?, readInt64?, readInt?_toAsciiSmall]

/-! ### Decimal numbers -/

private theorem takeFraction_cons :
    takeFraction (c :: cs) = if c = '.' then takeDigits cs else ([], c :: cs) := by
  unfold takeFraction
  split <;> simp_all

theorem takeFraction_toAsciiSmall :
    takeFraction (toAsciiSmall cs) = ((takeFraction cs).1, toAsciiSmall (takeFraction cs).2) := by
  cases cs with
  | nil => rfl
  | cons c cs =>
    have hpoint := asciiSmall_eq_iff c (x := '.') (by decide) (by decide)
    simp only [toAsciiSmall, List.map_cons, takeFraction_cons, hpoint]
    split
    · exact takeDigits_toAsciiSmall cs
    · rfl

/-- The mark of an exponent is the one letter of a decimal number, in either case. -/
theorem readExponent?_toAsciiSmall : readExponent? (toAsciiSmall cs) = readExponent? cs := by
  cases cs with
  | nil => rfl
  | cons c cs =>
    have hmark : (asciiSmall c = 'e' ∨ asciiSmall c = 'E') ↔ (c = 'e' ∨ c = 'E') :=
      asciiSmall_cases c (Q := fun c d => (d = 'e' ∨ d = 'E') ↔ (c = 'e' ∨ c = 'E'))
        (fun _ => Iff.rfl) (by decide)
    simp only [toAsciiSmall, List.map_cons, readExponent?, hmark]
    rw [← toAsciiSmall, readInt?_toAsciiSmall]

theorem readDecimal?_toAsciiSmall (negative : Bool) :
    readDecimal? negative (toAsciiSmall cs) = readDecimal? negative cs := by
  simp only [readDecimal?, takeDigits_toAsciiSmall, takeFraction_toAsciiSmall,
    readExponent?_toAsciiSmall]

/-- **Decimal numbers read alike in either case**, the names of infinity and of the undefined value
included. -/
theorem readFloat?_toAsciiSmall : readFloat? (toAsciiSmall cs) = readFloat? cs := by
  simp only [readFloat?, takeSign_toAsciiSmall, toAsciiSmall_toAsciiSmall,
    readDecimal?_toAsciiSmall]

end Number

end Tabular
