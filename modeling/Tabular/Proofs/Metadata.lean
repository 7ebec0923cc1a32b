import Mathlib.Data.List.Forall2
import Tabular.Edit
import Tabular.Metadata
import Tabular.Proofs.Gaps
import Tabular.Proofs.Text.Casing

/-!
# What metadata depends on

Type, distribution and gaps of a column are found by looking at its cells one after the other, and
at each cell only in certain respects. A function of tables and columns is `BlindTo` a relation of
cells if it is the same for columns whose cells are related one by one. **Gaps depend only on which
cells are missing** (`Table.blindTo_gaps`), and everything else the standard provider computes
depends only on the respects listed in `Cell.Alike`.

Setting a cell in a case never fills a gap or makes one, whatever the cell and the text
(`Cell.isMissing_recaseCell`). If the cell is `Plain`, that is null, a truth value or a text of
ASCII characters, then it is like the cell before in all respects (`Cell.Plain.alike_recaseCell`):
numbers read alike in either case, words for truth values are compared apart from their case, and
no character is added.
-/

namespace Tabular

/-! ### Texts of cells -/

namespace Decimal

theorem digitChars_ne_nil (d : Decimal) : d.digitChars ≠ [] := Nat.toDigits_ne_nil

theorem positional_ne_nil (d : Decimal) : d.positional ≠ [] := by
  simp only [positional]
  split
  · exact List.cons_ne_nil _ _
  split
  · exact List.append_ne_nil_of_left_ne_nil d.digitChars_ne_nil _
  split
  · exact List.append_ne_nil_of_right_ne_nil _ (List.cons_ne_nil _ _)
  · exact List.cons_ne_nil _ _

theorem fixed_one_ne_nil (m : Nat) (q : Int) : fixed 1 m q ≠ [] := by
  simp only [fixed, if_neg Nat.one_ne_zero]
  exact List.append_ne_nil_of_right_ne_nil _ (List.cons_ne_nil _ _)

theorem intChars_ne_nil (n : Int) : intChars n ≠ [] := by
  unfold intChars
  split
  · exact List.cons_ne_nil _ _
  · exact Nat.toDigits_ne_nil

end Decimal

/-- A double is never written as the empty text. -/
theorem Double.cellText_ne_empty (x : Float) : cellText x ≠ "" := by
  rw [cellText, textBy, Ne, String.ofList_eq_empty_iff]
  split
  next negative m q _ =>
    -- either layout writes something, with or without a sign
    have hlayout : (if Binary.isWhole m q && Binary.wholePart m q < 10 ^ 15 then Decimal.fixed 1 m q
        else (Decimal.shortest .greater m q).positional) ≠ [] := by
      split
      · exact Decimal.fixed_one_ne_nil m q
      · exact Decimal.positional_ne_nil _
    unfold signed
    split
    · exact List.cons_ne_nil _ _
    · exact hlayout
  next negative _ => cases negative <;> decide
  next => decide

namespace Cell

variable {c : Cell} {style : CaseStyle}

/-- Whatever is not missing has a text. -/
theorem toText_ne_empty (h : c.isMissing = false) : c.toText ≠ "" := by
  cases c with
  | null => simp [isMissing] at h
  | bool b => cases b <;> decide
  | int n =>
    rw [toText, Ne, String.ofList_eq_empty_iff]
    exact Decimal.intChars_ne_nil _
  | float x => exact Double.cellText_ne_empty x
  | text s => simpa [isMissing, toText, String.isEmpty_iff] using h

/-- **Case keeps gaps.** A cell of any kind is missing after it is set in a case exactly if it was
missing before. -/
theorem isMissing_recaseCell (style : CaseStyle) (c : Cell) :
    (Row.recaseCell style c).isMissing = c.isMissing := by
  cases hc : c.isMissing with
  | false =>
    have hset : style.set c.toText ≠ "" := (style.set_eq_empty_iff _).not.mpr (toText_ne_empty hc)
    cases c with
    | null => simp [isMissing] at hc
    | _ => simpa [Row.recaseCell, isMissing, String.isEmpty_iff] using hset
  | true =>
    cases c with
    | null => rfl
    | text s =>
      have hs : s = "" := by simpa [isMissing] using hc
      simp [Row.recaseCell, isMissing, toText, hs, (style.set_eq_empty_iff "").mpr rfl]
    | _ => simp [isMissing] at hc

/-! ### Cells that look alike -/

/-- The two cells agree in all that types, distributions and gaps are computed from. -/
structure Alike (a b : Cell) : Prop where
  missing : a.isMissing = b.isMissing
  kind : Kind.ofCell a = Kind.ofCell b
  integer : Histogram.integerMeasure? a = Histogram.integerMeasure? b
  decimal : Histogram.decimalMeasure? a = Histogram.decimalMeasure? b
  text : Histogram.textMeasure? a = Histogram.textMeasure? b

theorem Alike.refl (c : Cell) : Alike c c := ⟨rfl, rfl, rfl, rfl, rfl⟩

theorem Alike.trans {a b c : Cell} (hab : Alike a b) (hbc : Alike b c) : Alike a c :=
  ⟨hab.missing.trans hbc.missing, hab.kind.trans hbc.kind, hab.integer.trans hbc.integer,
    hab.decimal.trans hbc.decimal, hab.text.trans hbc.text⟩

/-- Truth values look like the words for them. -/
theorem alike_text_bool (b : Bool) : Alike (bool b) (text (bool b).toText) := by
  cases b <;> constructor <;> decide

/-- Texts that differ in the case of ASCII letters only look alike. -/
theorem alike_of_toAsciiSmall_eq {s s' : String}
    (h : Text.toAsciiSmall s.toList = Text.toAsciiSmall s'.toList) : Alike (text s) (text s') := by
  have htrim :
      Text.toAsciiSmall (Text.trim s.toList) = Text.toAsciiSmall (Text.trim s'.toList) := by
    rw [← Text.trim_toAsciiSmall, ← Text.trim_toAsciiSmall, h]
  have hint : Number.readInt64? (Text.trim s.toList) = Number.readInt64? (Text.trim s'.toList) := by
    rw [← Number.readInt64?_toAsciiSmall, htrim, Number.readInt64?_toAsciiSmall]
  have hfloat : Kind.finite? (Text.trim s.toList) = Kind.finite? (Text.trim s'.toList) := by
    rw [Kind.finite?, ← Number.readFloat?_toAsciiSmall, htrim, Number.readFloat?_toAsciiSmall,
      Kind.finite?]
  have hword :
      Kind.isBooleanWord (Text.trim s.toList) = Kind.isBooleanWord (Text.trim s'.toList) := by
    rw [Kind.isBooleanWord, htrim, Kind.isBooleanWord]
  have hlength : s.length = s'.length := by
    rw [← String.length_toList, ← Text.length_toAsciiSmall, h, Text.length_toAsciiSmall,
      String.length_toList]
  have hmissing : s.isEmpty = s'.isEmpty := by
    rw [Bool.eq_iff_iff, String.isEmpty_iff, String.isEmpty_iff, ← String.length_eq_zero_iff,
      hlength, String.length_eq_zero_iff]
  constructor
  case missing => exact hmissing
  case kind => simp only [Kind.ofCell, Kind.ofText, hint, hfloat, hword]
  case integer => simp only [Histogram.integerMeasure?, hint]
  case decimal => simp only [Histogram.decimalMeasure?, hfloat]
  case text =>
    show (if s.isEmpty then none else some (Double.nearestInt s.length)) = _
    rw [hmissing, hlength]
    rfl

/-- The cell is null, a truth value or a text of ASCII characters only. -/
def Plain : Cell → Prop
  | null => True
  | bool _ => True
  | text s => ∀ c ∈ s.toList, c.toNat < 128
  | _ => False

-- through the characters of the text, not through all there are
instance : DecidablePred Plain
  | null => isTrue trivial
  | bool _ => isTrue trivial
  | text s => List.decidableBAll (fun c : Char => c.toNat < 128) s.toList
  | int _ => isFalse id
  | float _ => isFalse id

/-- **Case changes nothing that metadata looks at** in a plain cell. -/
theorem Plain.alike_recaseCell (h : c.Plain) (style : CaseStyle) :
    Alike c (Row.recaseCell style c) := by
  have hset : ∀ {s : String}, (∀ c ∈ s.toList, c.toNat < 128) →
      Alike (text s) (text (style.set s)) := fun hs =>
    alike_of_toAsciiSmall_eq (style.toAsciiSmall_set hs).symm
  cases c with
  | null => exact .refl null
  | bool b => exact (alike_text_bool b).trans (hset (by cases b <;> simp [toText]))
  | text s => exact hset h
  | int n => exact absurd h id
  | float x => exact absurd h id

end Cell

/-! ### What the provider looks at -/

namespace Table

/-- The function is the same for columns whose cells are related one by one. -/
def BlindTo {α : Type} (R : Cell → Cell → Prop) (f : Table → String → α) : Prop :=
  ∀ t c t' c', List.Forall₂ R (t.column c) (t'.column c') → f t c = f t' c'

private theorem filterMap_eq_of_forall₂ {α β : Type} {R : α → α → Prop} {f : α → Option β}
    (hf : ∀ a b, R a b → f a = f b) {l l' : List α} (h : List.Forall₂ R l l') :
    l.filterMap f = l'.filterMap f := by
  induction h with
  | nil => rfl
  | cons hab _ ih => rw [List.filterMap_cons, List.filterMap_cons, hf _ _ hab, ih]

private theorem add_eq_of_alike {a b : Cell} (tally : Tally) (h : Cell.Alike a b) :
    tally.add a = tally.add b := by
  rw [Tally.add, h.missing, h.kind, Tally.add]

private theorem foldl_add_eq_of_forall₂ {l l' : List Cell} (h : List.Forall₂ Cell.Alike l l')
    (tally : Tally) : l.foldl Tally.add tally = l'.foldl Tally.add tally := by
  induction h generalizing tally with
  | nil => rfl
  | cons hab _ ih => rw [List.foldl_cons, List.foldl_cons, add_eq_of_alike tally hab, ih]

/-- The type of a column depends on what cells look alike in. -/
theorem blindTo_inferType : BlindTo Cell.Alike inferType := fun t c t' c' h => by
  rw [inferType, foldl_add_eq_of_forall₂ h, inferType]

private theorem measures?_eq_of_forall₂ (type : ColumnType) {l l' : List Cell}
    (h : List.Forall₂ Cell.Alike l l') :
    Histogram.measures? type l = Histogram.measures? type l' := by
  cases type with
  | text => exact congrArg some (filterMap_eq_of_forall₂ (fun _ _ hab => hab.text) h)
  | int => exact congrArg some (filterMap_eq_of_forall₂ (fun _ _ hab => hab.integer) h)
  | float => exact congrArg some (filterMap_eq_of_forall₂ (fun _ _ hab => hab.decimal) h)
  | boolean => rfl

/-- The distribution of a column as of its inferred type depends on what cells look alike in. -/
theorem blindTo_distribution : BlindTo Cell.Alike fun t c => distribution t c (inferType t c) := by
  intro t c t' c' h
  simp only [distribution, blindTo_inferType t c t' c' h, measures?_eq_of_forall₂ _ h]

private theorem gapRows_eq_of_forall₂ {c c' : String} : ∀ {rows rows' : List Row} (start : Nat),
    List.Forall₂ (fun a b => a.isMissing = b.isMissing)
      (rows.map fun row => (row.get? c).getD .null)
      (rows'.map fun row => (row.get? c').getD .null) →
    Gaps.gapRows c start rows = Gaps.gapRows c' start rows'
  | [], [], _, _ => rfl
  | [], _ :: _, _, h => nomatch h
  | _ :: _, [], _, h => nomatch h
  | row :: rows, row' :: rows', start, .cons hab h => by
    have hgap : Gaps.isGap row c = Gaps.isGap row' c' := by
      rw [Gaps.isGap_eq, Gaps.isGap_eq, hab]
    rw [Gaps.gapRows, Gaps.gapRows, hgap, gapRows_eq_of_forall₂ (start + 1) h]

/-- **Gaps depend only on which cells are missing.** -/
theorem blindTo_gaps : BlindTo (fun a b => a.isMissing = b.isMissing) gaps := by
  intro t c t' c' h
  rw [gaps, gapRows_eq_of_forall₂ 0 h, gaps]

end Table

end Tabular
