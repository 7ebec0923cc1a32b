import Tabular.Proofs.Number.Reading
import Tabular.Text.Casing

/-!
# What setting a text in a case keeps

Two things hold for all three styles. First, **no character disappears**: every full mapping, those
to several characters included, has at least one character, so a text is empty after it is set in a
case only if it was empty before (`CaseStyle.set_eq_empty_iff`). Secondly, in a text of ASCII
characters **nothing changes but the case of letters**, which is to say that the two texts are equal
once their capitals are made small (`CaseStyle.toAsciiSmall_set`). Both are read off the tables
character by character and carried through the three ways to go through a text.
-/

namespace Tabular

namespace CaseMap

/-- A character in neither table stands for itself, so only sequences could be empty. -/
private theorem mapped_ne_nil {sequences : List (Char × List Char)} {shifts : List ShiftedRun}
    (h : ∀ e ∈ sequences, e.2 ≠ []) (c : Char) : mapped sequences shifts c ≠ [] := by
  rw [mapped]
  split
  next cs hcs =>
    obtain ⟨before, after, he, -⟩ := List.lookup_eq_some_iff.mp hcs
    exact h (c, cs) (by simp [he])
  next => exact List.cons_ne_nil _ _

theorem toSmall_ne_nil (c : Char) : toSmall c ≠ [] := mapped_ne_nil (by decide) c

theorem toCapital_ne_nil (c : Char) : toCapital c ≠ [] := mapped_ne_nil (by decide) c

end CaseMap

namespace Text

open CaseMap

/-! ### No character disappears -/

theorem smallsAfter_ne_nil {before s : List Char} (h : s ≠ []) : smallsAfter before s ≠ [] := by
  cases s with
  | nil => exact absurd rfl h
  | cons c s =>
    rw [smallsAfter]
    refine List.append_ne_nil_of_left_ne_nil ?_ _
    split
    · split <;> exact List.cons_ne_nil _ _
    · exact toSmall_ne_nil c

theorem titlecaseFrom_ne_nil {start : Bool} {s : List Char} (h : s ≠ []) :
    titlecaseFrom start s ≠ [] := by
  cases s with
  | nil => exact absurd rfl h
  | cons c s =>
    rw [titlecaseFrom]
    split
    · exact List.cons_ne_nil _ _
    split
    · exact List.append_ne_nil_of_left_ne_nil (toCapital_ne_nil c) _
    · exact List.append_ne_nil_of_left_ne_nil (toSmall_ne_nil c) _

theorem capitals_ne_nil {s : List Char} (h : s ≠ []) : capitals s ≠ [] := by
  cases s with
  | nil => exact absurd rfl h
  | cons c s => exact List.append_ne_nil_of_left_ne_nil (toCapital_ne_nil c) _

/-! ### ASCII letters only change case -/

/-- In a table whose sequences and whose runs after the first one lie beyond ASCII, an ASCII
character is mapped by the first run. -/
private theorem mapped_of_ascii {sequences : List (Char × List Char)} {run : ShiftedRun}
    {shifts : List ShiftedRun} (hsequences : ∀ e ∈ sequences, 128 ≤ e.1.toNat)
    (hshifts : ∀ r ∈ shifts, 128 ≤ r.run.first) {c : Char} (hc : c.toNat < 128) :
    mapped sequences (run :: shifts) c = [ShiftedRun.move [run] c] := by
  have hsequence : sequences.lookup c = none := by
    refine List.lookup_eq_none_iff.mpr fun e he => bne_iff_ne.mpr ?_
    rintro rfl
    exact absurd (hsequences e he) (by omega)
  have hshift : shifts.find? (fun r => r.run.has c.toNat) = none := by
    refine List.find?_eq_none.mpr fun r hr => ?_
    have := hshifts r hr
    simp only [CharRun.has, Bool.and_eq_true, decide_eq_true_eq]
    omega
  simp only [mapped, hsequence, ShiftedRun.move, List.find?_cons, hshift, List.find?_nil]

private theorem toAsciiSmall_mapped {sequences : List (Char × List Char)} {run : ShiftedRun}
    {shifts : List ShiftedRun} (hsequences : ∀ e ∈ sequences, 128 ≤ e.1.toNat)
    (hshifts : ∀ r ∈ shifts, 128 ≤ r.run.first)
    (hrun : ∀ n < 128,
      asciiSmall (ShiftedRun.move [run] (Char.ofNat n)) = asciiSmall (Char.ofNat n))
    {c : Char} (hc : c.toNat < 128) :
    toAsciiSmall (mapped sequences (run :: shifts) c) = [asciiSmall c] := by
  have hmove := hrun c.toNat hc
  rw [Char.ofNat_toNat] at hmove
  rw [mapped_of_ascii hsequences hshifts hc]
  exact congrArg ([·]) hmove

/-- The mapping to small letters changes the case of an ASCII character at most. -/
theorem toAsciiSmall_toSmall {c : Char} (hc : c.toNat < 128) :
    toAsciiSmall (toSmall c) = [asciiSmall c] :=
  toAsciiSmall_mapped (by decide) (by decide +kernel) (by decide) hc

/-- The mapping to capitals changes the case of an ASCII character at most. -/
theorem toAsciiSmall_toCapital {c : Char} (hc : c.toNat < 128) :
    toAsciiSmall (toCapital c) = [asciiSmall c] :=
  toAsciiSmall_mapped (by decide) (by decide +kernel) (by decide) hc

theorem toAsciiSmall_append (s s' : List Char) :
    toAsciiSmall (s ++ s') = toAsciiSmall s ++ toAsciiSmall s' := List.map_append

theorem toAsciiSmall_capitals {s : List Char} (hs : ∀ c ∈ s, c.toNat < 128) :
    toAsciiSmall (capitals s) = toAsciiSmall s := by
  induction s with
  | nil => rfl
  | cons c s ih =>
    have ⟨hc, hs⟩ := List.forall_mem_cons.mp hs
    rw [capitals, List.flatMap_cons, toAsciiSmall_append, toAsciiSmall_toCapital hc, ← capitals,
      ih hs]
    rfl

theorem toAsciiSmall_smallsAfter {s : List Char} (hs : ∀ c ∈ s, c.toNat < 128)
    (before : List Char) : toAsciiSmall (smallsAfter before s) = toAsciiSmall s := by
  induction s generalizing before with
  | nil => rfl
  | cons c s ih =>
    have ⟨hc, hs⟩ := List.forall_mem_cons.mp hs
    -- the one letter whose form hangs on its neighbours is not an ASCII character
    have hsigma : c ≠ 'Σ' := by
      rintro rfl
      exact absurd hc (by decide)
    rw [smallsAfter, if_neg hsigma, toAsciiSmall_append, toAsciiSmall_toSmall hc, ih hs]
    rfl

theorem toAsciiSmall_titlecaseFrom {s : List Char} (hs : ∀ c ∈ s, c.toNat < 128) (start : Bool) :
    toAsciiSmall (titlecaseFrom start s) = toAsciiSmall s := by
  induction s generalizing start with
  | nil => rfl
  | cons c s ih =>
    have ⟨hc, hs⟩ := List.forall_mem_cons.mp hs
    rw [titlecaseFrom]
    split
    · exact congrArg (asciiSmall c :: ·) (ih hs true)
    split
    · rw [toAsciiSmall_append, toAsciiSmall_toCapital hc, ih hs]
      rfl
    · rw [toAsciiSmall_append, toAsciiSmall_toSmall hc, ih hs]
      rfl

end Text

namespace CaseStyle

open Text

variable (style : CaseStyle) (s : String)

/-- **A text is empty in some case only if it was empty before.** -/
theorem set_eq_empty_iff : style.set s = "" ↔ s = "" := by
  refine ⟨fun h => ?_, fun h => by rw [h]; cases style <;> rfl⟩
  refine Decidable.byContradiction fun hne => ?_
  have hs : s.toList ≠ [] := mt String.toList_eq_nil_iff.mp hne
  have hset : (style.set s).toList = [] := by rw [h]; rfl
  cases style with
  | upper =>
    -- a text without small letters is taken as it is
    simp only [CaseStyle.set, String.toList_ofList, uppercase] at hset
    split at hset
    · exact capitals_ne_nil hs hset
    · exact hs hset
  | lower =>
    simp only [CaseStyle.set, String.toList_ofList, lowercase] at hset
    split at hset
    · exact smallsAfter_ne_nil hs hset
    · exact hs hset
  | title =>
    simp only [CaseStyle.set, String.toList_ofList] at hset
    exact titlecaseFrom_ne_nil hs hset

/-- **A text of ASCII characters keeps its letters**, whatever case they are set in. -/
theorem toAsciiSmall_set {s : String} (hs : ∀ c ∈ s.toList, c.toNat < 128) :
    toAsciiSmall (style.set s).toList = toAsciiSmall s.toList := by
  cases style with
  | upper =>
    simp only [CaseStyle.set, String.toList_ofList, uppercase]
    split
    · exact toAsciiSmall_capitals hs
    · rfl
  | lower =>
    simp only [CaseStyle.set, String.toList_ofList, lowercase]
    split
    · exact toAsciiSmall_smallsAfter hs []
    · rfl
  | title =>
    simp only [CaseStyle.set, String.toList_ofList]
    exact toAsciiSmall_titlecaseFrom hs true

end CaseStyle

end Tabular
