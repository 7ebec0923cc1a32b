import Mathlib.Data.List.Infix
import Tabular.Text.Cut

/-!
# Dividing a text and putting it together

A text is divided at the **first occurrence** of a delimiter: what stands before it, the delimiter
and what stands behind it make up the text, and no occurrence starts further to the left
(`Text.FirstCut`, `Text.cutAt_eq_some_iff`). An occurrence may overlap the next one or be empty, so
its place says more than that the first part is free of the delimiter.

Two laws tie dividing to joining. The parts, with the delimiter between them, give back the text
exactly if the delimiter occurs in it (`Text.splitFirst_rejoined_iff`). And two texts that were
joined are taken apart again exactly if no occurrence starts within the first of them, where **only
the first text and the delimiter behind it matter**: an occurrence that starts there ends before the
second text (`Text.splitFirst_joined_iff`).
-/

namespace Tabular

namespace Text

variable {d s head tail l r : List Char} {c : Char}

/-- The text divides at the first occurrence of the delimiter into `head` and `tail`. -/
structure FirstCut (d s head tail : List Char) : Prop where
  joined : s = head ++ d ++ tail
  first : ∀ i < head.length, ¬ d <+: s.drop i

/-! ### The first occurrence -/

theorem FirstCut.isInfix (h : FirstCut d s head tail) : d <:+: s := ⟨head, tail, h.joined.symm⟩

/-- A delimiter at the beginning occurs there first. -/
theorem firstCut_iff_of_isPrefix (h : d <+: s) :
    FirstCut d s head tail ↔ head = [] ∧ tail = s.drop d.length := by
  constructor
  · intro hcut
    have hhead : head = [] := by
      by_contra hne
      exact hcut.first 0 (List.length_pos_iff.mpr hne) h
    refine ⟨hhead, ?_⟩
    rw [hcut.joined, hhead, List.nil_append, List.drop_left]
  · rintro ⟨rfl, rfl⟩
    exact ⟨(List.prefix_iff_eq_append.mp h).symm, fun i hi => absurd hi (Nat.not_lt_zero i)⟩

/-- If the delimiter is not at the beginning, the first character belongs to the first part. -/
theorem firstCut_cons_iff (h : ¬ d <+: c :: s) :
    FirstCut d (c :: s) head tail ↔ ∃ head', FirstCut d s head' tail ∧ c :: head' = head := by
  constructor
  · intro hcut
    cases head with
    | nil => exact absurd ⟨tail, hcut.joined.symm⟩ h
    | cons c' head =>
      obtain ⟨rfl, hs⟩ := List.cons.inj hcut.joined
      exact ⟨head, ⟨hs, fun i hi => hcut.first (i + 1) (Nat.succ_lt_succ hi)⟩, rfl⟩
  · rintro ⟨head', hcut, rfl⟩
    refine ⟨congrArg (c :: ·) hcut.joined, fun i hi => ?_⟩
    cases i with
    | zero => exact h
    | succ i => exact hcut.first i (Nat.lt_of_succ_lt_succ hi)

theorem cutAt_of_isPrefix (h : d <+: s) : cutAt d s = some ([], s.drop d.length) := by
  cases s with
  | nil => rw [List.prefix_nil.mp h, cutAt, List.isEmpty_nil, if_pos rfl, List.drop_nil]
  | cons c s => rw [cutAt, if_pos (List.isPrefixOf_iff_prefix.mpr h)]

theorem cutAt_ne_none (h : d <+: s) : cutAt d s ≠ none := cutAt_of_isPrefix h ▸ nofun

theorem cutAt_cons_of_not_isPrefix (h : ¬ d <+: c :: s) :
    cutAt d (c :: s) = (cutAt d s).map fun (head, tail) => (c :: head, tail) := by
  rw [cutAt, if_neg (mt List.isPrefixOf_iff_prefix.mp h)]

theorem cutAt_nil_of_not_isPrefix (h : ¬ d <+: []) : cutAt d [] = none := by
  have hd : d ≠ [] := fun hd => h (hd ▸ List.nil_prefix)
  rw [cutAt, if_neg (by simpa using hd)]

/-- **A text is cut at the first occurrence** of the delimiter. -/
theorem cutAt_eq_some_iff : cutAt d s = some (head, tail) ↔ FirstCut d s head tail := by
  have hprefix : ∀ {s head : List Char}, d <+: s →
      (cutAt d s = some (head, tail) ↔ FirstCut d s head tail) := by
    intro s head h
    rw [cutAt_of_isPrefix h, firstCut_iff_of_isPrefix h, Option.some_inj, Prod.mk.injEq, eq_comm,
      eq_comm (a := s.drop _)]
  induction s generalizing head with
  | nil =>
    by_cases h : d <+: []
    · exact hprefix h
    · rw [cutAt_nil_of_not_isPrefix h]
      exact iff_of_false nofun fun hcut => h (List.infix_nil.mp hcut.isInfix ▸ List.nil_prefix)
  | cons c s ih =>
    by_cases h : d <+: c :: s
    · exact hprefix h
    rw [cutAt_cons_of_not_isPrefix h, firstCut_cons_iff h, Option.map_eq_some_iff]
    constructor
    · rintro ⟨⟨head', tail'⟩, hcut, hparts⟩
      obtain ⟨hhead, rfl⟩ := Prod.mk.inj hparts
      exact ⟨head', ih.mp hcut, hhead⟩
    · rintro ⟨head', hcut, rfl⟩
      exact ⟨(head', tail), ih.mpr hcut, rfl⟩

/-- A text is not cut exactly if the delimiter does not occur in it. -/
theorem cutAt_eq_none_iff : cutAt d s = none ↔ ¬ d <:+: s := by
  induction s with
  | nil =>
    by_cases h : d <+: []
    · exact iff_of_false (cutAt_ne_none h) (not_not.mpr h.isInfix)
    · rw [cutAt_nil_of_not_isPrefix h]
      exact iff_of_true rfl fun hinfix => h (List.infix_nil.mp hinfix ▸ List.nil_prefix)
  | cons c s ih =>
    by_cases h : d <+: c :: s
    · exact iff_of_false (cutAt_ne_none h) (not_not.mpr h.isInfix)
    · rw [cutAt_cons_of_not_isPrefix h, Option.map_eq_none_iff, ih, List.infix_cons_iff, not_or,
        and_iff_right h]

/-! ### Dividing -/

/-- A text in which the delimiter occurs divides at the first occurrence. -/
theorem firstCut_splitFirst (h : d <:+: s) :
    FirstCut d s (splitFirst d s).1 (splitFirst d s).2 := by
  cases hcut : cutAt d s with
  | none => exact absurd h (cutAt_eq_none_iff.mp hcut)
  | some parts =>
    rw [splitFirst, hcut]
    exact cutAt_eq_some_iff.mp hcut

/-- Any other text loses its last character, and the second part is empty. -/
theorem splitFirst_of_not_infix (h : ¬ d <:+: s) : splitFirst d s = (s.dropLast, []) := by
  rw [splitFirst, cutAt_eq_none_iff.mpr h, Option.getD_none]

/-! ### Dividing and joining -/

/-- **The parts join to the text exactly if the delimiter occurs in it.** -/
theorem splitFirst_rejoined_iff :
    (splitFirst d s).1 ++ d ++ (splitFirst d s).2 = s ↔ d <:+: s :=
  ⟨fun h => ⟨_, _, h⟩, fun h => (firstCut_splitFirst h).joined.symm⟩

/-- An occurrence that starts within the first of two joined texts ends before the second one. -/
theorem prefix_drop_joined_iff {i : Nat} (hi : i < l.length) :
    d <+: (l ++ d ++ r).drop i ↔ d <+: (l ++ d).drop i := by
  have hdrop : (l ++ d ++ r).drop i = (l ++ d).drop i ++ r :=
    List.drop_append_of_le_length (by rw [List.length_append]; omega)
  have hlen : d.length ≤ ((l ++ d).drop i).length := by
    rw [List.length_drop, List.length_append]
    omega
  rw [hdrop]
  exact ⟨fun h => List.prefix_of_prefix_length_le h (List.prefix_append _ r) hlen,
    fun h => h.trans (List.prefix_append _ r)⟩

/-- **Joined texts are taken apart exactly if no occurrence starts within the first**, whatever the
second is. -/
theorem splitFirst_joined_iff :
    splitFirst d (l ++ d ++ r) = (l, r) ↔ ∀ i < l.length, ¬ d <+: (l ++ d).drop i := by
  have hfirst : FirstCut d (l ++ d ++ r) l r ↔ ∀ i < l.length, ¬ d <+: (l ++ d).drop i :=
    ⟨fun h i hi hd => h.first i hi ((prefix_drop_joined_iff hi).mpr hd),
      fun h => ⟨rfl, fun i hi hd => h i hi ((prefix_drop_joined_iff hi).mp hd)⟩⟩
  rw [← hfirst]
  constructor
  · intro h
    have hcut := firstCut_splitFirst (d := d) (s := l ++ d ++ r) ⟨l, r, rfl⟩
    rwa [h] at hcut
  · intro h
    rw [splitFirst, cutAt_eq_some_iff.mpr h, Option.getD_some]

-- the last character of the first text and the first of the delimiter make up an earlier occurrence
example : splitFirst ['a', 'a'] (['x', 'a'] ++ ['a', 'a'] ++ ['b']) = (['x'], ['a', 'b']) := by
  decide

end Text

end Tabular
