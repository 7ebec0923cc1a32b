import Mathlib.Data.List.Basic
import Tabular.Text.Cut

/-!
# Parts by position

The part of a text from one position to another is found by byte offsets. **An offset that is found
is the length of what precedes a character** (`Text.findOffsets_eq`), so it never falls within one,
and cutting at two such offsets always succeeds (`Text.slice?_take`). What comes out are the
characters at the positions asked for and no others (`Text.substring_eq_charsAt`).
-/

namespace Tabular

namespace Text

variable {s : List Char} {first past : Nat}

/-! ### Bytes -/

@[simp] theorem byteLength_nil : byteLength [] = 0 := rfl

@[simp] theorem byteLength_cons (c : Char) (s : List Char) :
    byteLength (c :: s) = c.utf8Size + byteLength s := rfl

theorem byteLength_append (s t : List Char) :
    byteLength (s ++ t) = byteLength s + byteLength t := by
  induction s with
  | nil => simp
  | cons c s ih => rw [List.cons_append, byteLength_cons, byteLength_cons, ih, Nat.add_assoc]

/-- Every character takes up a byte. -/
theorem byteLength_eq_zero_iff : byteLength s = 0 ↔ s = [] := by
  cases s with
  | nil => simp
  | cons c s => simp [Nat.ne_of_gt c.utf8Size_pos]

/-- A beginning as long as the text is the text. -/
theorem take_eq_self_of_byteLength {i : Nat} (h : byteLength (s.take i) = byteLength s) :
    s.take i = s := by
  have hlength : byteLength (s.take i) + byteLength (s.drop i) = byteLength s := by
    rw [← byteLength_append, List.take_append_drop]
  have hrest : s.drop i = [] := byteLength_eq_zero_iff.mp (by omega)
  have happend := List.take_append_drop i s
  rwa [hrest, List.append_nil] at happend

theorem takeBytes?_cons (c : Char) (s : List Char) (n : Nat) :
    takeBytes? (c.utf8Size + n) (c :: s) = (takeBytes? n s).map (c :: ·) := by
  obtain ⟨k, hk⟩ : ∃ k, c.utf8Size + n = k + 1 :=
    Nat.exists_eq_succ_of_ne_zero (Nat.ne_of_gt (Nat.add_pos_left c.utf8Size_pos n))
  rw [hk, takeBytes?, if_pos (by omega), show k + 1 - c.utf8Size = n by omega]

theorem dropBytes?_cons (c : Char) (s : List Char) (n : Nat) :
    dropBytes? (c.utf8Size + n) (c :: s) = dropBytes? n s := by
  obtain ⟨k, hk⟩ : ∃ k, c.utf8Size + n = k + 1 :=
    Nat.exists_eq_succ_of_ne_zero (Nat.ne_of_gt (Nat.add_pos_left c.utf8Size_pos n))
  rw [hk, dropBytes?, if_pos (by omega), show k + 1 - c.utf8Size = n by omega]

theorem takeBytes?_append (s t : List Char) : takeBytes? (byteLength s) (s ++ t) = some s := by
  induction s with
  | nil => cases t <;> rfl
  | cons c s ih => rw [byteLength_cons, List.cons_append, takeBytes?_cons, ih, Option.map_some]

theorem dropBytes?_append (s t : List Char) : dropBytes? (byteLength s) (s ++ t) = some t := by
  induction s with
  | nil => cases t <;> rfl
  | cons c s ih => rw [byteLength_cons, List.cons_append, dropBytes?_cons, ih]

/-- Cutting out the middle one of three texts. -/
theorem slice?_append (l s r : List Char) :
    slice? (l ++ (s ++ r)) (byteLength l) (byteLength l + byteLength s) = some s := by
  rw [slice?, dropBytes?_append, Option.bind_some, Nat.add_sub_cancel_left, takeBytes?_append]

/-- A beginning and what a longer one has behind it. -/
private theorem take_append_drop_take (h : first ≤ past) (s : List Char) :
    s.take first ++ (s.take past).drop first = s.take past := by
  have hfirst : (s.take past).take first = s.take first := by rw [List.take_take, Nat.min_eq_left h]
  rw [← hfirst, List.take_append_drop]

/-- **A text can be cut between its characters**, at the lengths of two of its beginnings. -/
theorem slice?_take (h : first ≤ past) (s : List Char) :
    slice? s (byteLength (s.take first)) (byteLength (s.take past)) =
      some ((s.take past).drop first) := by
  have hslice := slice?_append (s.take first) ((s.take past).drop first) (s.drop past)
  rwa [← byteLength_append, ← List.append_assoc, take_append_drop_take h,
    List.take_append_drop] at hslice

/-! ### Offsets -/

/-- The byte offset at which the character at a position begins, if there is one. -/
def offsetAt? (s : List Char) (i : Nat) : Option Nat :=
  if i < s.length then some (byteLength (s.take i)) else none

@[simp] theorem offsetAt?_nil (i : Nat) : offsetAt? [] i = none := rfl

@[simp] theorem offsetAt?_zero (c : Char) (s : List Char) : offsetAt? (c :: s) 0 = some 0 := rfl

theorem offsetAt?_succ (c : Char) (s : List Char) (i : Nat) :
    offsetAt? (c :: s) (i + 1) = (offsetAt? s i).map (c.utf8Size + ·) := by
  simp only [offsetAt?, List.length_cons, Nat.succ_lt_succ_iff, List.take_succ_cons, byteLength_cons]
  split <;> rfl

/-- The search goes on behind the first character as it would begin there. -/
theorem map_offsetAt?_cons (c : Char) (s : List Char) (i offset : Nat) :
    (offsetAt? (c :: s) (i + 1)).map (offset + ·) =
      (offsetAt? s i).map (offset + c.utf8Size + ·) := by
  rw [offsetAt?_succ, Option.map_map]
  congr 1
  funext n
  exact (Nat.add_assoc _ _ _).symm

/-- What the search finds from some position on. An offset of the first character is kept once it
is found, and that of the one past the part ends the search. -/
theorem findOffsets_from (hlt : first < past) (s : List Char) {position offset : Nat}
    {start : Option Nat} (h : position ≤ past) :
    findOffsets first past position offset start s =
      (if position ≤ first then ((offsetAt? s (first - position)).map (offset + ·)).or start
        else start,
      (offsetAt? s (past - position)).map (offset + ·)) := by
  induction s generalizing position offset start with
  | nil => simp [findOffsets]
  | cons c s ih =>
    rw [findOffsets]
    by_cases hpast : position = past
    · subst hpast
      simp [Nat.ne_of_gt hlt, Nat.not_le_of_gt hlt]
    · have hnext : past - position = past - (position + 1) + 1 := by omega
      rw [if_neg hpast, ih (by omega), hnext, map_offsetAt?_cons]
      obtain hfirst | rfl | hfirst := Nat.lt_trichotomy position first
      · have hnext : first - position = first - (position + 1) + 1 := by omega
        rw [if_neg (Nat.ne_of_lt hfirst), if_pos (Nat.succ_le_of_lt hfirst),
          if_pos (Nat.le_of_lt hfirst), hnext, map_offsetAt?_cons]
      · rw [if_pos rfl, if_neg (Nat.not_succ_le_self _), if_pos (Nat.le_refl _), Nat.sub_self]
        simp
      · simp [Nat.ne_of_gt hfirst, Nat.not_le_of_gt hfirst,
          Nat.not_le_of_gt (Nat.lt_succ_of_lt hfirst)]

/-- **The offsets that are found** are those of the characters at the two positions. -/
theorem findOffsets_eq (hlt : first < past) (s : List Char) :
    findOffsets first past 0 0 none s = (offsetAt? s first, offsetAt? s past) := by
  rw [findOffsets_from hlt s (Nat.zero_le past), if_pos (Nat.zero_le first)]
  simp

/-- If there is no character at a position, what precedes it is the whole text. -/
theorem getD_offsetAt? (s : List Char) (i : Nat) :
    (offsetAt? s i).getD (byteLength s) = byteLength (s.take i) := by
  rw [offsetAt?]
  split
  next => rfl
  next h => rw [List.take_of_length_le (Nat.le_of_not_lt h), Option.getD_none]

/-- **A part by position**: what is left of the text up to `past` without the part up to `first`. -/
theorem substring_eq (s : List Char) (first past : Nat) :
    substring s first past = (s.take past).drop first := by
  rw [substring]
  split
  next h =>
    exact (List.drop_eq_nil_of_le (Nat.le_trans (List.length_take_le past s) h)).symm
  next h =>
    have hlt : first < past := Nat.lt_of_not_le h
    rw [findOffsets_eq hlt, offsetAt?]
    by_cases hfirst : first < s.length
    · rw [if_pos hfirst]
      simp only [getD_offsetAt?, slice?_take (Nat.le_of_lt hlt), Option.getD_some]
      split
      next hwhole =>
        -- nothing stands before the part, and nothing behind it
        have hnil : s.take first = [] := byteLength_eq_zero_iff.mp hwhole.1
        have hzero : first = 0 :=
          (List.take_eq_nil_iff.mp hnil).resolve_right (List.length_pos_iff.mp (by omega))
        rw [take_eq_self_of_byteLength hwhole.2, hzero, List.drop_zero]
      next => rfl
    · rw [if_neg hfirst]
      refine (List.drop_eq_nil_of_le ?_).symm
      exact Nat.le_trans (List.length_take_le' past s) (Nat.le_of_not_lt hfirst)

/-! ### Positions -/

/-- The characters of a text whose positions have a property, in order. -/
def charsAt (P : Nat → Prop) [DecidablePred P] (s : List Char) : List Char :=
  (s.zipIdx.filter fun p => P p.2).map Prod.fst

theorem charsAt_congr {P Q : Nat → Prop} [DecidablePred P] [DecidablePred Q] (h : ∀ i, P i ↔ Q i)
    (s : List Char) : charsAt P s = charsAt Q s := by
  simp only [charsAt, h]

/-- The characters between two positions, of a text whose first one is at position `n`. -/
private theorem map_filter_zipIdx (s : List Char) (first past n : Nat) :
    ((s.zipIdx n).filter fun p => first ≤ p.2 ∧ p.2 < past).map Prod.fst =
      (s.take (past - n)).drop (first - n) := by
  induction s generalizing n with
  | nil => simp
  | cons c s ih =>
    rw [List.zipIdx_cons]
    by_cases hin : first ≤ n ∧ n < past
    · rw [List.filter_cons_of_pos (by simpa using hin), List.map_cons, ih,
        show past - n = past - (n + 1) + 1 by omega, show first - n = 0 by omega,
        show first - (n + 1) = 0 by omega]
      rfl
    · rw [List.filter_cons_of_neg (by simpa using hin), ih]
      by_cases hpast : past ≤ n
      · rw [show past - n = 0 by omega, show past - (n + 1) = 0 by omega]
        simp
      · rw [show past - n = past - (n + 1) + 1 by omega,
          show first - n = first - (n + 1) + 1 by omega, List.take_succ_cons, List.drop_succ_cons]

/-- **A part consists of the characters at its positions**, and of no others. -/
theorem substring_eq_charsAt (s : List Char) (first past : Nat) :
    substring s first past = charsAt (fun i => first ≤ i ∧ i < past) s :=
  (substring_eq s first past).trans (map_filter_zipIdx s first past 0).symm

-- four bytes from the third one on
example : substring "né😀x".toList 2 3 = ['😀'] := by decide

/-- A part is empty if it has no positions, or begins behind the text. -/
theorem substring_eq_nil (h : past ≤ first ∨ s.length ≤ first) : substring s first past = [] := by
  rw [substring_eq]
  refine List.drop_eq_nil_of_le ?_
  obtain h | h := h
  · exact Nat.le_trans (List.length_take_le past s) h
  · exact Nat.le_trans (List.length_take_le' past s) h

/-- Two parts that meet make up the beginning that the second one ends. -/
theorem substring_append_substring (h : first ≤ past) (s : List Char) :
    substring s 0 first ++ substring s first past = s.take past := by
  rw [substring_eq, substring_eq, List.drop_zero, take_append_drop_take h]

end Text

end Tabular
