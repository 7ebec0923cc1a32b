import Tabular.Proofs.Text.Settled

/-!
# Titles word by word

A text is set in title case from left to right with the beginning of a word as the only state. Any
blank resets it, so **a text divides at every blank** (`Text.titlecase_append_blank`), and what
stands between two blanks is set on its own: the first character in its full capital form, the
others in their small forms (`Text.titleWord`). As no form of a character that is not blank has a
blank in it, the blanks of the text stay where they are, and so do its words
(`Text.splitOnP_titlecase`, `Text.filter_isBlank_titlecase`).

Together the blanks and what stands between them make up a text. Hence a title is settled exactly if
each of its words is, which comes down to the first characters. **Where a capital form is a sequence
of letters, the second of them is no longer the first of its word**: ß is made SS, and SS then Ss. A
title is settled exactly if no word begins with such a character (`Text.titlecase_titlecase_iff`),
and setting it once more settles any (`Text.titlecase_thrice`).
-/

namespace Tabular

namespace Text

open CaseMap

variable {s t word : List Char} {c d w : Char}

/-- The words of a text, which are what stands between its blanks. -/
def words (s : List Char) : List (List Char) := (s.splitOnP isBlank).filter (!·.isEmpty)

/-- A word in title case. -/
def titleWord : List Char → List Char
  | [] => []
  | c :: s => toCapital c ++ s.flatMap toSmall

/-! ### A single word -/

theorem titlecaseFrom_of_inner (h : ∀ c ∈ s, isBlank c = false) :
    titlecaseFrom false s = s.flatMap toSmall := by
  induction s with
  | nil => rfl
  | cons c s ih =>
    have ⟨hc, hs⟩ := List.forall_mem_cons.mp h
    rw [titlecaseFrom, if_neg (ne_true_of_eq_false hc), if_neg Bool.false_ne_true, ih hs,
      List.flatMap_cons]

theorem titlecase_of_word (h : ∀ c ∈ word, isBlank c = false) : titlecase word = titleWord word := by
  cases word with
  | nil => rfl
  | cons c s =>
    have ⟨hc, hs⟩ := List.forall_mem_cons.mp h
    rw [titlecase, titlecaseFrom, if_neg (ne_true_of_eq_false hc), if_pos rfl,
      titlecaseFrom_of_inner hs, titleWord]

/-- No blank arises in a word. -/
theorem isBlank_of_mem_titleWord (h : ∀ c ∈ word, isBlank c = false) (hd : d ∈ titleWord word) :
    isBlank d = false := by
  cases word with
  | nil => exact absurd hd List.not_mem_nil
  | cons c s =>
    have ⟨hc, hs⟩ := List.forall_mem_cons.mp h
    rcases List.mem_append.mp hd with hd | hd
    · rw [isBlank_of_mem_toCapital hd, hc]
    · obtain ⟨b, hb, hd⟩ := List.mem_flatMap.mp hd
      rw [isBlank_of_mem_toSmall hd, hs b hb]

theorem isEmpty_titleWord (word : List Char) : (titleWord word).isEmpty = word.isEmpty := by
  cases word with
  | nil => rfl
  | cons c s =>
    rw [titleWord, List.isEmpty_cons, List.isEmpty_eq_false_iff]
    exact List.append_ne_nil_of_left_ne_nil (toCapital_ne_nil c) _

/-! ### A text of many words -/

/-- Whatever precedes a blank, the text behind it starts with a word. -/
theorem titlecaseFrom_append_blank (start : Bool) (s t : List Char) (hw : isBlank w) :
    titlecaseFrom start (s ++ w :: t) = titlecaseFrom start s ++ w :: titlecaseFrom true t := by
  induction s generalizing start with
  | nil => rw [List.nil_append, titlecaseFrom, titlecaseFrom, if_pos hw, List.nil_append]
  | cons c s ih =>
    rw [List.cons_append, titlecaseFrom, titlecaseFrom]
    split
    · rw [ih, List.cons_append]
    split
    · rw [ih, List.append_assoc]
    · rw [ih, List.append_assoc]

theorem titlecase_append_blank (s t : List Char) (hw : isBlank w) :
    titlecase (s ++ w :: t) = titlecase s ++ w :: titlecase t :=
  titlecaseFrom_append_blank true s t hw

/-- Every text is a word, perhaps an empty one, or a word, a blank and a shorter text. -/
@[elab_as_elim]
theorem wordwise_induction {motive : List Char → Prop}
    (word : ∀ s, (∀ c ∈ s, isBlank c = false) → motive s)
    (blank : ∀ s w t, (∀ c ∈ s, isBlank c = false) → isBlank w → motive t → motive (s ++ w :: t))
    (s : List Char) : motive s := by
  -- the characters since the last blank are collected until the next one is met
  suffices h : ∀ p, (∀ c ∈ p, isBlank c = false) → motive (p ++ s) from h [] (List.forall_mem_nil _)
  induction s with
  | nil =>
    intro p hp
    rw [List.append_nil]
    exact word p hp
  | cons c s ih =>
    intro p hp
    by_cases hc : isBlank c
    · exact blank p c s hp hc (ih [] (List.forall_mem_nil _))
    · rw [List.append_cons]
      refine ih (p ++ [c]) (List.forall_mem_append.mpr ⟨hp, ?_⟩)
      exact List.forall_mem_singleton.mpr (eq_false_of_ne_true hc)

theorem splitOnP_titleWord (h : ∀ c ∈ word, isBlank c = false) :
    (titleWord word).splitOnP isBlank = (word.splitOnP isBlank).map titleWord := by
  rw [List.splitOnP_eq_singleton h,
    List.splitOnP_eq_singleton fun _ hd => isBlank_of_mem_titleWord h hd, List.map_singleton]

/-- **What stands between two blanks is set in title case on its own.** -/
theorem splitOnP_titlecase (s : List Char) :
    (titlecase s).splitOnP isBlank = (s.splitOnP isBlank).map titleWord := by
  induction s using wordwise_induction with
  | word s h => rw [titlecase_of_word h, splitOnP_titleWord h]
  | blank s w t h hw ih =>
    rw [titlecase_append_blank s t hw, titlecase_of_word h, List.splitOnP_append_cons _ _ hw,
      List.splitOnP_append_cons _ _ hw, List.map_append, ih, splitOnP_titleWord h]

/-- The blanks of a text are those of its title. -/
theorem filter_isBlank_titlecase (s : List Char) :
    (titlecase s).filter isBlank = s.filter isBlank := by
  have hword : ∀ word : List Char, (∀ c ∈ word, isBlank c = false) → word.filter isBlank = [] := by
    intro word h
    exact List.filter_eq_nil_iff.mpr fun c hc => ne_true_of_eq_false (h c hc)
  induction s using wordwise_induction with
  | word s h =>
    rw [titlecase_of_word h, hword s h]
    exact hword _ fun _ hd => isBlank_of_mem_titleWord h hd
  | blank s w t h hw ih =>
    have htitle := hword (titleWord s) fun _ hd => isBlank_of_mem_titleWord h hd
    rw [titlecase_append_blank s t hw, titlecase_of_word h, List.filter_append, List.filter_append,
      List.filter_cons_of_pos hw, List.filter_cons_of_pos hw, ih, hword s h, htitle]

theorem words_titlecase (s : List Char) : words (titlecase s) = (words s).map titleWord := by
  have hempty : (fun word => !(titleWord word).isEmpty) = fun word => !word.isEmpty :=
    funext fun word => by rw [isEmpty_titleWord]
  rw [words, words, splitOnP_titlecase, List.filter_map, Function.comp_def, hempty]

/-- **Title case works word by word.** At any blank the text divides, and both parts are set on
their own. A word is set as the full capital form of its first character, followed by the small
forms of the others. And so, for any text, the blanks stay as they are, between each two of them
stands what stood there in title case, and there are as many words as before. -/
theorem titlecase_word_by_word :
    (∀ s t w, isBlank w → titlecase (s ++ w :: t) = titlecase s ++ w :: titlecase t) ∧
    (∀ c s, (∀ d ∈ c :: s, isBlank d = false) →
      titlecase (c :: s) = toCapital c ++ s.flatMap toSmall) ∧
    ∀ s, (titlecase s).filter isBlank = s.filter isBlank ∧
      (titlecase s).splitOnP isBlank = (s.splitOnP isBlank).map titleWord ∧
      (words (titlecase s)).length = (words s).length := by
  refine ⟨fun s t w hw => titlecase_append_blank s t hw, fun c s h => titlecase_of_word h, ?_⟩
  intro s
  refine ⟨filter_isBlank_titlecase s, splitOnP_titlecase s, ?_⟩
  rw [words_titlecase, List.length_map]

/-- A wide space between a word that begins with a ligature and one that ends with a sigma. -/
theorem ligature_word_set_apart :
    (isBlank '\u2003' ∧ ∀ d ∈ ['ﬁ', 'N'], isBlank d = false) ∧
      titlecase (['ﬁ', 'N'] ++ '\u2003' :: ['Ο', 'Σ']) =
        titlecase ['ﬁ', 'N'] ++ '\u2003' :: titlecase ['Ο', 'Σ'] ∧
      titlecase ['ﬁ', 'N'] = ['F', 'I', 'n'] := by
  have hblank : isBlank '\u2003' := by decide
  have hword : ∀ d ∈ ['ﬁ', 'N'], isBlank d = false :=
    List.forall_mem_cons.mpr ⟨by decide, List.forall_mem_singleton.mpr (by decide)⟩
  have hset : toCapital 'ﬁ' ++ ['N'].flatMap toSmall = ['F', 'I', 'n'] := by decide
  obtain ⟨hdivide, hset', -⟩ := titlecase_word_by_word
  exact ⟨⟨hblank, hword⟩, hdivide _ _ _ hblank, (hset' _ _ hword).trans hset⟩

/-! ### Titles of titles -/

/-- Whether the capital form of `c` is in title case: its characters but the first have no other
small form. -/
def IsInitial (c : Char) : Prop := ∀ d ∈ (toCapital c).tail, toSmall d = [d]

instance : DecidablePred IsInitial := fun c =>
  List.decidableBAll (fun d => toSmall d = [d]) (toCapital c).tail

theorem isInitial_of_mem_toCapital (h : d ∈ toCapital c) : IsInitial d := by
  rw [IsInitial, toCapital_of_mem_toCapital h]
  exact List.forall_mem_nil _

/-- A capital form at the beginning of a word keeps its first character, and the others are made
small. -/
theorem titleWord_titleWord (hc : toCapital c = d :: t) :
    titleWord (titleWord (c :: s)) = d :: t.flatMap toSmall ++ s.flatMap toSmall := by
  have hd : toCapital d = [d] := toCapital_of_mem_toCapital (hc ▸ List.mem_cons_self)
  have hs : (s.flatMap toSmall).flatMap toSmall = s.flatMap toSmall :=
    flatMap_flatMap_self toSmall_of_mem_toSmall
  rw [titleWord, hc, List.cons_append, titleWord, hd, List.flatMap_append, hs,
    List.singleton_append, List.cons_append]

/-- A word in title case is settled exactly if the capital form of its first character is. -/
theorem titleWord_titleWord_iff :
    titleWord (titleWord (c :: s)) = titleWord (c :: s) ↔ IsInitial c := by
  obtain ⟨d, t, hc⟩ := List.exists_cons_of_ne_nil (toCapital_ne_nil c)
  rw [titleWord_titleWord hc, titleWord, hc, List.append_cancel_right_eq, List.cons.injEq,
    and_iff_right rfl, IsInitial, hc, List.tail_cons]
  exact flatMap_eq_self_iff toSmall_of_mem_toSmall

theorem titleWord_thrice (word : List Char) :
    titleWord (titleWord (titleWord word)) = titleWord (titleWord word) := by
  cases word with
  | nil => rfl
  | cons c s =>
    obtain ⟨d, t, hc⟩ := List.exists_cons_of_ne_nil (toCapital_ne_nil c)
    have hword : titleWord (c :: s) = d :: (t ++ s.flatMap toSmall) := by
      rw [titleWord, hc, List.cons_append]
    rw [hword]
    exact titleWord_titleWord_iff.mpr (isInitial_of_mem_toCapital (hc ▸ List.mem_cons_self))

/-- A text is made up of its blanks and of what stands between them. -/
private theorem eq_of_splitOnP_eq (hsplit : s.splitOnP isBlank = t.splitOnP isBlank)
    (hfilter : s.filter isBlank = t.filter isBlank) : s = t := by
  rw [← List.splitOnP_spec (p := isBlank) s, hsplit, hfilter, List.splitOnP_spec]

/-- **A title is settled exactly if no word begins with a character that grows into letters.** -/
theorem titlecase_titlecase_iff :
    titlecase (titlecase s) = titlecase s ↔ ∀ word ∈ words s, ∀ c ∈ word.head?, IsInitial c := by
  have hpieces : titlecase (titlecase s) = titlecase s ↔
      ∀ word ∈ s.splitOnP isBlank, titleWord (titleWord word) = titleWord word := by
    rw [← List.map_inj_left, ← Function.comp_def, ← List.map_map, ← splitOnP_titlecase,
      ← splitOnP_titlecase]
    refine ⟨congrArg _, fun h => eq_of_splitOnP_eq h ?_⟩
    rw [filter_isBlank_titlecase]
  rw [hpieces, words]
  simp only [List.mem_filter, Bool.not_eq_true', and_imp]
  refine forall₂_congr fun word hword => ?_
  cases word with
  | nil => simp [titleWord]
  | cons c s => simp [titleWord_titleWord_iff]

theorem titlecase_thrice (s : List Char) :
    titlecase (titlecase (titlecase s)) = titlecase (titlecase s) := by
  refine eq_of_splitOnP_eq ?_ (filter_isBlank_titlecase _)
  rw [splitOnP_titlecase, splitOnP_titlecase, splitOnP_titlecase, List.map_map, List.map_map,
    List.map_map]
  exact List.map_congr_left fun word _ => titleWord_thrice word

end Text

end Tabular
