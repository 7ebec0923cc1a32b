import Mathlib.Data.List.Basic
import Tabular.Proofs.Text.CaseTable

/-!
# Texts that a case leaves as they are

A full mapping leaves a text as it is exactly if it leaves every character as it is, and every
character that it yields stands for itself. So a text is **settled after one mapping**, whatever
letters in it grow into several (`Text.capitals_capitals`), and whichever form its sigmas take
(`Text.smalls_smalls`). The shortcuts do not disturb this: they return a text either mapped or as it
was, and a settled text stays the same both ways (`Text.uppercase_uppercase`,
`Text.lowercase_lowercase`).

That a text has no small letter does not mean that it has no capital form, though. **A digraph such
as ǅ is neither a capital nor a small letter, and has a form in either case.** A shortcut is right
about a text without letters to change exactly if it has no digraph either
(`Text.shortcuts_agree_iff`).
-/

namespace Tabular

namespace Text

open CaseMap

variable {s before : List Char} {c d : Char}

/-! ### Mapping twice -/

/-- If what a mapping yields stands for itself, then it leaves a text as it is exactly if it leaves
every character as it is. -/
theorem flatMap_eq_self_iff {f : Char → List Char} (hf : ∀ {c d : Char}, d ∈ f c → f d = [d]) :
    s.flatMap f = s ↔ ∀ c ∈ s, f c = [c] := by
  constructor
  · intro h c hc
    rw [← h] at hc
    obtain ⟨b, -, hb⟩ := List.mem_flatMap.mp hc
    exact hf hb
  · intro h
    rw [List.flatMap_congr h, List.flatMap_singleton']

theorem flatMap_flatMap_self {f : Char → List Char} (hf : ∀ {c d : Char}, d ∈ f c → f d = [d]) :
    (s.flatMap f).flatMap f = s.flatMap f := by
  refine (flatMap_eq_self_iff hf).mpr fun d hd => ?_
  obtain ⟨c, -, hc⟩ := List.mem_flatMap.mp hd
  exact hf hc

theorem capitals_eq_self_iff : capitals s = s ↔ ∀ c ∈ s, toCapital c = [c] :=
  flatMap_eq_self_iff toCapital_of_mem_toCapital

theorem capitals_capitals : capitals (capitals s) = capitals s :=
  flatMap_flatMap_self toCapital_of_mem_toCapital

/-- Every character of a text in small letters stands for itself, both forms of sigma included. -/
theorem toSmall_of_mem_smallsAfter (h : d ∈ smallsAfter before s) : toSmall d = [d] := by
  induction s generalizing before with
  | nil => exact absurd h List.not_mem_nil
  | cons c s ih =>
    have hfinal : toSmall 'ς' = ['ς'] := by decide
    have hinner : toSmall 'σ' = ['σ'] := by decide
    rw [smallsAfter, List.mem_append] at h
    rcases h with h | h
    · split at h
      · split at h
        · rwa [List.mem_singleton.mp h]
        · rwa [List.mem_singleton.mp h]
      · exact toSmall_of_mem_toSmall h
    · exact ih h

theorem smallsAfter_eq_self (h : ∀ c ∈ s, toSmall c = [c]) : smallsAfter before s = s := by
  induction s generalizing before with
  | nil => rfl
  | cons c s ih =>
    have ⟨hc, hs⟩ := List.forall_mem_cons.mp h
    have hsigma : c ≠ 'Σ' := by
      rintro rfl
      exact absurd hc (by decide)
    rw [smallsAfter, if_neg hsigma, hc, ih hs, List.singleton_append]

theorem smalls_eq_self_iff : smalls s = s ↔ ∀ c ∈ s, toSmall c = [c] := by
  refine ⟨fun h c hc => ?_, smallsAfter_eq_self⟩
  rw [← h] at hc
  exact toSmall_of_mem_smallsAfter hc

theorem smalls_smalls : smalls (smalls s) = smalls s :=
  smalls_eq_self_iff.mpr fun _ => toSmall_of_mem_smallsAfter

/-! ### The shortcuts -/

section

variable {p : Char → Bool} {f : List Char → List Char} {g : Char → List Char}

/-- A text that was mapped, or passed over as one without letters to change, stays the same whether
it is now mapped or passed over. -/
private theorem shortcut_shortcut (hf : f (f s) = f s) :
    let t := if s.any p then f s else s
    (if t.any p then f t else t) = t := by
  by_cases hs : s.any p
  · simp only [if_pos hs, hf, ite_self]
  · simp only [if_neg hs]

/-- A text with letters to change is mapped. Any other is returned as it is, which is right if its
characters all stand for themselves. -/
private theorem shortcut_eq_iff (hf : f s = s ↔ ∀ c ∈ s, g c = [c])
    (hg : ∀ c, p c = false → (g c = [c] ↔ Letter.isTitle c = false)) :
    (if s.any p then f s else s) = f s ↔
      (∃ c ∈ s, p c) ∨ ∀ c ∈ s, Letter.isTitle c = false := by
  by_cases hs : s.any p
  · rw [if_pos hs]
    exact iff_of_true rfl (.inl (List.any_eq_true.mp hs))
  · have hnone : ∀ c ∈ s, p c = false := by simpa using hs
    have hsettled : f s = s ↔ ∀ c ∈ s, Letter.isTitle c = false :=
      hf.trans (forall₂_congr fun c hc => hg c (hnone c hc))
    rw [if_neg hs, eq_comm, hsettled, ← List.any_eq_true, or_iff_right hs]

end

theorem uppercase_uppercase (s : List Char) : uppercase (uppercase s) = uppercase s :=
  shortcut_shortcut capitals_capitals

theorem lowercase_lowercase (s : List Char) : lowercase (lowercase s) = lowercase s :=
  shortcut_shortcut smalls_smalls

/-- **Where the shortcuts agree with the full mappings.** For any text, the small letters of it are
what the full mapping gives exactly if there is a capital in it, and then no shortcut is taken, or
there is no digraph in it; and likewise its capitals, if there is a small letter or no digraph. -/
theorem shortcuts_agree_iff (s : List Char) :
    (lowercase s = smalls s ↔
      (∃ c ∈ s, Letter.isCapital c) ∨ ∀ c ∈ s, Letter.isTitle c = false) ∧
    (uppercase s = capitals s ↔
      (∃ c ∈ s, Letter.isSmall c) ∨ ∀ c ∈ s, Letter.isTitle c = false) :=
  ⟨shortcut_eq_iff smalls_eq_self_iff fun _ => toSmall_eq_self_iff,
    shortcut_eq_iff capitals_eq_self_iff fun _ => toCapital_eq_self_iff⟩

/-- A digraph on its own is returned as it is in either case, though it has both a small and a
capital form. -/
theorem digraph_passed_over :
    lowercase ['\u01c5'] = ['\u01c5'] ∧ smalls ['\u01c5'] = ['\u01c6'] ∧
      uppercase ['\u01c5'] = ['\u01c5'] ∧ capitals ['\u01c5'] = ['\u01c4'] := by
  decide

end Text

end Tabular
