import Tabular.Proofs.Text.Casing

/-!
# The case tables as wholes

Three laws hold of each of the two full case mappings at every character. **One mapping settles a
character**: nothing that a character is mapped to is mapped on. Only letters are mapped, those of
the other case and the digraphs between the cases, and of these digraphs all are. And blanks neither
change nor arise.

Each of the laws compares sets of code points: those that a table maps, those it maps to, and those
of a letter property (`CaseMap.Lawful`). The sets have thousands of elements, so they are compared
as numbers that have a bit for each element (`CodePoints.bits`). Two sets are then disjoint if the
conjunction of their bits is zero, and one lies within another if the disjunction adds no bit.
-/

namespace Tabular

namespace CharRun

/-- The code points of the run, in order. -/
def points (r : CharRun) : List Nat :=
  if r.first ≤ r.last then List.range' r.first ((r.last - r.first) / r.step + 1) r.step else []

theorem mem_points {r : CharRun} {n : Nat} : n ∈ r.points ↔ r.has n := by
  simp only [has, Bool.and_eq_true, decide_eq_true_eq, beq_iff_eq]
  rw [points]
  split
  next hle =>
    rw [List.mem_range']
    constructor
    · rintro ⟨i, hi, rfl⟩
      have hlast : r.step * i ≤ r.last - r.first :=
        Nat.le_trans (Nat.mul_le_mul_left _ (Nat.le_of_lt_succ hi)) (Nat.mul_div_le _ _)
      rw [Nat.add_sub_cancel_left, Nat.mul_mod_right]
      exact ⟨by omega, rfl⟩
    · rintro ⟨⟨hfirst, hlast⟩, hstep⟩
      refine ⟨(n - r.first) / r.step, Nat.lt_succ_of_le (Nat.div_le_div_right (by omega)), ?_⟩
      rw [Nat.mul_div_cancel' (Nat.dvd_of_mod_eq_zero hstep)]
      omega
  next hle => exact iff_of_false List.not_mem_nil fun h => hle (by omega)

theorem covers_iff {rs : List CharRun} {c : Char} :
    covers rs c ↔ c.toNat ∈ (rs.map points).flatten := by
  simp only [covers, List.any_eq_true, ← List.flatMap_def, List.mem_flatMap, mem_points]

end CharRun

/-! ### Sets of code points as numbers -/

namespace CodePoints

variable {n : Nat} {ns : List Nat} {mss nss : List (List Nat)}

/-- The number with the bits at the positions `ns`. -/
def bitsOf (ns : List Nat) : Nat := ns.foldr (fun n bits => 1 <<< n ||| bits) 0

/-- The number with the bits at the positions that some part of a set has. -/
def bits (nss : List (List Nat)) : Nat := nss.foldr (fun ns bits => bitsOf ns ||| bits) 0

theorem testBit_bitsOf : (bitsOf ns).testBit n ↔ n ∈ ns := by
  induction ns with
  | nil => simp [bitsOf]
  | cons m ns ih =>
    rw [bitsOf, List.foldr_cons, ← bitsOf, Nat.testBit_or, Bool.or_eq_true, ih, List.mem_cons,
      Nat.one_shiftLeft, Nat.testBit_two_pow, decide_eq_true_eq, eq_comm]

theorem testBit_bits : (bits nss).testBit n ↔ n ∈ nss.flatten := by
  induction nss with
  | nil => simp [bits]
  | cons ns nss ih =>
    rw [bits, List.foldr_cons, ← bits, Nat.testBit_or, Bool.or_eq_true, ih, testBit_bitsOf,
      List.flatten_cons, List.mem_append]

theorem mem_of_bits_or (h : bits mss ||| bits nss = bits nss) (hn : n ∈ mss.flatten) :
    n ∈ nss.flatten := by
  rw [← testBit_bits, ← h, Nat.testBit_or, testBit_bits.mpr hn, Bool.true_or]

theorem notMem_of_bits_and (h : bits mss &&& bits nss = 0) (hn : n ∈ mss.flatten) :
    n ∉ nss.flatten := by
  intro hn'
  have hbit : (bits mss &&& bits nss).testBit n := by
    rw [Nat.testBit_and, testBit_bits.mpr hn, testBit_bits.mpr hn', Bool.and_true]
  rw [h, Nat.zero_testBit] at hbit
  exact Bool.false_ne_true hbit

end CodePoints

namespace Letter

/-- Whether `c` is a digraph or a Greek letter whose first part alone is a capital. -/
def isTitle (c : Char) : Bool := CharRun.covers titles c

end Letter

namespace Text

/-- The code points of the blank characters. -/
def blanks : List Nat :=
  List.range' 0x9 5 ++ [0x20, 0x85, 0xA0, 0x1680] ++ List.range' 0x2000 11 ++
    [0x2028, 0x2029, 0x202F, 0x205F, 0x3000]

theorem mem_blanks {c : Char} (h : isBlank c) : c.toNat ∈ blanks := by
  simp only [isBlank, Bool.or_eq_true, Bool.and_eq_true, decide_eq_true_eq, beq_iff_eq] at h
  simp only [blanks, List.mem_append, List.mem_range'_1, List.mem_cons, List.not_mem_nil]
  omega

end Text

namespace CaseMap

open CodePoints

/-! ### A table written out -/

section

variable {sequences : List (Char × List Char)} {shifts : List ShiftedRun} {letters : List CharRun}
  {c d : Char}

/-- The code points that are mapped, those of the sequences first and then run by run. -/
def sources (sequences : List (Char × List Char)) (shifts : List ShiftedRun) : List (List Nat) :=
  sequences.map (·.1.toNat) :: shifts.map (·.run.points)

/-- The code points that are mapped to, in the same order. -/
def targets (sequences : List (Char × List Char)) (shifts : List ShiftedRun) : List (List Nat) :=
  sequences.flatMap (·.2.map Char.toNat) :: shifts.map fun r : ShiftedRun =>
    r.run.points.map fun n : Nat => (Char.ofNat ((n : Int) + r.shift).toNat).toNat

/-- A character that is no source stands for itself, and a source is mapped to targets only. -/
theorem mapped_cases (sequences : List (Char × List Char)) (shifts : List ShiftedRun) (c : Char) :
    (c.toNat ∉ (sources sequences shifts).flatten ∧ mapped sequences shifts c = [c]) ∨
      (c.toNat ∈ (sources sequences shifts).flatten ∧
        ∀ d ∈ mapped sequences shifts c, d.toNat ∈ (targets sequences shifts).flatten) := by
  rw [mapped, sources, targets, List.flatten_cons, List.flatten_cons]
  split
  next cs hcs =>
    obtain ⟨before, after, he, -⟩ := List.lookup_eq_some_iff.mp hcs
    have hmem : (c, cs) ∈ sequences := by simp [he]
    refine .inr ⟨List.mem_append_left _ (List.mem_map.mpr ⟨_, hmem, rfl⟩), fun d hd => ?_⟩
    exact List.mem_append_left _ (List.mem_flatMap.mpr ⟨_, hmem, List.mem_map_of_mem hd⟩)
  next hsequence =>
    rw [ShiftedRun.move]
    split
    next r hr =>
      have hmem : r ∈ shifts := List.mem_of_find?_eq_some hr
      have hhas : r.run.has c.toNat :=
        List.find?_some (p := fun r : ShiftedRun => r.run.has c.toNat) hr
      have hpoint : c.toNat ∈ r.run.points := CharRun.mem_points.mpr hhas
      refine .inr ⟨List.mem_append_right _ ?_, fun d hd => List.mem_append_right _ ?_⟩
      · exact List.mem_flatten.mpr ⟨_, List.mem_map_of_mem hmem, hpoint⟩
      · rw [List.mem_singleton.mp hd]
        exact List.mem_flatten.mpr
          ⟨_, List.mem_map_of_mem hmem, List.mem_map.mpr ⟨c.toNat, hpoint, rfl⟩⟩
    next hshift =>
      refine .inl ⟨fun h => ?_, rfl⟩
      rcases List.mem_append.mp h with h | h
      · obtain ⟨e, he, hc⟩ := List.mem_map.mp h
        have hkey : c = e.1 := by rw [← Char.ofNat_toNat c, ← hc, Char.ofNat_toNat]
        exact bne_iff_ne.mp (List.lookup_eq_none_iff.mp hsequence e he) hkey
      · obtain ⟨ns, hns, hc⟩ := List.mem_flatten.mp h
        obtain ⟨r, hr, rfl⟩ := List.mem_map.mp hns
        exact List.find?_eq_none.mp hshift r hr (CharRun.mem_points.mp hc)

/-! ### The laws of a table -/

/-- What a mapping keeps to: no target is mapped on, `letters` and digraphs are all that is mapped,
digraphs are always mapped, and no blank is mapped or mapped to. -/
structure Lawful (sequences : List (Char × List Char)) (shifts : List ShiftedRun)
    (letters : List CharRun) : Prop where
  settled : ∀ n ∈ (targets sequences shifts).flatten, n ∉ (sources sequences shifts).flatten
  cased : ∀ n ∈ (sources sequences shifts).flatten,
    n ∈ ((letters ++ Letter.titles).map CharRun.points).flatten
  titled : ∀ n ∈ (Letter.titles.map CharRun.points).flatten,
    n ∈ (sources sequences shifts).flatten
  visible : ∀ n ∈ (sources sequences shifts).flatten, n ∉ Text.blanks
  clear : ∀ n ∈ (targets sequences shifts).flatten, n ∉ Text.blanks

/-- The laws as equations between the bits of the sets. -/
theorem Lawful.of_bits
    (h : bits (targets sequences shifts) &&& bits (sources sequences shifts) = 0 ∧
      bits (sources sequences shifts) ||| bits ((letters ++ Letter.titles).map CharRun.points) =
        bits ((letters ++ Letter.titles).map CharRun.points) ∧
      bits (Letter.titles.map CharRun.points) ||| bits (sources sequences shifts) =
        bits (sources sequences shifts) ∧
      bits (sources sequences shifts) &&& bits [Text.blanks] = 0 ∧
      bits (targets sequences shifts) &&& bits [Text.blanks] = 0) :
    Lawful sequences shifts letters where
  settled _ := notMem_of_bits_and h.1
  cased _ := mem_of_bits_or h.2.1
  titled _ := mem_of_bits_or h.2.2.1
  visible _ hn := by simpa using notMem_of_bits_and h.2.2.2.1 hn
  clear _ hn := by simpa using notMem_of_bits_and h.2.2.2.2 hn

namespace Lawful

variable (h : Lawful sequences shifts letters)

include h

/-- What a character is mapped to stands for itself. -/
theorem mapped_of_mem_mapped (hd : d ∈ mapped sequences shifts c) :
    mapped sequences shifts d = [d] := by
  rcases mapped_cases sequences shifts c with ⟨-, hc⟩ | ⟨-, htargets⟩
  · rw [hc, List.mem_singleton] at hd
    rw [hd, hc]
  · rcases mapped_cases sequences shifts d with ⟨-, hself⟩ | ⟨hsource, -⟩
    · exact hself
    · exact absurd hsource (h.settled _ (htargets d hd))

/-- Among the characters that are none of the letters, **the digraphs between the cases are the ones
that do not stand for themselves**. -/
theorem mapped_eq_self_iff (hc : CharRun.covers letters c = false) :
    mapped sequences shifts c = [c] ↔ Letter.isTitle c = false := by
  rcases mapped_cases sequences shifts c with ⟨hsource, hself⟩ | ⟨hsource, htargets⟩
  · refine iff_of_true hself ?_
    rw [← Bool.not_eq_true]
    exact fun htitle => hsource (h.titled _ (CharRun.covers_iff.mp htitle))
  · have hcased : CharRun.covers (letters ++ Letter.titles) c :=
      CharRun.covers_iff.mpr (h.cased _ hsource)
    rw [CharRun.covers, List.any_append, ← CharRun.covers, ← CharRun.covers, hc,
      Bool.false_or] at hcased
    refine iff_of_false (fun hself => ?_) (ne_false_of_eq_true hcased)
    exact h.settled _ (htargets c (hself ▸ List.mem_singleton_self c)) hsource

/-- A blank is mapped to itself, and any other character to characters that are not blank. -/
theorem isBlank_of_mem_mapped (hd : d ∈ mapped sequences shifts c) :
    Text.isBlank d = Text.isBlank c := by
  rcases mapped_cases sequences shifts c with ⟨-, hc⟩ | ⟨hsource, htargets⟩
  · rw [hc, List.mem_singleton] at hd
    rw [hd]
  · have hclear : Text.isBlank d = false := by
      rw [← Bool.not_eq_true]
      exact mt Text.mem_blanks (h.clear _ (htargets d hd))
    have hvisible : Text.isBlank c = false := by
      rw [← Bool.not_eq_true]
      exact mt Text.mem_blanks (h.visible _ hsource)
    rw [hclear, hvisible]

end Lawful

end

/-! ### The two mappings -/

variable {c d : Char}

theorem lawful_small : Lawful smallSequences smallShifts Letter.capitals :=
  .of_bits (by decide +kernel)

theorem lawful_capital : Lawful capitalSequences capitalShifts Letter.smalls :=
  .of_bits (by decide +kernel)

theorem toSmall_of_mem_toSmall (h : d ∈ toSmall c) : toSmall d = [d] :=
  lawful_small.mapped_of_mem_mapped h

theorem toCapital_of_mem_toCapital (h : d ∈ toCapital c) : toCapital d = [d] :=
  lawful_capital.mapped_of_mem_mapped h

/-- Among the characters that are no capitals, the digraphs have small forms. -/
theorem toSmall_eq_self_iff (h : Letter.isCapital c = false) :
    toSmall c = [c] ↔ Letter.isTitle c = false :=
  lawful_small.mapped_eq_self_iff h

/-- Among the characters that are no small letters, the digraphs have capital forms. -/
theorem toCapital_eq_self_iff (h : Letter.isSmall c = false) :
    toCapital c = [c] ↔ Letter.isTitle c = false :=
  lawful_capital.mapped_eq_self_iff h

theorem isBlank_of_mem_toSmall (h : d ∈ toSmall c) : Text.isBlank d = Text.isBlank c :=
  lawful_small.isBlank_of_mem_mapped h

theorem isBlank_of_mem_toCapital (h : d ∈ toCapital c) : Text.isBlank d = Text.isBlank c :=
  lawful_capital.isBlank_of_mem_mapped h

end CaseMap

end Tabular
