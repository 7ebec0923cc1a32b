import Mathlib.Data.List.Forall2
import Mathlib.Data.List.Sort
import Tabular.Encoding

/-!
# Texts in UTF-8

Every character is written in a run of one to four bytes (`String.utf8EncodeChar`), and a text in the
runs of its characters, one after the other (`Encoding.utf8Bytes`). **A text that does not begin with
a byte order mark is read back from its bytes** (`Encoding.decode?_utf8Bytes`). The condition is
needed: a mark is taken off before anything else is looked at, and no other text has bytes that could
be mistaken for one (`Encoding.sniff_utf8Bytes`).

A greater character has a greater run, so texts are ordered alike by their characters and by their
bytes (`Encoding.utf8Bytes_lt_iff`).
-/

namespace Tabular

namespace Encoding

/-- The bytes of a text in UTF-8. -/
def utf8Bytes (s : String) : List UInt8 := s.toList.flatMap String.utf8EncodeChar

theorem toByteArray_utf8Bytes (s : String) : (utf8Bytes s).toByteArray = s.toUTF8 := by
  rw [String.toUTF8_eq_toByteArray, ← String.ofList_toList (s := s), String.toByteArray_ofList,
    String.ofList_toList]
  rfl

/-- The bytes of a text are well-formed and stand for the text. -/
theorem fromUTF8?_utf8Bytes (s : String) : String.fromUTF8? (utf8Bytes s).toByteArray = some s := by
  rw [toByteArray_utf8Bytes]
  exact dif_pos s.isValidUTF8

/-! ### Byte order marks -/

/-- Bytes that begin with none of the three marks are taken as they are. -/
theorem sniff_eq_self {e : Encoding} {bytes : List UInt8}
    (h8 : ∀ rest, bytes ≠ 0xEF :: 0xBB :: 0xBF :: rest)
    (hle : ∀ rest, bytes ≠ 0xFF :: 0xFE :: rest) (hbe : ∀ rest, bytes ≠ 0xFE :: 0xFF :: rest) :
    e.sniff bytes = (e, bytes) := by
  unfold sniff
  split
  · exact absurd rfl (h8 _)
  · exact absurd rfl (hle _)
  · exact absurd rfl (hbe _)
  · rfl

/-- No run begins with one of the highest bytes. -/
theorem head_utf8EncodeChar_lt {c : Char} {b : UInt8} {rest bytes : List UInt8}
    (h : String.utf8EncodeChar c ++ rest = b :: bytes) : b.toNat < 0xF8 := by
  revert h
  fun_cases String.utf8EncodeChar c <;> intro h <;> obtain ⟨rfl, -⟩ := List.cons.inj h <;>
    rw [UInt8.toNat_ofNat'] <;> omega

/-- The three bytes of the mark are the run of no other character. -/
theorem eq_mark_of_utf8EncodeChar {c : Char} {rest bytes : List UInt8}
    (h : String.utf8EncodeChar c ++ rest = 0xEF :: 0xBB :: 0xBF :: bytes) : c = '\uFEFF' := by
  have hcode : c.val.toNat = 0xFEFF := by
    revert h
    fun_cases String.utf8EncodeChar c <;> intro h
    -- a run of three bytes is the only one whose first byte fits
    case case3 =>
      simp only [List.cons_append, List.cons.injEq, ← UInt8.toNat_inj, UInt8.toNat_ofNat',
        UInt8.reduceToNat] at h
      omega
    all_goals
      have hfirst : UInt8.toNat _ = 0xEF := congrArg UInt8.toNat (List.cons.inj h).1
      rw [UInt8.toNat_ofNat'] at hfirst
      omega
  exact Char.ext (UInt32.toNat_inj.mp hcode)

/-- Only a text that begins with the mark has bytes that begin with one. -/
theorem sniff_utf8Bytes {e : Encoding} {s : String} (h : s.toList.head? ≠ some '\uFEFF') :
    e.sniff (utf8Bytes s) = (e, utf8Bytes s) := by
  rw [utf8Bytes]
  cases hs : s.toList with
  | nil => rfl
  | cons c cs =>
    have hc : c ≠ '\uFEFF' := fun hc => h (by rw [hs, hc]; rfl)
    rw [List.flatMap_cons]
    refine sniff_eq_self (fun rest hb => hc (eq_mark_of_utf8EncodeChar hb)) ?_ ?_
    · exact fun rest hb => absurd (head_utf8EncodeChar_lt hb) (by decide)
    · exact fun rest hb => absurd (head_utf8EncodeChar_lt hb) (by decide)

/-- **Texts are read back from their bytes.** -/
theorem decode?_utf8Bytes {s : String} (h : s.toList.head? ≠ some '\uFEFF') :
    utf8.decode? (utf8Bytes s) = some s := by
  rw [decode?, sniff_utf8Bytes h]
  exact fromUTF8?_utf8Bytes s

/-- Texts without a mark at their beginning are decoded from their bytes. -/
theorem forall₂_decode?_utf8Bytes {texts : List String}
    (h : ∀ s ∈ texts, s.toList.head? ≠ some '\uFEFF') :
    List.Forall₂ (fun f s => utf8.decode? f = some s) (texts.map utf8Bytes) texts :=
  List.forall₂_map_left_iff.mpr (List.forall₂_same.mpr fun s hs => decode?_utf8Bytes (h s hs))

/-! ### Characters of ASCII -/

/-- A character of ASCII is its own byte. -/
theorem utf8EncodeChar_of_ascii {c : Char} (h : c.toNat < 0x80) :
    String.utf8EncodeChar c = [UInt8.ofNat c.toNat] := by
  have hle : c.val.toNat ≤ 127 := Nat.le_of_lt_succ h
  rw [String.utf8EncodeChar, if_pos hle]
  rfl

/-- Characters of ASCII with the same byte are the same. -/
theorem eq_of_ofNat_toNat_eq {c d : Char} (hc : c.toNat < 0x80) (hd : d.toNat < 0x80)
    (h : UInt8.ofNat c.toNat = UInt8.ofNat d.toNat) : c = d := by
  have hcode := congrArg UInt8.toNat h
  rw [UInt8.toNat_ofNat', UInt8.toNat_ofNat'] at hcode
  exact Char.ext (UInt32.toNat_inj.mp (show c.toNat = d.toNat by omega))

/-- The byte of a character of ASCII occurs in no other run. -/
theorem eq_of_mem_utf8EncodeChar {c : Char} {b : UInt8} (hb : b ∈ String.utf8EncodeChar c)
    (h : b.toNat < 0x80) : c.toNat = b.toNat := by
  revert hb
  fun_cases String.utf8EncodeChar c <;> intro hb <;>
    simp only [List.mem_cons, List.not_mem_nil, or_false, ← UInt8.toNat_inj,
      UInt8.toNat_ofNat'] at hb <;> rw [← Char.toNat_val] <;> omega

/-! ### The order of bytes -/

/-- Lists keep their order, whatever is appended, if the greater one does not begin with the other. -/
private theorem append_lt_append {α : Type} [LT α] (r r' : List α) : ∀ {l l' : List α},
    l < l' ∧ ¬ l <+: l' → l ++ r < l' ++ r'
  | [], _, ⟨_, h⟩ => absurd List.nil_prefix h
  | _ :: l, [], ⟨h, _⟩ => absurd h (List.not_lt_nil _)
  | a :: l, b :: l', ⟨h, hp⟩ => by
    rw [List.cons_append, List.cons_append, List.cons_lt_cons_iff]
    rcases List.cons_lt_cons_iff.mp h with hab | ⟨rfl, hl⟩
    · exact .inl hab
    · refine .inr ⟨rfl, append_lt_append r r' ⟨hl, fun hl => hp ?_⟩⟩
      exact List.cons_prefix_cons.mpr ⟨rfl, hl⟩

/-- A greater character has a greater run, and none that begins with the other. -/
theorem utf8EncodeChar_lt {c d : Char} (h : c < d) :
    String.utf8EncodeChar c < String.utf8EncodeChar d ∧
      ¬ String.utf8EncodeChar c <+: String.utf8EncodeChar d := by
  have hcode : c.val.toNat < d.val.toNat := h
  have hmax : d.val.toNat < 0x110000 := d.valid.elim (fun h => Nat.lt_trans h (by decide)) And.right
  have h12 (n : Nat) : n / 4096 = n / 64 / 64 := by omega
  have h18 (n : Nat) : n / 262144 = n / 64 / 64 / 64 := by omega
  fun_cases String.utf8EncodeChar c <;> fun_cases String.utf8EncodeChar d <;>
    simp only [List.cons_lt_cons_iff, List.nil_lt_cons, List.not_lt_nil, List.cons_prefix_cons,
      List.nil_prefix, List.prefix_nil, UInt8.lt_iff_toNat_lt, ← UInt8.toNat_inj,
      UInt8.toNat_ofNat', h12, h18] <;> omega

private theorem flatMap_utf8EncodeChar_lt : ∀ {cs ds : List Char}, cs < ds →
    cs.flatMap String.utf8EncodeChar < ds.flatMap String.utf8EncodeChar
  | [], d :: ds, _ => by
    rw [List.flatMap_cons]
    cases hd : String.utf8EncodeChar d with
    | nil => exact absurd hd (String.utf8EncodeChar_ne_nil)
    | cons b bytes => exact List.nil_lt_cons b _
  | _ :: _, [], h => absurd h (List.not_lt_nil _)
  | c :: cs, d :: ds, h => by
    rw [List.flatMap_cons, List.flatMap_cons]
    rcases List.cons_lt_cons_iff.mp h with hcd | ⟨rfl, hcs⟩
    · exact append_lt_append _ _ (utf8EncodeChar_lt hcd)
    · exact List.append_left_lt (flatMap_utf8EncodeChar_lt hcs)

/-- **The order of texts is the order of their bytes.** -/
theorem utf8Bytes_lt_iff {s t : String} : utf8Bytes s < utf8Bytes t ↔ s < t := by
  refine ⟨fun h => ?_, fun h => flatMap_utf8EncodeChar_lt h⟩
  rcases Std.lt_trichotomy s t with hst | rfl | hts
  · exact hst
  · exact absurd h (List.lt_irrefl _)
  · exact absurd h (List.lt_asymm (flatMap_utf8EncodeChar_lt hts))

/-- Texts listed in the order of their bytes are determined by their set. -/
theorem eq_of_sorted_utf8Bytes {l l' : List String}
    (h : l.Pairwise fun a b => utf8Bytes a < utf8Bytes b)
    (h' : l'.Pairwise fun a b => utf8Bytes a < utf8Bytes b) (hmem : ∀ s, s ∈ l ↔ s ∈ l') : l = l' := by
  have : Std.Irrefl fun a b : String => utf8Bytes a < utf8Bytes b := ⟨fun _ => List.lt_irrefl _⟩
  have : Std.Antisymm fun a b : String => utf8Bytes a < utf8Bytes b :=
    ⟨fun _ _ hab hba => absurd hab (List.lt_asymm hba)⟩
  exact h.eq_of_mem_iff h' hmem

end Encoding

end Tabular
