import Tabular.Json.Basic
import Tabular.Json.Reading
import Tabular.Proofs.Number.Digits

/-!
# Reading what is written

The reader of JSON text meets the parts that the writer puts there: strings, whole numbers, and the
items and members of arrays and objects with gaps between them. **Each part is read back and nothing
after it is touched.** A string ends with its quote whatever follows, but a number ends only before
something that cannot belong to it, which is what `Source.Ends` is about.

Characters are escaped one by one, so a written string is read as one piece for each character: the
character itself, or a code unit for a control character without a letter of its own (`Source.piece`).
-/

namespace Tabular

namespace Source

variable {c : Char} {s rest gap : List Char}

/-! ### Gaps -/

/-- A gap before a text is skipped. -/
theorem skipGap_append (h : ∀ c ∈ gap, isGap c) (s : List Char) : skipGap (gap ++ s) = skipGap s :=
  List.dropWhile_append_of_pos h

theorem skipGap_cons (h : isGap c = false) (s : List Char) : skipGap (c :: s) = c :: s := by
  rw [skipGap, List.dropWhile_cons, h, if_neg Bool.false_ne_true]

theorem isGap_iff : isGap c ↔ c ∈ [' ', '\n', '\t', '\r'] := by
  simp [isGap, or_assoc]

/-- A value may end before `s`: nothing follows, or a gap, a comma or a closing bracket. -/
def Ends (s : List Char) : Prop := ∀ c ∈ s.head?, c ∈ [' ', '\n', '\t', '\r', ',', ']', '\x7d']

theorem ends_nil : Ends [] := nofun

theorem ends_cons (hc : c ∈ [' ', '\n', '\t', '\r', ',', ']', '\x7d']) (s : List Char) :
    Ends (c :: s) := fun _ hd => Option.some.inj hd ▸ hc

/-- A value may end before a gap that it may end behind. -/
theorem ends_append (hgap : ∀ c ∈ gap, isGap c) (h : Ends s) : Ends (gap ++ s) := by
  cases gap with
  | nil => exact h
  | cons d gap =>
    intro c hc
    have hd : isGap c := Option.some.inj hc ▸ hgap d List.mem_cons_self
    exact List.mem_append_left [',', ']', '\x7d'] (isGap_iff.mp hd)

/-! ### Strings -/

/-- The piece that a character is written as. -/
def piece (c : Char) : Piece :=
  if c.toNat < 0x20 ∧ c ∉ ['\x08', '\t', '\n', '\x0c', '\r'] then .unit c.toNat else .char c

/-- The pieces that a text is written as. -/
def pieces (s : String) : List Piece := s.toList.map piece

/-- The digits of a small code unit. -/
theorem codeUnit?_hexDigit : ∀ n < 0x20,
    codeUnit? '0' '0' (Json.hexDigit (n / 16)) (Json.hexDigit (n % 16)) = some n := by decide

/-- A written character is read as its piece. -/
theorem readPieces_charText {ps : List Piece} (h : readPieces s = some (ps, rest)) :
    readPieces (Json.charText c ++ s) = some (piece c :: ps, rest) := by
  unfold Json.charText
  -- the characters with an escape of their own
  iterate 7
    split
    next hc =>
      subst hc
      simp [readPieces, escape?, piece, h]
  rename_i hquote hslash hb ht hn hf hr
  split
  next hlow =>
    have hunit : piece c = .unit c.toNat := if_pos ⟨hlow, by simp [*]⟩
    simp [readPieces, codeUnit?_hexDigit c.toNat hlow, h, hunit]
  next hhigh =>
    have hchar : piece c = .char c := if_neg fun hlow => hhigh hlow.1
    rw [hchar, List.singleton_append, readPieces.eq_def]
    split <;> simp_all

/-- A piece stands for its character. -/
theorem characters?_piece (c : Char) (ps : List Piece) :
    characters? (piece c :: ps) = (characters? ps).map (c :: ·) := by
  rw [piece]
  split
  next h =>
    have hhigh : Utf16.isHigh c.toNat = false := by grind [Utf16.isHigh]
    have hlow : Utf16.isLow c.toNat = false := by grind [Utf16.isLow]
    rw [characters?.eq_def]
    simp [hhigh, hlow, Char.ofNat_toNat]
  next => rfl

/-- **A written string is read back** up to its closing quote, whatever follows. -/
theorem readPieces_flatMap_charText (rest : List Char) : ∀ cs : List Char,
    readPieces (cs.flatMap Json.charText ++ '"' :: rest) = some (cs.map piece, rest)
  | [] => rfl
  | c :: cs => by
    rw [List.flatMap_cons, List.append_assoc, List.map_cons]
    exact readPieces_charText (readPieces_flatMap_charText rest cs)

theorem characters?_map_piece : ∀ cs : List Char, characters? (cs.map piece) = some cs
  | [] => rfl
  | c :: cs => by rw [List.map_cons, characters?_piece, characters?_map_piece cs, Option.map_some]

@[simp] theorem text?_pieces (s : String) : text? (pieces s) = some s := by
  rw [text?, pieces, characters?_map_piece, Option.map_some, String.ofList_toList]

theorem stringText_append (s : String) (rest : List Char) :
    Json.stringText s ++ rest = '"' :: (s.toList.flatMap Json.charText ++ '"' :: rest) := by
  simp [Json.stringText]

/-- A written string is read with its quotes. -/
theorem readString_stringText (s : String) (rest : List Char) :
    readString (Json.stringText s ++ rest) = some (pieces s, rest) := by
  rw [readString, stringText_append, skipGap_cons (by decide)]
  exact readPieces_flatMap_charText rest s.toList

end Source

/-! ### Numbers -/

/-- A whole number as it is written. -/
def Numeral.ofInt (n : Int) : Numeral := ⟨n < 0, Nat.toDigits 10 n.natAbs, none, none⟩

namespace Source

/-- What a number ends before is no part of a number. -/
theorem Ends.head (h : Ends rest) :
    ∀ c ∈ rest.head?, Number.isDigit c = false ∧ c ≠ '.' ∧ c ≠ 'e' ∧ c ≠ 'E' := by
  have hlist : ∀ c ∈ [' ', '\n', '\t', '\r', ',', ']', '\x7d'],
      Number.isDigit c = false ∧ c ≠ '.' ∧ c ≠ 'e' ∧ c ≠ 'E' := by
    simp [Number.isDigit]
  exact fun c hc => hlist c (h c hc)

theorem fraction?_of_ends (h : Ends rest) : fraction? rest = some (none, rest) := by
  cases rest with
  | nil => rfl
  | cons c rest =>
    rw [fraction?]
    rintro s hs
    exact (h.head c rfl).2.1 (List.cons.inj hs).1

theorem exponent?_of_ends (h : Ends rest) : exponent? rest = some (none, rest) := by
  cases rest with
  | nil => rfl
  | cons c rest =>
    have hc := (h.head c rfl).2.2
    rw [exponent?, if_neg (not_or.mpr hc)]

/-- Written digits are read as the whole part of a number. -/
theorem whole?_toDigits (n : Nat) (h : Ends rest) :
    whole? (Nat.toDigits 10 n ++ rest) = some (Nat.toDigits 10 n, rest) := by
  by_cases hn : n = 0
  · rw [hn, Nat.toDigits_zero]
    rfl
  · obtain ⟨c, ds, hdigits, hc⟩ := Number.toDigits_eq_cons_of_ne_zero hn
    have htake : Number.takeDigits (Nat.toDigits 10 n ++ rest) = (Nat.toDigits 10 n, rest) :=
      Number.takeDigits_append (fun c hc => Number.isDigit_of_mem_toDigits hc)
        fun c hc => (h.head c hc).1
    rw [hdigits] at htake ⊢
    rw [List.cons_append, whole?, digits?, ← List.cons_append, htake]
    rintro s hs
    exact hc (List.cons.inj hs).1

/-- **A written whole number is read back**, if it ends there. -/
theorem readNumeral_intChars (n : Int) (h : Ends rest) :
    readNumeral (Decimal.intChars n ++ rest) = some (Numeral.ofInt n, rest) := by
  rw [Decimal.intChars, Numeral.ofInt]
  by_cases hn : n < 0
  · rw [if_pos hn, List.cons_append]
    simp [readNumeral, whole?_toDigits _ h, fraction?_of_ends h, exponent?_of_ends h, hn]
  · have hsign : ∀ s, Nat.toDigits 10 n.natAbs ++ rest = '-' :: s → False := by
      intro s hs
      obtain ⟨c, ds, hdigits, hc⟩ := Number.toDigits_eq_cons n.natAbs
      rw [hdigits, List.cons_append] at hs
      rw [(List.cons.inj hs).1] at hc
      exact absurd hc (by decide)
    rw [if_neg hn, readNumeral]
    · simp [whole?_toDigits _ h, fraction?_of_ends h, exponent?_of_ends h, hn]
    · exact hsign

/-- A whole number of 64 bits, with or without a sign, stands for itself. -/
theorem layer?_ofInt {δ : Type} {n : Int} (hlow : -2 ^ 63 ≤ n) (hhigh : n < 2 ^ 64) :
    (Numeral.ofInt n).layer? δ = some (.int n) := by
  have hvalue : Number.ofDigits (Nat.toDigits 10 n.natAbs) = n.natAbs := Number.ofDigits_toDigits _
  by_cases hn : n < 0
  · have hbound : n.natAbs ≠ 0 ∧ n.natAbs ≤ 2 ^ 63 := by omega
    have hneg : -(n.natAbs : Int) = n := by omega
    simp only [Numeral.layer?, Numeral.ofInt, hvalue, hn, Option.isNone_none, Bool.and_self,
      decide_true, if_true]
    rw [if_pos hbound, hneg]
  · have hbound : n.natAbs < 2 ^ 64 := by omega
    have hpos : (n.natAbs : Int) = n := by omega
    simp only [Numeral.layer?, Numeral.ofInt, hvalue, hn, Option.isNone_none, Bool.and_self,
      decide_false, if_true, if_false, Bool.false_eq_true]
    rw [if_pos hbound, hpos]

/-- A written whole number begins with a sign or a digit, and so like no other value. -/
theorem intChars_eq_cons (n : Int) : ∃ c s, Decimal.intChars n = c :: s ∧ isGap c = false ∧
    c ∉ ['n', 't', 'f', '"', '[', ']', '\x7b'] := by
  rw [Decimal.intChars]
  split
  · exact ⟨'-', _, rfl, by decide, by decide⟩
  · obtain ⟨c, s, hdigits, hc⟩ := Number.toDigits_eq_cons n.natAbs
    have hnone : ∀ d ∈ [' ', '\n', '\t', '\r'] ++ ['n', 't', 'f', '"', '[', ']', '\x7b'],
        Number.isDigit d = false := by simp [Number.isDigit]
    have hother : c ∉ [' ', '\n', '\t', '\r'] ++ ['n', 't', 'f', '"', '[', ']', '\x7b'] :=
      fun hmem => Bool.false_ne_true ((hnone c hmem).symm.trans hc)
    rw [List.mem_append, not_or, ← isGap_iff, Bool.not_eq_true] at hother
    exact ⟨c, s, hdigits, hother⟩

/-! ### Separated parts -/

/-- The text begins, without a gap, with something else than a closing bracket. -/
def Opens (closing : Char) (s : List Char) : Prop :=
  ∃ c s', s = c :: s' ∧ isGap c = false ∧ c ≠ closing

section Separated

variable {closing : Char} {separator x : List Char}

theorem Opens.ne_nil (h : Opens closing s) : s ≠ [] := by
  obtain ⟨c, s', rfl, -⟩ := h
  exact List.cons_ne_nil c s'

theorem Opens.append (h : Opens closing s) (t : List Char) : Opens closing (s ++ t) := by
  obtain ⟨c, s', rfl, hc⟩ := h
  exact ⟨c, s' ++ t, rfl, hc⟩

/-- The whole begins like its first part. -/
theorem opens_separated : ∀ {xs : List (List Char)}, xs ≠ [] → (∀ x ∈ xs, Opens closing x) →
    Opens closing (Json.separated separator xs)
  | [x], _, h => h x List.mem_cons_self
  | x :: _ :: _, _, h => ((h x List.mem_cons_self).append _).append _

theorem length_le_separated : ∀ {xs : List (List Char)}, x ∈ xs →
    x.length ≤ (Json.separated separator xs).length
  | [y], hx => Nat.le_of_eq (congrArg List.length (List.mem_singleton.mp hx))
  | y :: z :: xs, hx => by
    rw [Json.separated, List.length_append, List.length_append]
    rcases List.mem_cons.mp hx with rfl | hx
    · omega
    · exact Nat.le_add_left_of_le (length_le_separated hx)

/-- Parts that are not empty are no more than the characters of the whole. -/
theorem length_le_length_separated {α : Type} {write : α → List Char} : ∀ {xs : List α},
    (∀ part ∈ xs.map write, Opens closing part) → ∀ s : List Char,
      xs.length ≤ (Json.separated separator (xs.map write) ++ s).length
  | [], _, _ => Nat.zero_le _
  | [x], h, s => by
    have hx := List.length_pos_iff.mpr (h (write x) List.mem_cons_self).ne_nil
    rw [List.length_append]
    exact Nat.le_add_right_of_le hx
  | x :: y :: xs, h, s => by
    have ⟨hx, hxs⟩ := List.forall_mem_cons.mp h
    have hfirst := List.length_pos_iff.mpr hx.ne_nil
    have hrest := length_le_length_separated hxs s
    rw [List.map_cons, List.length_append] at hrest
    rw [List.map_cons, List.map_cons, Json.separated, List.length_append, List.length_append,
      List.length_append, List.length_cons]
    omega

end Separated

/-! ### Items -/

section Items

variable {α : Type} {value : List Char → Option (Source × List Char)} {write : α → List Char}
  {tree : α → Source}

/-- A gap before items is skipped if the reader of an item skips it. -/
theorem readItems_append (hvalue : ∀ s, value (gap ++ s) = value s) (steps : Nat) (s : List Char) :
    readItems value steps (gap ++ s) = readItems value steps s := by
  cases steps with
  | zero => rfl
  | succ steps => rw [readItems, readItems, hvalue]

/-- **Written items are read back** up to the closing bracket, if each of them is. -/
theorem readItems_separated (hgap : ∀ s, value (gap ++ s) = value s)
    (hs : skipGap s = ']' :: rest) (hends : Ends s) : ∀ {xs : List α} {steps : Nat}, xs ≠ [] →
      xs.length ≤ steps →
      (∀ x ∈ xs, ∀ s, Ends s → value (write x ++ s) = some (tree x, s)) →
        readItems value steps (Json.separated (',' :: gap) (xs.map write) ++ s) =
          some (xs.map tree, rest)
  | [x], steps + 1, _, _, hread => by
    have hx := hread x List.mem_cons_self s hends
    rw [List.map_singleton, Json.separated, readItems, hx]
    simp [hs]
  | x :: y :: xs, steps + 1, _, hsteps, hread => by
    have ⟨hx, hxs⟩ := List.forall_mem_cons.mp hread
    have hrest := readItems_separated hgap hs hends (List.cons_ne_nil y xs)
      (Nat.le_of_succ_le_succ hsteps) hxs
    rw [← readItems_append hgap, List.map_cons] at hrest
    rw [List.map_cons, List.map_cons, Json.separated, List.append_assoc, List.append_assoc,
      List.cons_append, readItems, hx _ (ends_cons (by decide) _)]
    simp [skipGap_cons (c := ',') (by decide), hrest]

end Items

/-! ### Members -/

/-- A member as it is written: its name, a colon with a gap after it, and its value. -/
def memberText (colon : List Char) (write : Json → List Char) (m : String × Json) : List Char :=
  Json.stringText m.1 ++ ':' :: (colon ++ write m.2)

theorem opens_memberText (colon : List Char) (write : Json → List Char) (m : String × Json) :
    Opens '\x7d' (memberText colon write m) :=
  ⟨'"', _, rfl, by decide, by decide⟩

theorem length_le_memberText {colon : List Char} {write : Json → List Char} (m : String × Json) :
    (write m.2).length ≤ (memberText colon write m).length := by
  simp only [memberText, List.length_append, List.length_cons]
  omega

section Members

variable {colon : List Char} {value : List Char → Option (Source × List Char)}
  {write : Json → List Char} {tree : Json → Source}

/-- A gap before members is skipped. -/
theorem readMembers_append (hgap : ∀ c ∈ gap, isGap c) (steps : Nat) (s : List Char) :
    readMembers value steps (gap ++ s) = readMembers value steps s := by
  cases steps with
  | zero => rfl
  | succ steps => rw [readMembers, readMembers, readString, readString, skipGap_append hgap]

/-- The name of a written member and the beginning of its value are read one after the other. -/
theorem readString_memberText (m : String × Json) (s : List Char) :
    readString (memberText colon write m ++ s) =
      some (pieces m.1, ':' :: (colon ++ (write m.2 ++ s))) := by
  rw [memberText, List.append_assoc, List.cons_append, List.append_assoc, readString_stringText]

/-- **Written members are read back** up to the closing brace, if their values are. -/
theorem readMembers_separated (hgap : ∀ c ∈ gap, isGap c) (hcolon : ∀ s, value (colon ++ s) = value s)
    (hs : skipGap s = '\x7d' :: rest) (hends : Ends s) :
    ∀ {ms : List (String × Json)} {steps : Nat}, ms ≠ [] → ms.length ≤ steps →
      (∀ m ∈ ms, ∀ s, Ends s → value (write m.2 ++ s) = some (tree m.2, s)) →
        readMembers value steps
            (Json.separated (',' :: gap) (ms.map (memberText colon write)) ++ s) =
          some (ms.map fun m => (pieces m.1, tree m.2), rest)
  | [m], steps + 1, _, _, hread => by
    have hm := hread m List.mem_cons_self s hends
    rw [List.map_singleton, Json.separated, readMembers, readString_memberText]
    simp [skipGap_cons (c := ':') (by decide), hcolon, hm, hs]
  | m :: m' :: ms, steps + 1, _, hsteps, hread => by
    have ⟨hm, hms⟩ := List.forall_mem_cons.mp hread
    have hrest := readMembers_separated hgap hcolon hs hends (List.cons_ne_nil m' ms)
      (Nat.le_of_succ_le_succ hsteps) hms
    rw [← readMembers_append hgap, List.map_cons] at hrest
    rw [List.map_cons, List.map_cons, Json.separated, List.append_assoc, List.append_assoc,
      List.cons_append, readMembers, readString_memberText]
    simp [skipGap_cons (c := ':') (by decide), skipGap_cons (c := ',') (by decide), hcolon,
      hm _ (ends_cons (c := ',') (by decide) _), hrest]

end Members

end Source

end Tabular
