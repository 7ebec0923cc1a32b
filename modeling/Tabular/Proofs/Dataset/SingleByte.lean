import Tabular.Proofs.Dataset.Limit
import Tabular.Proofs.Dataset.WellFormed

/-!
# Fields in a single-byte encoding

In a code page every byte stands for a character, so bytes should be read one by one and none should
be refused. Every field is decoded by itself, however, and a field that begins with a byte order mark
is taken out of the code page: its mark is dropped and the rest is read in the encoding of the mark.
**A field is read byte by byte exactly if it does not begin with a mark**
(`Encoding.decode?_page_iff`), since every other reading gives fewer characters than there are bytes.
So a cell is misread, or the whole source refused, if its first characters happen to look like a mark
(`Dataset.fields_by_characters_iff`).
-/

namespace Tabular

/-- The characters of bytes, each by itself. -/
def CodePage.text (p : CodePage) (bytes : List UInt8) : String := String.ofList (bytes.map p.char)

namespace Encoding

variable {bytes : List UInt8} {s : String} {p : CodePage}

/-! ### Marks -/

/-- The byte order marks. -/
def marks : List (List UInt8) := [[0xEF, 0xBB, 0xBF], [0xFF, 0xFE], [0xFE, 0xFF]]

/-- Whether bytes begin with a byte order mark. -/
def Marked (bytes : List UInt8) : Prop := ∃ mark ∈ marks, mark <+: bytes

instance : Decidable (Marked bytes) := List.decidableBEx _ marks

theorem marked_iff : Marked bytes ↔ ∃ rest, bytes = 0xEF :: 0xBB :: 0xBF :: rest ∨
    bytes = 0xFF :: 0xFE :: rest ∨ bytes = 0xFE :: 0xFF :: rest := by
  simp only [Marked, marks, List.exists_mem_cons_iff, List.IsPrefix]
  simp [exists_or, eq_comm]

/-! ### Fewer characters than bytes -/

/-- Well-formed bytes are those of their text. -/
theorem utf8Bytes_of_fromUTF8? (h : String.fromUTF8? bytes.toByteArray = some s) :
    utf8Bytes s = bytes := by
  rw [← List.toByteArray_inj, toByteArray_utf8Bytes, String.toUTF8_eq_toByteArray]
  unfold String.fromUTF8? at h
  split at h
  · rw [← Option.some.inj h]
    rfl
  · exact nomatch h

/-- Characters have at least as many bytes. -/
theorem length_le_length_flatMap : ∀ cs : List Char,
    cs.length ≤ (cs.flatMap String.utf8EncodeChar).length
  | [] => Nat.le_refl 0
  | c :: cs => by
    have hc : 0 < (String.utf8EncodeChar c).length :=
      List.length_pos_iff.mpr String.utf8EncodeChar_ne_nil
    have hcs := length_le_length_flatMap cs
    rw [List.flatMap_cons, List.length_append, List.length_cons]
    omega

/-- Code units give no more characters than there are of them. -/
theorem length_le_of_characters? {ns : List Nat} {cs : List Char}
    (h : Utf16.characters? ns = some cs) : cs.length ≤ ns.length := by
  fun_induction Utf16.characters? ns generalizing cs with
  | case1 => simp_all
  | case2 n _ m ns _ ih =>
    obtain ⟨cs, hcs, rfl⟩ := Option.map_eq_some_iff.mp h
    exact Nat.succ_le_succ (Nat.le_succ_of_le (ih hcs))
  | case6 n ns _ _ ih =>
    obtain ⟨cs, hcs, rfl⟩ := Option.map_eq_some_iff.mp h
    exact Nat.succ_le_succ (ih hcs)
  | case3 | case4 | case5 => exact nomatch h

theorem length_of_units? {bigEndian : Bool} : ∀ {bytes : List UInt8} {ns : List Nat},
    Utf16.units? bigEndian bytes = some ns → bytes.length = 2 * ns.length
  | [], _, h => by rw [← Option.some.inj h]; rfl
  | [_], _, h => by simp [Utf16.units?] at h
  | a :: b :: bytes, _, h => by
    obtain ⟨ns, hns, rfl⟩ := Option.map_eq_some_iff.mp h
    rw [List.length_cons, List.length_cons, List.length_cons, length_of_units? hns]
    omega

/-- Bytes behind a mark have no more characters than there are bytes. -/
theorem length_le_of_decodeBare? {e : Encoding} (he : e = utf8 ∨ e = utf16le ∨ e = utf16be)
    (h : e.decodeBare? bytes = some s) : s.length ≤ bytes.length := by
  have hunits {bigEndian : Bool} (h : (Utf16.units? bigEndian bytes).bind Utf16.text? = some s) :
      s.length ≤ bytes.length := by
    obtain ⟨ns, hns, htext⟩ := Option.bind_eq_some_iff.mp h
    obtain ⟨cs, hcs, rfl⟩ := Option.map_eq_some_iff.mp htext
    rw [String.length_ofList, length_of_units? hns]
    exact Nat.le_trans (length_le_of_characters? hcs) (Nat.le_mul_of_pos_left _ Nat.two_pos)
  rcases he with rfl | rfl | rfl
  · rw [← utf8Bytes_of_fromUTF8? h, ← String.length_toList]
    exact length_le_length_flatMap s.toList
  · exact hunits h
  · exact hunits h

theorem length_text (p : CodePage) (bytes : List UInt8) : (p.text bytes).length = bytes.length := by
  rw [CodePage.text, String.length_ofList, List.length_map]

/-- **Bytes are read one by one exactly if they do not begin with a mark.** -/
theorem decode?_page_iff : (page p).decode? bytes = some (p.text bytes) ↔ ¬ Marked bytes := by
  rw [marked_iff]
  constructor
  · -- behind a mark there are too few characters
    have hfewer {e : Encoding} {mark rest : List UInt8} (he : e = utf8 ∨ e = utf16le ∨ e = utf16be)
        (hmark : mark ≠ []) (h : e.decodeBare? rest = some (p.text (mark ++ rest))) : False := by
      have hle := length_le_of_decodeBare? he h
      have hpos := List.length_pos_iff.mpr hmark
      rw [length_text, List.length_append] at hle
      omega
    rintro h ⟨rest, rfl | rfl | rfl⟩
    · exact hfewer (.inl rfl) (List.cons_ne_nil 0xEF [0xBB, 0xBF]) h
    · exact hfewer (.inr (.inl rfl)) (List.cons_ne_nil 0xFF [0xFE]) h
    · exact hfewer (.inr (.inr rfl)) (List.cons_ne_nil 0xFE [0xFF]) h
  · intro hmarked
    rw [decode?, sniff_eq_self (fun rest h => hmarked ⟨rest, .inl h⟩)
      (fun rest h => hmarked ⟨rest, .inr (.inl h)⟩) (fun rest h => hmarked ⟨rest, .inr (.inr h)⟩)]
    rfl

theorem eq_text_iff (h : (page p).decode? bytes = some s) : s = p.text bytes ↔ ¬ Marked bytes := by
  rw [← decode?_page_iff, h, Option.some_inj]

/-- Only what begins with a mark can be refused. -/
theorem marked_of_decode?_eq_none (h : (page p).decode? bytes = none) : Marked bytes := by
  by_contra hmarked
  rw [decode?_page_iff.mpr hmarked] at h
  exact Option.some_ne_none _ h

end Encoding

namespace Dataset

open Encoding

variable {α : Type} {limit : Option Nat}

/-- A limit lets the items before it through. -/
theorem getElem?_limited {i : Nat} (h : ∀ n ∈ limit, i < n) (xs : List α) :
    (limited limit xs)[i]? = xs[i]? := by
  cases limit with
  | none => rfl
  | some n => exact List.getElem?_take_of_lt (h n rfl)

/-- **A field is read by its characters exactly if it does not begin with a mark.** In delimited text
that is read in a code page this holds for every header and for every cell, which comes from the last
field of its header. Reading fails to decode a field only if one within the limit begins with a mark,
behind which the bytes are malformed. -/
theorem fields_by_characters_iff (p : CodePage) (delimiter : UInt8) (given : Option UInt8)
    (limit : Option Nat) (bytes : List UInt8) (header : List Delimited.Field)
    (records : List (List Delimited.Field))
    (h : Delimited.records delimiter bytes = header :: records) :
    (∀ d, readDelimited delimiter ⟨given, .page p, limit⟩ bytes = .ok d →
      List.Forall₂ (fun f s => s = p.text f ↔ ¬ Marked f) header d.headers ∧
      List.Forall₂ (fun record row => ∀ c ∈ d.headers, ∃ i f s, d.headers[i]? = some c ∧
        c ∉ d.headers.drop (i + 1) ∧ record[i]? = some f ∧ row.get? c = some (.text s) ∧
          (s = p.text f ↔ ¬ Marked f)) (limited limit records) d.table.rows) ∧
    ∀ e, readDelimited delimiter ⟨given, .page p, limit⟩ bytes = .error (.undecodable e) →
      e = .page p ∧ ∃ record ∈ header :: limited limit records, ∃ f ∈ record,
        Marked f ∧ (Encoding.page p).decode? f = none := by
  refine ⟨fun d hd => ?_, fun e he => ?_⟩
  · -- what is read
    obtain ⟨hheaders, texts, htexts, htable⟩ := (readDelimited_eq_ok_iff h).mp hd
    refine ⟨hheaders.imp fun f s hs => eq_text_iff hs, ?_⟩
    rw [htable, Table.ofRecords, List.map_map, List.forall₂_map_right_iff]
    refine htexts.imp fun record ss hread c hc => ?_
    obtain ⟨i, f, s, hi, hlast, hf, hs, hcell⟩ :=
      (holdsRecord_ofList (hheaders.length_eq ▸ hread)).last c hc
    exact ⟨i, f, s, hi, hlast, hf, hcell, eq_text_iff hs⟩
  · -- what is refused
    have hmarked (record : List Delimited.Field)
        (hf : ∃ f ∈ record, (Encoding.page p).decode? f = none) :
        ∃ f ∈ record, Marked f ∧ (Encoding.page p).decode? f = none := by
      obtain ⟨f, hf, hnone⟩ := hf
      exact ⟨f, hf, marked_of_decode?_eq_none hnone, hnone⟩
    rcases (readDelimited_eq_error_iff h).mp he with ⟨hcause, hf⟩ | hrecord
    · exact ⟨ReadError.undecodable.inj hcause, header, List.mem_cons_self, hmarked header hf⟩
    · obtain ⟨headers, texts, -, ⟨-, record, hat, hrefused⟩, hwithin⟩ := hrecord
      cases hrefused with
      | undecodable _ hf =>
        have hmem : record ∈ limited limit records :=
          List.mem_of_getElem? ((getElem?_limited hwithin records).trans hat)
        exact ⟨rfl, record, List.mem_cons_of_mem _ hmem, hmarked record hf⟩

/-- A header and a cell of each kind, and a cell that is refused. -/
theorem marked_fields_among_others :
    let p := CodePage.windows1252
    let header : List Delimited.Field := [[0x61], [0xFF, 0xFE, 0x41, 0x42]]
    let record : List Delimited.Field := [[0x4D, 0xFC], [0xEF, 0xBB, 0xBF, 0x78]]
    let lines := Delimited.write 0x2C [header, record]
    let d : Dataset := ⟨["a", "䉁"], .ofRecords ["a", "䉁"] [[.text "Mü", .text "x"]]⟩
    let refused := Delimited.write 0x2C [[[0x63]], [[0xFF, 0xFE, 0x41]]]
    (readDelimited 0x2C ⟨none, .page p, none⟩ lines = .ok d ∧
      "a" = p.text [0x61] ∧ "䉁" ≠ p.text [0xFF, 0xFE, 0x41, 0x42] ∧
      List.Forall₂ (fun record row => ∀ c ∈ d.headers, ∃ i f s, d.headers[i]? = some c ∧
        c ∉ d.headers.drop (i + 1) ∧ record[i]? = some f ∧ row.get? c = some (.text s) ∧
          (s = p.text f ↔ ¬ Marked f)) [record] d.table.rows) ∧
    readDelimited 0x2C ⟨none, .page p, none⟩ refused = .error (.undecodable (.page p)) ∧
      ∃ record ∈ [[[0x63]], [[0xFF, 0xFE, 0x41]]], ∃ f ∈ record,
        Marked f ∧ (Encoding.page p).decode? f = none := by
  intro p header record lines d refused
  have hrecords : Delimited.records 0x2C lines = [header, record] := by decide
  have hrecords' : Delimited.records 0x2C refused = [[[0x63]], [[0xFF, 0xFE, 0x41]]] := by decide
  have hd : readDelimited 0x2C ⟨none, .page p, none⟩ lines = .ok d := by
    have h16 : (Encoding.page p).decode? [0xFF, 0xFE, 0x41, 0x42] = some "䉁" := by decide
    have h8 : (Encoding.page p).decode? [0xEF, 0xBB, 0xBF, 0x78] = some "x" :=
      fromUTF8?_utf8Bytes "x"
    have hbytes : (Encoding.page p).decode? [0x4D, 0xFC] = some "Mü" := by decide
    refine (readDelimited_eq_ok_iff hrecords).mpr ⟨.cons rfl (.cons h16 .nil), [["Mü", "x"]], ?_, rfl⟩
    exact .cons ⟨rfl, .cons hbytes (.cons h8 .nil)⟩ .nil
  have herror : readDelimited 0x2C ⟨none, .page p, none⟩ refused = .error (.undecodable (.page p)) := by
    rfl
  have hread := fields_by_characters_iff p 0x2C none none lines header [record] hrecords
  have hrefused := fields_by_characters_iff p 0x2C none none refused _ _ hrecords'
  have ⟨hheaders, hcells⟩ := hread.1 d hd
  obtain ⟨ha, hrest⟩ := List.forall₂_cons.mp hheaders
  have hmarked := (List.forall₂_cons.mp hrest).1
  exact ⟨⟨hd, ha.mpr (by decide), fun h => hmarked.mp h (by decide), hcells⟩, herror,
    (hrefused.2 _ herror).2⟩

/-- In `windows-1252` the bytes of `ÿþAB` are read as one other character, and those of `ÿþA` make the
whole source undecodable. -/
theorem marked_cells_misread :
    let p := CodePage.windows1252
    let o : SourceOptions := ⟨none, .page p, none⟩
    (readDelimited 0x2C o [0x63, 0x0A, 0xFF, 0xFE, 0x41, 0x42, 0x0A] =
        .ok ⟨["c"], .ofRecords ["c"] [[.text "䉁"]]⟩ ∧
      p.text [0xFF, 0xFE, 0x41, 0x42] = "ÿþAB") ∧
    readDelimited 0x2C o [0x63, 0x0A, 0xFF, 0xFE, 0x41, 0x0A] = .error (.undecodable (.page p)) ∧
      p.text [0xFF, 0xFE, 0x41] = "ÿþA" := by
  refine ⟨⟨by rfl, by decide⟩, by rfl, by decide⟩

end Dataset

end Tabular
