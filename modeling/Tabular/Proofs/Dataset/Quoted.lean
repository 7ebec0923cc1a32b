import Tabular.Proofs.Dataset.Reading
import Tabular.Proofs.Delimited
import Tabular.Proofs.Encoding
import Tabular.Proofs.Keyed

/-!
# Quoted tables are loaded without loss

A table of texts is written with every text in quotes, the quotes inside it doubled. **Reading gives
back the headers and every text under its header**, whatever characters they are made of
(`Dataset.quoted_table_reads_back`). Three things come together: the bytes of the written text are
the quoted bytes of its fields, as no byte of another character looks like a quote
(`Delimited.utf8Bytes_quotedText`); the machine takes these fields apart again
(`Delimited.records_write`); and each field is decoded by itself. As fields are decoded one by one, a
byte order mark at the beginning of a field would be lost, so there must be none.
-/

namespace Tabular

open Encoding

namespace Delimited

/-! ### Quoted texts -/

/-- The characters of a text with every quote doubled. -/
def doubledChars (s : String) : List Char :=
  s.toList.flatMap fun c => if c = '"' then ['"', '"'] else [c]

/-- A text in quotes. -/
def quotedField (s : String) : List Char := '"' :: doubledChars s ++ ['"']

/-- The quoted texts of a record with a delimiter between them, and a line feed. -/
def quotedRecord (delimiter : Char) (texts : List String) : List Char :=
  [delimiter].intercalate (texts.map quotedField) ++ ['\n']

/-- The text that lists records of quoted texts. -/
def quotedText (delimiter : Char) (records : List (List String)) : String :=
  String.ofList (records.flatMap (quotedRecord delimiter))

/-! ### Their bytes -/

/-- Quotes are doubled alike as characters and as bytes. -/
theorem utf8_doubledChars (s : String) :
    (doubledChars s).flatMap String.utf8EncodeChar = doubled (utf8Bytes s) := by
  rw [doubledChars, doubled, utf8Bytes, List.flatMap_assoc, List.flatMap_assoc]
  refine List.flatMap_congr fun c _ => ?_
  by_cases hc : c = '"'
  · rw [hc]
    decide
  · -- none of the bytes of any other character is a quote
    have hkeep : ∀ b ∈ String.utf8EncodeChar c, (if b = quote then [quote, quote] else [b]) = [b] := by
      intro b hb
      refine if_neg fun hq => hc ?_
      have hcode : c.toNat = quote.toNat := hq ▸ eq_of_mem_utf8EncodeChar hb (by rw [hq]; decide)
      exact Char.ext (UInt32.toNat_inj.mp hcode)
    rw [if_neg hc, List.flatMap_singleton, List.flatMap_congr hkeep, List.flatMap_singleton']

theorem utf8_quotedField (s : String) :
    (quotedField s).flatMap String.utf8EncodeChar = writeField (utf8Bytes s) := by
  have hquote : String.utf8EncodeChar '"' = [quote] := by decide
  rw [quotedField, List.cons_append, List.flatMap_cons, List.flatMap_append, utf8_doubledChars,
    List.flatMap_singleton, hquote]
  rfl

theorem utf8_quotedFields {d : Char} (hd : d.toNat < 0x80) : ∀ texts : List String,
    ([d].intercalate (texts.map quotedField)).flatMap String.utf8EncodeChar =
      writeFields (UInt8.ofNat d.toNat) (texts.map utf8Bytes)
  | [] => rfl
  | [s] => by
    rw [List.map_singleton, List.intercalate_singleton, utf8_quotedField]
    rfl
  | s :: t :: texts => by
    rw [List.map_cons, List.map_cons, List.intercalate_cons_cons, List.flatMap_append,
      List.flatMap_append, utf8_quotedField, List.flatMap_singleton, utf8EncodeChar_of_ascii hd,
      ← List.map_cons, utf8_quotedFields hd (t :: texts), List.append_assoc]
    rfl

/-- **The bytes of quoted texts are their quoted bytes.** -/
theorem utf8Bytes_quotedText {d : Char} (hd : d.toNat < 0x80) (records : List (List String)) :
    utf8Bytes (quotedText d records) =
      write (UInt8.ofNat d.toNat) (records.map (·.map utf8Bytes)) := by
  have hline : String.utf8EncodeChar '\n' = [0x0A] := by decide
  rw [utf8Bytes, quotedText, String.toList_ofList, write, List.flatMap_assoc, List.flatMap_map]
  refine List.flatMap_congr fun texts _ => ?_
  rw [quotedRecord, List.flatMap_append, utf8_quotedFields hd, List.flatMap_singleton, hline]

/-- Quoted texts are found again as the bytes of the fields. -/
theorem records_quotedText {d : Char} (hascii : d.toNat < 0x80) (hquote : d ≠ '"')
    (hline : d ≠ '\n') {records : List (List String)} (h : ∀ texts ∈ records, texts ≠ []) :
    Delimited.records (UInt8.ofNat d.toNat) (utf8Bytes (quotedText d records)) =
      records.map (·.map utf8Bytes) := by
  have hquote : UInt8.ofNat d.toNat ≠ quote := fun hb =>
    hquote (eq_of_ofNat_toNat_eq hascii (d := '"') (by decide) hb)
  have hline : UInt8.ofNat d.toNat ≠ 0x0A := fun hb =>
    hline (eq_of_ofNat_toNat_eq hascii (d := '\n') (by decide) hb)
  rw [utf8Bytes_quotedText hascii, records_write hquote hline]
  intro fs hfs
  obtain ⟨texts, htexts, rfl⟩ := List.mem_map.mp hfs
  exact mt List.map_eq_nil_iff.mp (h texts htexts)

end Delimited

/-! ### Loading -/

namespace Dataset

/-- Under distinct headers every text of a record is found. -/
theorem forall₂_get?_ofList_zip {headers texts : List String} (hn : headers.Nodup)
    (hlen : texts.length = headers.length) :
    List.Forall₂ (fun h s => (Keyed.ofList (headers.zip (texts.map Cell.text))).get? h = some (.text s))
      headers texts := by
  refine List.forall₂_iff_get.mpr ⟨hlen.symm, fun i hi hi' => ?_⟩
  have hlast : headers[i] ∉ headers.drop (i + 1) := by
    rw [← List.take_append_drop i headers, List.drop_eq_getElem_cons hi] at hn
    exact (List.nodup_cons.mp (List.nodup_append.mp hn).2.1).1
  refine Keyed.get?_ofList_zip _ (by simpa using hlen) (List.getElem?_eq_getElem hi) hlast ?_
  rw [List.getElem?_map, List.getElem?_eq_getElem hi']
  rfl

/-- **Quoted tables are read back.** Take any distinct headers, at least one, and any rows of as many
texts, of which none begins with a byte order mark, and any delimiter of ASCII other than the quote
and the line feed. The text that writes all of them in quotes is read, without a limit, as a data set
with these headers and one row for each row of texts, which holds every text under its header and
nothing else. -/
theorem quoted_table_reads_back (headers : List String) (rows : List (List String))
    (delimiter : Char) (given : Option UInt8) (hsome : headers ≠ []) (hn : headers.Nodup)
    (hrows : ∀ texts ∈ rows, texts.length = headers.length)
    (hmark : ∀ texts ∈ headers :: rows, ∀ s ∈ texts, s.toList.head? ≠ some '\uFEFF')
    (hascii : delimiter.toNat < 0x80) (hquote : delimiter ≠ '"') (hline : delimiter ≠ '\n') :
    ∃ t : Table,
      readDelimited (UInt8.ofNat delimiter.toNat) ⟨given, .utf8, none⟩
        (utf8Bytes (Delimited.quotedText delimiter (headers :: rows))) = .ok ⟨headers, t⟩ ∧
      List.Forall₂ (fun texts row => (∀ c, c ∈ row.keys ↔ c ∈ headers) ∧
        List.Forall₂ (fun h s => row.get? h = some (.text s)) headers texts) rows t.rows := by
  have ⟨hheaders, hmark⟩ := List.forall_mem_cons.mp hmark
  have hne : ∀ texts ∈ headers :: rows, texts ≠ [] := by
    refine List.forall_mem_cons.mpr ⟨hsome, fun texts htexts hnil => hsome ?_⟩
    rw [← List.length_eq_zero_iff, ← hrows texts htexts, hnil, List.length_nil]
  have hrecords := Delimited.records_quotedText hascii hquote hline hne
  refine ⟨Table.ofRecords headers (rows.map (·.map Cell.text)), ?_, ?_⟩
  · refine (readDelimited_eq_ok_iff hrecords).mpr
      ⟨forall₂_decode?_utf8Bytes hheaders, rows, ?_, rfl⟩
    refine List.forall₂_map_left_iff.mpr (List.forall₂_same.mpr fun texts htexts => ?_)
    exact ⟨by simpa using hrows texts htexts, forall₂_decode?_utf8Bytes (hmark texts htexts)⟩
  · rw [Table.ofRecords, List.map_map, List.forall₂_map_right_iff, List.forall₂_same]
    intro texts htexts
    have hlen := hrows texts htexts
    exact ⟨fun c => Keyed.mem_keys_ofList_zip c (by simpa using hlen),
      forall₂_get?_ofList_zip hn hlen⟩

/-- Headers and texts made of what usually ends them: a quote, the delimiter, line ends; the second
row begins with an empty text. -/
theorem quoted_specials_read_back :
    let headers := ["a;b", "\"", ""]
    let rows := [["\"\"", "x\r\ny", ";"], ["", "é😀", "\n"]]
    (headers ≠ [] ∧ headers.Nodup ∧ (∀ texts ∈ rows, texts.length = headers.length) ∧
      (∀ texts ∈ headers :: rows, ∀ s ∈ texts, s.toList.head? ≠ some '\uFEFF') ∧
      ';'.toNat < 0x80 ∧ ';' ≠ '"' ∧ ';' ≠ '\n') ∧
    ∃ t : Table,
      readDelimited (UInt8.ofNat ';'.toNat) ⟨none, .utf8, none⟩
        (utf8Bytes (Delimited.quotedText ';' (headers :: rows))) = .ok ⟨headers, t⟩ ∧
      List.Forall₂ (fun texts row => (∀ c, c ∈ row.keys ↔ c ∈ headers) ∧
        List.Forall₂ (fun h s => row.get? h = some (.text s)) headers texts) rows t.rows := by
  intro headers rows
  have hsome : headers ≠ [] := List.cons_ne_nil _ _
  have hn : headers.Nodup := by decide
  have hrows : ∀ texts ∈ rows, texts.length = headers.length := by decide
  have hmark : ∀ texts ∈ headers :: rows, ∀ s ∈ texts, s.toList.head? ≠ some '\uFEFF' := by decide
  have hascii : ';'.toNat < 0x80 := by decide
  have hquote : ';' ≠ '"' := by decide
  have hline : ';' ≠ '\n' := by decide
  exact ⟨⟨hsome, hn, hrows, hmark, hascii, hquote, hline⟩,
    quoted_table_reads_back headers rows ';' none hsome hn hrows hmark hascii hquote hline⟩

end Dataset

end Tabular
