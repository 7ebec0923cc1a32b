import Tabular.Proofs.Dataset.Reading
import Tabular.Proofs.Encoding

/-!
# A limit only cuts off

A limit on the rows is looked at before each record, so what lies behind it cannot matter. Two things
make this precise. If a source is read, then under every smaller limit it is read as well, with the
same headers and the first rows (`Dataset.readDelimited_first`, `Dataset.readJson_first`). If it is
refused, then **because of the first part that cannot be read** (`Dataset.readRecords_eq_error_iff`,
`Dataset.readObjects_eq_error_iff`), and limits that end before this part give the rows before it.

Only an array that is read up to no object at all loses something else, which is its headers.
-/

namespace Tabular

namespace Dataset

variable {α β ε : Type} {e : Encoding} {limit : Option Nat} {n : Nat} {cause : ReadError}

/-! ### Smaller limits -/

/-- The data set with its first `n` rows. -/
def first (n : Nat) (d : Dataset) : Dataset := ⟨d.headers, ⟨d.table.rows.take n⟩⟩

/-- What lies within a limit is unchanged by a larger one. -/
theorem take_limited (hn : ∀ m ∈ limit, n ≤ m) (xs : List α) :
    (limited limit xs).take n = xs.take n := by
  cases limit with
  | none => rfl
  | some m => rw [limited, List.take_take, Nat.min_eq_left (hn m rfl)]

variable {delimiter : UInt8} {given : Option UInt8} {bytes : List UInt8} {d : Dataset}

/-- Delimited text that is read is read under every smaller limit. -/
theorem readDelimited_first (h : readDelimited delimiter ⟨given, e, limit⟩ bytes = .ok d)
    (hn : ∀ m ∈ limit, n ≤ m) :
    readDelimited delimiter ⟨given, e, some n⟩ bytes = .ok (d.first n) := by
  cases hrecords : Delimited.records delimiter bytes with
  | nil =>
    rw [readDelimited, hrecords] at h ⊢
    rw [← Except.ok.inj h, first, List.take_nil]
  | cons header records =>
    obtain ⟨hheaders, texts, htexts, htable⟩ := (readDelimited_eq_ok_iff hrecords).mp h
    have hfirst := List.forall₂_take n htexts
    rw [take_limited hn] at hfirst
    refine (readDelimited_eq_ok_iff hrecords).mpr ⟨hheaders, texts.take n, hfirst, ?_⟩
    simp only [first, htable, Table.ofRecords, List.map_take]

/-- A JSON array that is read is read under every smaller limit of at least one row. -/
theorem readJson_first (h : readJson ⟨given, e, limit⟩ bytes = .ok d) (hpos : 1 ≤ n)
    (hn : ∀ m ∈ limit, n ≤ m) : readJson ⟨given, e, some n⟩ bytes = .ok (d.first n) := by
  obtain ⟨text, items, objects, htext, hitems, hobjects, rfl⟩ := readJson_eq_ok_iff.mp h
  refine readJson_eq_ok_iff.mpr ⟨text, items, objects.take n, htext, hitems, ?_, ?_⟩
  · rw [List.map_take, ← hobjects, take_limited hn, limited]
  · rw [first, List.map_take, List.head?_take, if_neg (Nat.one_le_iff_ne_zero.mp hpos)]

/-! ### The first part that is refused -/

private theorem bind_eq_error_iff {x : Except ε α} {f : α → Except ε β} {y : ε} :
    (x >>= f) = .error y ↔ x = .error y ∨ ∃ a, x = .ok a ∧ f a = .error y := by
  cases x with
  | error cause => simp [bind, Except.bind]
  | ok a => simp [bind, Except.bind]

private theorem pure_ne_error {x : α} {y : ε} : (pure x : Except ε α) ≠ .error y := nofun

private theorem forall_mem_pred_iff (h : limit ≠ some 0) {k : Nat} :
    (∀ n ∈ limit.map (· - 1), k < n) ↔ ∀ n ∈ limit, k + 1 < n := by
  match limit, h with
  | none, _ => simp
  | some (n + 1), _ => simp

theorem decode_eq_error_iff {f : Delimited.Field} :
    decode e f = .error cause ↔ cause = .undecodable e ∧ e.decode? f = none := by
  rw [decode]
  cases e.decode? f <;> simp [eq_comm]

/-- A record is undecodable if one of its fields is not well-formed. -/
theorem decodeRecord_eq_error_iff : ∀ {fs : List Delimited.Field},
    decodeRecord e fs = .error cause ↔ cause = .undecodable e ∧ ∃ f ∈ fs, e.decode? f = none
  | [] => by simp [decodeRecord]
  | f :: fs => by
    simp only [decodeRecord, bind_eq_error_iff, decode_eq_error_iff, decode_eq_ok_iff,
      decodeRecord_eq_error_iff, List.exists_mem_cons_iff, pure_ne_error, and_false, exists_false,
      or_false]
    cases hf : e.decode? f with
    | none => simp
    | some s => simp

/-- Why a record that must have `width` fields is refused, which is in row `row` of the source. -/
inductive RefusedFor (e : Encoding) (width row : Nat) (record : List Delimited.Field) :
    ReadError → Prop where
  | uneven (h : record.length ≠ width) :
    RefusedFor e width row record (.unevenRecord row width record.length)
  | undecodable (h : record.length = width) (hf : ∃ f ∈ record, e.decode? f = none) :
    RefusedFor e width row record (.undecodable e)

/-- Reading records, the first of which is in row `row`, stops at one that is refused, and those
before it are read as `texts`. -/
structure StopsAfter (e : Encoding) (width row : Nat) (records : List (List Delimited.Field))
    (texts : List (List String)) (cause : ReadError) : Prop where
  read : List.Forall₂ (RecordReadAs e width) (records.take texts.length) texts
  refused : ∃ record, records[texts.length]? = some record ∧
    RefusedFor e width (row + texts.length) record cause

section Records

variable {width row : Nat} {record : List Delimited.Field} {records : List (List Delimited.Field)}
  {ss : List String} {texts : List (List String)}

theorem not_stopsAfter_of_nil : ¬ StopsAfter e width row [] texts cause := by
  rintro ⟨-, record, h, -⟩
  rw [List.getElem?_nil] at h
  cases h

theorem stopsAfter_nil_iff :
    StopsAfter e width row (record :: records) [] cause ↔ RefusedFor e width row record cause := by
  constructor
  · rintro ⟨-, stopped, hstopped, hrefused⟩
    obtain rfl := Option.some.inj hstopped
    exact hrefused
  · exact fun h => ⟨.nil, record, rfl, h⟩

theorem stopsAfter_cons_iff : StopsAfter e width row (record :: records) (ss :: texts) cause ↔
    RecordReadAs e width record ss ∧ StopsAfter e width (row + 1) records texts cause := by
  have hrow : row + (ss :: texts).length = row + 1 + texts.length := by
    rw [List.length_cons]
    omega
  constructor
  · rintro ⟨hread, hrefused⟩
    obtain ⟨hss, htexts⟩ := List.forall₂_cons.mp hread
    exact ⟨hss, htexts, hrow ▸ hrefused⟩
  · rintro ⟨hss, htexts, hrefused⟩
    exact ⟨.cons hss htexts, hrow ▸ hrefused⟩

/-- **Reading records fails exactly at a record within the limit** that is refused while those before
it are not. -/
theorem readRecords_eq_error_iff : readRecords e width row limit records = .error cause ↔
    ∃ texts, StopsAfter e width row records texts cause ∧ ∀ n ∈ limit, texts.length < n := by
  induction records generalizing row limit with
  | nil =>
    rw [readRecords]
    exact iff_of_false pure_ne_error (not_exists.mpr fun _ => mt And.left not_stopsAfter_of_nil)
  | cons record records ih =>
    rw [readRecords]
    by_cases hlimit : limit = some 0
    · rw [if_pos hlimit]
      refine iff_of_false pure_ne_error ?_
      rintro ⟨texts, -, hwithin⟩
      exact Nat.not_lt_zero _ (hwithin 0 hlimit)
    have hpos : ∀ n ∈ limit, 0 < n := fun n hn => Nat.pos_of_ne_zero fun h => hlimit (h ▸ hn)
    rw [if_neg hlimit]
    by_cases hwidth : record.length = width
    · simp only [if_pos hwidth, bind_eq_error_iff, decodeRecord_eq_error_iff, decodeRecord_eq_ok_iff,
        ih, forall_mem_pred_iff hlimit, pure_ne_error, and_false, exists_false, or_false]
      constructor
      · rintro (⟨rfl, hf⟩ | ⟨ss, hss, texts, hstops, hwithin⟩)
        · exact ⟨[], stopsAfter_nil_iff.mpr (.undecodable hwidth hf), hpos⟩
        · exact ⟨ss :: texts, stopsAfter_cons_iff.mpr ⟨⟨hwidth, hss⟩, hstops⟩, hwithin⟩
      · rintro ⟨texts, hstops, hwithin⟩
        cases texts with
        | nil =>
          cases stopsAfter_nil_iff.mp hstops with
          | uneven h => exact absurd hwidth h
          | undecodable _ hf => exact .inl ⟨rfl, hf⟩
        | cons ss texts =>
          obtain ⟨hss, htexts⟩ := stopsAfter_cons_iff.mp hstops
          exact .inr ⟨ss, hss.decoded, texts, htexts, hwithin⟩
    · rw [if_neg hwidth]
      constructor
      · intro h
        obtain rfl := Except.error.inj h
        exact ⟨[], stopsAfter_nil_iff.mpr (.uneven hwidth), hpos⟩
      · rintro ⟨texts, hstops, -⟩
        cases texts with
        | nil =>
          cases stopsAfter_nil_iff.mp hstops with
          | uneven => rfl
          | undecodable h => exact absurd h hwidth
        | cons ss texts => exact absurd (stopsAfter_cons_iff.mp hstops).1.length_eq hwidth

end Records

/-- **Delimited text is refused** for a header that is undecodable, or for the first record within
the limit that cannot be read. -/
theorem readDelimited_eq_error_iff {o : SourceOptions} {header : List Delimited.Field}
    {records : List (List Delimited.Field)}
    (h : Delimited.records delimiter bytes = header :: records) :
    readDelimited delimiter o bytes = .error cause ↔
      (cause = .undecodable o.encoding ∧ ∃ f ∈ header, o.encoding.decode? f = none) ∨
        ∃ headers texts, List.Forall₂ (fun f s => o.encoding.decode? f = some s) header headers ∧
          StopsAfter o.encoding header.length 2 records texts cause ∧
            ∀ n ∈ o.limit, texts.length < n := by
  simp only [readDelimited, h, bind_eq_error_iff, decodeRecord_eq_error_iff, decodeRecord_eq_ok_iff,
    readRecords_eq_error_iff, pure_ne_error, and_false, exists_false, or_false]
  refine or_congr_right (exists_congr fun headers => ?_)
  rw [exists_and_left]

/-- The items of an array begin with objects, and the one behind these is none. -/
structure BreaksAfter (items : List Json) (objects : List (List (String × Json))) : Prop where
  read : items.take objects.length = objects.map Json.object
  refused : ∃ item, items[objects.length]? = some item ∧ ∀ ms, item ≠ .object ms

section Objects

variable {item : Json} {items : List Json} {ms : List (String × Json)}
  {objects : List (List (String × Json))}

theorem not_breaksAfter_of_nil : ¬ BreaksAfter [] objects := by
  rintro ⟨-, item, h, -⟩
  rw [List.getElem?_nil] at h
  cases h

theorem breaksAfter_nil_iff : BreaksAfter (item :: items) [] ↔ ∀ ms, item ≠ .object ms := by
  constructor
  · rintro ⟨-, broken, hbroken, hrefused⟩
    obtain rfl := Option.some.inj hbroken
    exact hrefused
  · exact fun h => ⟨rfl, item, rfl, h⟩

theorem breaksAfter_cons_iff :
    BreaksAfter (item :: items) (ms :: objects) ↔ item = .object ms ∧ BreaksAfter items objects := by
  constructor
  · rintro ⟨hread, hrefused⟩
    obtain ⟨hitem, hitems⟩ := List.cons.inj hread
    exact ⟨hitem, hitems, hrefused⟩
  · rintro ⟨rfl, hitems, hrefused⟩
    exact ⟨congrArg _ hitems, hrefused⟩

/-- **Reading objects fails exactly at an item within the limit** that is none, while those before it
are. -/
theorem readObjects_eq_error_iff {index : Nat} :
    readObjects index limit items = .error cause ↔
      ∃ objects, BreaksAfter items objects ∧ cause = .notObject (index + objects.length) ∧
        ∀ n ∈ limit, objects.length < n := by
  induction items generalizing index limit with
  | nil =>
    rw [readObjects]
    exact iff_of_false pure_ne_error (not_exists.mpr fun _ => mt And.left not_breaksAfter_of_nil)
  | cons item items ih =>
    by_cases hlimit : limit = some 0
    · have hnone : readObjects index (some 0) (item :: items) = .ok [] := by cases item <;> rfl
      rw [hlimit, hnone]
      refine iff_of_false pure_ne_error ?_
      rintro ⟨objects, -, -, hwithin⟩
      exact Nat.not_lt_zero _ (hwithin 0 rfl)
    have hpos : ∀ n ∈ limit, 0 < n := fun n hn => Nat.pos_of_ne_zero fun h => hlimit (h ▸ hn)
    have hindex (k : Nat) : index + (k + 1) = index + 1 + k := by omega
    cases item with
    | object ms =>
      rw [readObjects, if_neg hlimit]
      simp only [bind_eq_error_iff, ih, forall_mem_pred_iff hlimit, pure_ne_error, and_false,
        exists_false, or_false]
      constructor
      · rintro ⟨objects, hbreaks, rfl, hwithin⟩
        exact ⟨ms :: objects, breaksAfter_cons_iff.mpr ⟨rfl, hbreaks⟩,
          congrArg _ (hindex objects.length).symm, hwithin⟩
      · rintro ⟨objects, hbreaks, rfl, hwithin⟩
        cases objects with
        | nil => exact absurd rfl (breaksAfter_nil_iff.mp hbreaks ms)
        | cons ms' objects =>
          exact ⟨objects, (breaksAfter_cons_iff.mp hbreaks).2, congrArg _ (hindex objects.length),
            hwithin⟩
    | null | bool | int | float | text | array =>
      rw [readObjects, if_neg hlimit]
      · constructor
        · intro h
          exact ⟨[], breaksAfter_nil_iff.mpr (by simp), (Except.error.inj h).symm, hpos⟩
        · rintro ⟨objects, hbreaks, rfl, -⟩
          cases objects with
          | nil => rfl
          | cons ms objects => cases (breaksAfter_cons_iff.mp hbreaks).1
      · simp

end Objects

/-- A JSON array is refused for an item only if its text stands for one whose first items are
objects. -/
theorem readJson_eq_notObject_iff {o : SourceOptions} {index : Nat} :
    readJson o bytes = .error (.notObject index) ↔
      ∃ text items objects, o.encoding.decode? bytes = some text ∧
        Json.ofText? text.toList = some (.array items) ∧ BreaksAfter items objects ∧
          objects.length = index ∧ ∀ n ∈ o.limit, index < n := by
  simp only [readJson, bind_eq_error_iff, decode_eq_error_iff, decode_eq_ok_iff, reduceCtorEq,
    false_and, false_or]
  constructor
  · rintro ⟨text, htext, h⟩
    split at h
    · cases h
    · next items hitems =>
      obtain h | ⟨_, -, h⟩ := bind_eq_error_iff.mp h
      · obtain ⟨objects, hbreaks, hcause, hwithin⟩ := readObjects_eq_error_iff.mp h
        obtain rfl : index = objects.length := by simpa using hcause
        exact ⟨text, items, objects, htext, hitems, hbreaks, rfl, hwithin⟩
      · cases h
    · cases h
  · rintro ⟨text, items, objects, htext, hitems, hbreaks, rfl, hwithin⟩
    refine ⟨text, htext, ?_⟩
    rw [hitems]
    refine bind_eq_error_iff.mpr (.inl (readObjects_eq_error_iff.mpr ⟨objects, hbreaks, ?_, hwithin⟩))
    rw [Nat.zero_add]

/-! ### Limits before a failure -/

/-- Delimited text that is refused for a record is read under every limit that ends before it. -/
theorem readDelimited_before {header : List Delimited.Field} {records : List (List Delimited.Field)}
    {headers : List String} {texts : List (List String)}
    (hrecords : Delimited.records delimiter bytes = header :: records)
    (hheaders : List.Forall₂ (fun f s => e.decode? f = some s) header headers)
    (hstops : StopsAfter e header.length 2 records texts cause) (hn : n ≤ texts.length) :
    readDelimited delimiter ⟨given, e, some n⟩ bytes =
      .ok ⟨headers, Table.ofRecords headers ((texts.take n).map (·.map Cell.text))⟩ := by
  have hread := List.forall₂_take n hstops.read
  rw [List.take_take, Nat.min_eq_left hn] at hread
  exact (readDelimited_eq_ok_iff hrecords).mpr ⟨hheaders, texts.take n, hread, rfl⟩

/-- A JSON array that is refused for an item is read under every limit that ends before it. -/
theorem readJson_before {text : String} {items : List Json} {objects : List (List (String × Json))}
    (htext : e.decode? bytes = some text) (hitems : Json.ofText? text.toList = some (.array items))
    (hbreaks : BreaksAfter items objects) (hn : n ≤ objects.length) :
    readJson ⟨given, e, some n⟩ bytes =
      .ok ⟨((objects.take n).head?.getD []).map (·.1), ⟨(objects.take n).map rowOfMembers⟩⟩ := by
  refine readJson_eq_ok_iff.mpr ⟨text, items, objects.take n, htext, hitems, ?_, rfl⟩
  rw [List.map_take, ← hbreaks.read, List.take_take, Nat.min_eq_left hn, limited]

/-- **A limit on the rows only cuts off.** Delimited text that is read without a limit or under one is
read under every smaller limit, with the same headers and exactly the first rows, and so is a JSON
array under limits of at least one row. If delimited text is refused without a limit, then for its
header and so under every limit, or for the first record that cannot be read: limits that end before
this record give exactly the first of the rows read before it, and all others fail alike. The same
holds for an array that is refused for its first item that is no object. -/
theorem limit_only_cuts_off (delimiter : UInt8) (given : Option UInt8) (e : Encoding)
    (bytes : List UInt8) :
    (∀ limit d, readDelimited delimiter ⟨given, e, limit⟩ bytes = .ok d →
      ∀ n, (∀ m ∈ limit, n ≤ m) →
        readDelimited delimiter ⟨given, e, some n⟩ bytes = .ok (d.first n)) ∧
    (∀ limit d, readJson ⟨given, e, limit⟩ bytes = .ok d →
      ∀ n, 1 ≤ n → (∀ m ∈ limit, n ≤ m) →
        readJson ⟨given, e, some n⟩ bytes = .ok (d.first n)) ∧
    (∀ cause, readDelimited delimiter ⟨given, e, none⟩ bytes = .error cause →
      ∃ header records, Delimited.records delimiter bytes = header :: records ∧
        ((cause = .undecodable e ∧ (∃ f ∈ header, e.decode? f = none) ∧
          ∀ n, readDelimited delimiter ⟨given, e, some n⟩ bytes = .error cause) ∨
        ∃ headers texts, List.Forall₂ (fun f s => e.decode? f = some s) header headers ∧
          StopsAfter e header.length 2 records texts cause ∧
          ∀ n, (n ≤ texts.length → readDelimited delimiter ⟨given, e, some n⟩ bytes =
              .ok ⟨headers, Table.ofRecords headers ((texts.take n).map (·.map Cell.text))⟩) ∧
            (texts.length < n →
              readDelimited delimiter ⟨given, e, some n⟩ bytes = .error cause))) ∧
    ∀ i, readJson ⟨given, e, none⟩ bytes = .error (.notObject i) →
      ∃ text items objects, e.decode? bytes = some text ∧
        Json.ofText? text.toList = some (.array items) ∧ BreaksAfter items objects ∧
        objects.length = i ∧
        ∀ n, (n ≤ i → readJson ⟨given, e, some n⟩ bytes =
            .ok ⟨((objects.take n).head?.getD []).map (·.1), ⟨(objects.take n).map rowOfMembers⟩⟩) ∧
          (i < n → readJson ⟨given, e, some n⟩ bytes = .error (.notObject i)) := by
  refine ⟨fun limit d h n hn => readDelimited_first h hn,
    fun limit d h n hpos hn => readJson_first h hpos hn, fun cause h => ?_, fun i h => ?_⟩
  · -- delimited text that is refused
    cases hrecords : Delimited.records delimiter bytes with
    | nil =>
      rw [readDelimited, hrecords] at h
      cases h
    | cons header records =>
      refine ⟨header, records, rfl, ?_⟩
      rcases (readDelimited_eq_error_iff hrecords).mp h with ⟨hcause, hf⟩ | hrecord
      · refine .inl ⟨hcause, hf, fun n => ?_⟩
        exact (readDelimited_eq_error_iff hrecords).mpr (.inl ⟨hcause, hf⟩)
      · obtain ⟨headers, texts, hheaders, hstops, -⟩ := hrecord
        refine .inr ⟨headers, texts, hheaders, hstops, fun n =>
          ⟨readDelimited_before hrecords hheaders hstops, fun hn => ?_⟩⟩
        exact (readDelimited_eq_error_iff hrecords).mpr
          (.inr ⟨headers, texts, hheaders, hstops, by rintro _ ⟨⟩; exact hn⟩)
  · -- an array that is refused
    obtain ⟨text, items, objects, htext, hitems, hbreaks, rfl, -⟩ := readJson_eq_notObject_iff.mp h
    refine ⟨text, items, objects, htext, hitems, hbreaks, rfl, fun n =>
      ⟨readJson_before htext hitems hbreaks, fun hn => ?_⟩⟩
    exact readJson_eq_notObject_iff.mpr
      ⟨text, items, objects, htext, hitems, hbreaks, rfl, by rintro _ ⟨⟩; exact hn⟩

/-- A short record in a foreign encoding and an item that is no object, each behind two rows. -/
theorem short_record_behind_limit :
    let windows1250 (bytes : List UInt8) : Option String :=
      some (String.ofList (bytes.map fun b => if b = 0xF8 then 'ř' else Char.ofNat b.toNat))
    let e : Encoding := .foreign "windows-1250" windows1250
    let lines : List UInt8 := [0x61, 0x2C, 0xF8, 0x0A, 0x31, 0x2C, 0x32, 0x0A, 0x33, 0x2C, 0xF8, 0x0A,
      0x35, 0x0A]
    let rows : List (List Cell) := [[.text "1", .text "2"], [.text "3", .text "ř"]]
    let array := Encoding.utf8Bytes "[\x7b\"a\":true\x7d,\x7b\"b\":null\x7d,false]"
    let objects : Table := ⟨[rowOfMembers [("a", .bool true)], rowOfMembers [("b", .null)]]⟩
    (readDelimited 0x2C ⟨none, e, none⟩ lines = .error (.unevenRecord 4 2 1) ∧
      readDelimited 0x2C ⟨none, e, some 3⟩ lines = .error (.unevenRecord 4 2 1) ∧
      readDelimited 0x2C ⟨none, e, some 2⟩ lines = .ok ⟨["a", "ř"], .ofRecords ["a", "ř"] rows⟩ ∧
      readDelimited 0x2C ⟨none, e, some 1⟩ lines =
        .ok ⟨["a", "ř"], .ofRecords ["a", "ř"] (rows.take 1)⟩) ∧
    readJson ⟨none, .utf8, none⟩ array = .error (.notObject 2) ∧
    readJson ⟨none, .utf8, some 3⟩ array = .error (.notObject 2) ∧
    readJson ⟨none, .utf8, some 2⟩ array = .ok ⟨["a"], objects⟩ ∧
    readJson ⟨none, .utf8, some 1⟩ array = .ok ⟨["a"], ⟨objects.rows.take 1⟩⟩ := by
  intro windows1250 e lines rows array objects
  have hrecords : Delimited.records 0x2C lines =
      [[[0x61], [0xF8]], [[0x31], [0x32]], [[0x33], [0xF8]], [[0x35]]] := by decide
  have hheaders : List.Forall₂ (fun f s => e.decode? f = some s) [[0x61], [0xF8]] ["a", "ř"] :=
    .cons rfl (.cons rfl .nil)
  have hlines : readDelimited 0x2C ⟨none, e, none⟩ lines = .error (.unevenRecord 4 2 1) := by
    refine (readDelimited_eq_error_iff hrecords).mpr (.inr ⟨["a", "ř"], [["1", "2"], ["3", "ř"]],
      hheaders, ⟨?_, _, rfl, .uneven (by decide)⟩, nofun⟩)
    exact .cons ⟨rfl, .cons rfl (.cons rfl .nil)⟩ (.cons ⟨rfl, .cons rfl (.cons rfl .nil)⟩ .nil)
  have hread : readDelimited 0x2C ⟨none, e, some 2⟩ lines =
      .ok ⟨["a", "ř"], .ofRecords ["a", "ř"] rows⟩ := by
    refine (readDelimited_eq_ok_iff hrecords).mpr ⟨hheaders, [["1", "2"], ["3", "ř"]], ?_, rfl⟩
    exact .cons ⟨rfl, .cons rfl (.cons rfl .nil)⟩ (.cons ⟨rfl, .cons rfl (.cons rfl .nil)⟩ .nil)
  have hwritten : Source.read "[\x7b\"a\":true\x7d,\x7b\"b\":null\x7d,false]".toList =
      some (.array [.object [([.char 'a'], .bool true)], .object [([.char 'b'], .null)],
        .bool false]) := by rfl
  have hitems : Json.ofText? "[\x7b\"a\":true\x7d,\x7b\"b\":null\x7d,false]".toList =
      some (.array [.object [("a", .bool true)], .object [("b", .null)], .bool false]) := by
    rw [Json.ofText?, hwritten]
    rfl
  have htext : Encoding.utf8.decode? array = _ := Encoding.decode?_utf8Bytes (by decide)
  have harray : readJson ⟨none, .utf8, none⟩ array = .error (.notObject 2) :=
    readJson_eq_notObject_iff.mpr ⟨_, _, [[("a", .bool true)], [("b", .null)]], htext, hitems,
      ⟨rfl, _, rfl, nofun⟩, rfl, nofun⟩
  have hobjects : readJson ⟨none, .utf8, some 2⟩ array = .ok ⟨["a"], objects⟩ :=
    readJson_eq_ok_iff.mpr ⟨_, _, [[("a", .bool true)], [("b", .null)]], htext, hitems, rfl, rfl⟩
  have ⟨hfirst, _, hrefused, _⟩ := limit_only_cuts_off 0x2C none e lines
  have ⟨_, hfirst', _, hrefused'⟩ := limit_only_cuts_off 0x2C none .utf8 array
  obtain ⟨_, _, -, ⟨hcause, -⟩ | ⟨_, texts, -, ⟨-, _, -, hshort⟩, hlimits⟩⟩ := hrefused _ hlines
  · exact nomatch hcause
  -- the row of the short record tells how many were read before it
  have htexts : texts.length = 2 := by
    generalize hcause : ReadError.unevenRecord 4 2 1 = cause at hshort
    cases hshort with
    | uneven =>
      have hrow := (ReadError.unevenRecord.inj hcause).1
      omega
    | undecodable => exact nomatch hcause
  obtain ⟨_, _, _, -, -, -, -, hlimits'⟩ := hrefused' _ harray
  exact ⟨⟨hlines, (hlimits 3).2 (by omega), hread, hfirst _ _ hread 1 (by decide)⟩,
    harray, (hlimits' 3).2 (by decide), hobjects, hfirst' _ _ hobjects 1 (by decide) (by decide)⟩

end Dataset

end Tabular
