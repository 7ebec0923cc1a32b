import Mathlib.Data.List.Forall2
import Tabular.Dataset

/-!
# When a source can be read

The readers look at records one by one and stop at the first failure or at the limit. What they
accept can be said without that order: **reading succeeds exactly if every part within the limit can
be read** (`Dataset.readDelimited_eq_ok_iff`, `Dataset.readJson_eq_ok_iff`). Records behind the limit
are not looked at; items of a JSON array behind it must still be well-formed, but may be anything.
-/

namespace Tabular

namespace Dataset

variable {α β ε : Type} {e : Encoding} {limit : Option Nat}

private theorem bind_eq_ok_iff {x : Except ε α} {f : α → Except ε β} {y : β} :
    (x >>= f) = .ok y ↔ ∃ a, x = .ok a ∧ f a = .ok y := by
  cases x with
  | error cause => simp [bind, Except.bind]
  | ok a => simp [bind, Except.bind]

/-! ### Limits -/

/-- The items of a list that a limit lets through. -/
def limited (limit : Option Nat) (xs : List α) : List α :=
  match limit with
  | none => xs
  | some n => xs.take n

@[simp] theorem limited_nil : limited limit ([] : List α) = [] := by
  cases limit <;> simp [limited]

@[simp] theorem limited_zero (xs : List α) : limited (some 0) xs = [] := rfl

theorem limited_cons (h : limit ≠ some 0) (x : α) (xs : List α) :
    limited limit (x :: xs) = x :: limited (limit.map (· - 1)) xs := by
  match limit, h with
  | none, _ => rfl
  | some (n + 1), _ => rfl

/-- Lists related item by item are so within a limit. -/
theorem forall₂_limited {R : α → β → Prop} {xs : List α} {ys : List β} (h : List.Forall₂ R xs ys) :
    List.Forall₂ R (limited limit xs) (limited limit ys) := by
  cases limit with
  | none => exact h
  | some n => exact List.forall₂_take n h

theorem mem_of_mem_limited {x : α} {xs : List α} (h : x ∈ limited limit xs) : x ∈ xs := by
  cases limit with
  | none => exact h
  | some n => exact List.mem_of_mem_take h

/-- What is related to the items of a list is related to one of them each. -/
theorem exists_mem_of_forall₂ {R : α → β → Prop} {xs : List α} {ys : List β}
    (h : List.Forall₂ R xs ys) {y : β} (hy : y ∈ ys) : ∃ x ∈ xs, R x y := by
  induction h with
  | nil => exact absurd hy List.not_mem_nil
  | cons hxy _ ih =>
    rcases List.mem_cons.mp hy with rfl | hy
    · exact ⟨_, List.mem_cons_self, hxy⟩
    · obtain ⟨x, hx, hR⟩ := ih hy
      exact ⟨x, List.mem_cons_of_mem _ hx, hR⟩

/-! ### Delimited text -/

theorem decode_eq_ok_iff {bytes : List UInt8} {s : String} :
    decode e bytes = .ok s ↔ e.decode? bytes = some s := by
  rw [decode]
  cases e.decode? bytes <;> simp

/-- A record is read field by field. -/
theorem decodeRecord_eq_ok_iff : ∀ {fs : List Delimited.Field} {ss : List String},
    decodeRecord e fs = .ok ss ↔ List.Forall₂ (fun f s => e.decode? f = some s) fs ss
  | [], ss => by
    rw [decodeRecord, List.forall₂_nil_left_iff]
    exact ⟨fun h => (Except.ok.inj h).symm, fun h => h ▸ rfl⟩
  | f :: fs, ss => by
    simp only [decodeRecord, bind_eq_ok_iff, decode_eq_ok_iff, decodeRecord_eq_ok_iff,
      List.forall₂_cons_left_iff]
    constructor
    · rintro ⟨s, hs, ss', hss, h⟩
      exact ⟨s, ss', hs, hss, (Except.ok.inj h).symm⟩
    · rintro ⟨s, ss', hs, hss, rfl⟩
      exact ⟨s, hs, ss', hss, rfl⟩

/-- The texts are those of the fields of a record, of which there are `width`. -/
structure RecordReadAs (e : Encoding) (width : Nat) (record : List Delimited.Field)
    (texts : List String) : Prop where
  length_eq : record.length = width
  decoded : List.Forall₂ (fun f s => e.decode? f = some s) record texts

/-- Records within the limit must have the right width and be readable. -/
theorem readRecords_eq_ok_iff {width : Nat} : ∀ {records : List (List Delimited.Field)} {row : Nat}
    {limit : Option Nat} {texts : List (List String)},
    readRecords e width row limit records = .ok texts ↔
      List.Forall₂ (RecordReadAs e width) (limited limit records) texts
  | [], row, limit, texts => by
    rw [readRecords, limited_nil, List.forall₂_nil_left_iff]
    exact ⟨fun h => (Except.ok.inj h).symm, fun h => h ▸ rfl⟩
  | record :: records, row, limit, texts => by
    rw [readRecords]
    by_cases hlimit : limit = some 0
    · rw [if_pos hlimit, hlimit, limited_zero, List.forall₂_nil_left_iff]
      exact ⟨fun h => (Except.ok.inj h).symm, fun h => h ▸ rfl⟩
    rw [if_neg hlimit, limited_cons hlimit, List.forall₂_cons_left_iff]
    by_cases hwidth : record.length = width
    · simp only [if_pos hwidth, bind_eq_ok_iff, decodeRecord_eq_ok_iff, readRecords_eq_ok_iff]
      constructor
      · rintro ⟨ss, hss, texts', htexts, h⟩
        exact ⟨ss, texts', ⟨hwidth, hss⟩, htexts, (Except.ok.inj h).symm⟩
      · rintro ⟨ss, texts', hss, htexts, rfl⟩
        exact ⟨ss, hss.decoded, texts', htexts, rfl⟩
    · rw [if_neg hwidth]
      exact iff_of_false nofun fun ⟨_, _, h, _⟩ => hwidth h.length_eq

/-- **What the reader of delimited text accepts**, and the data set it gives: the first record is
the header, and the records within the limit make up the rows. -/
theorem readDelimited_eq_ok_iff {delimiter : UInt8} {o : SourceOptions} {bytes : List UInt8}
    {d : Dataset} {header : List Delimited.Field} {records : List (List Delimited.Field)}
    (h : Delimited.records delimiter bytes = header :: records) :
    readDelimited delimiter o bytes = .ok d ↔
      List.Forall₂ (fun f s => o.encoding.decode? f = some s) header d.headers ∧
        ∃ texts, List.Forall₂ (RecordReadAs o.encoding header.length) (limited o.limit records)
          texts ∧ d.table = Table.ofRecords d.headers (texts.map (·.map Cell.text)) := by
  simp only [readDelimited, h, bind_eq_ok_iff, decodeRecord_eq_ok_iff, readRecords_eq_ok_iff]
  obtain ⟨headers, table⟩ := d
  constructor
  · rintro ⟨headers', hheaders, texts, htexts, hd⟩
    obtain ⟨rfl, rfl⟩ := Dataset.mk.inj (Except.ok.inj hd)
    exact ⟨hheaders, texts, htexts, rfl⟩
  · rintro ⟨hheaders, texts, htexts, htable⟩
    exact ⟨headers, hheaders, texts, htexts,
      congrArg (fun t => Except.ok (Dataset.mk headers t)) htable.symm⟩

/-! ### JSON -/

/-- The items within the limit must be objects. -/
theorem readObjects_eq_ok_iff : ∀ {items : List Json} {index : Nat} {limit : Option Nat}
    {objects : List (List (String × Json))},
    readObjects index limit items = .ok objects ↔ limited limit items = objects.map Json.object
  | [], index, limit, objects => by
    rw [readObjects, limited_nil, eq_comm (a := []), List.map_eq_nil_iff]
    exact ⟨fun h => (Except.ok.inj h).symm, fun h => h ▸ rfl⟩
  | item :: items, index, limit, objects => by
    by_cases hlimit : limit = some 0
    · have hnone : readObjects index (some 0) (item :: items) = .ok [] := by cases item <;> rfl
      rw [hlimit, hnone, limited_zero, eq_comm (a := []), List.map_eq_nil_iff]
      exact ⟨fun h => (Except.ok.inj h).symm, fun h => h ▸ rfl⟩
    rw [limited_cons hlimit, eq_comm (a := item :: _), List.map_eq_cons_iff]
    cases item with
    | object ms =>
      rw [readObjects, if_neg hlimit]
      simp only [bind_eq_ok_iff, readObjects_eq_ok_iff]
      constructor
      · rintro ⟨objects', hobjects, h⟩
        exact ⟨ms, objects', (Except.ok.inj h).symm, rfl, hobjects.symm⟩
      · rintro ⟨ms', objects', rfl, hms, hobjects⟩
        exact ⟨objects', hobjects.symm, by rw [Json.object.inj hms]; rfl⟩
    | null | bool | int | float | text | array =>
      rw [readObjects, if_neg hlimit]
      · exact iff_of_false nofun fun ⟨_, _, _, h, _⟩ => nomatch h
      · exact nofun

/-- **What the reader of JSON accepts**, and the data set it gives: the whole text must stand for an
array, and the items within the limit make up the rows. -/
theorem readJson_eq_ok_iff {o : SourceOptions} {bytes : List UInt8} {d : Dataset} :
    readJson o bytes = .ok d ↔
      ∃ text items, ∃ objects : List (List (String × Json)), o.encoding.decode? bytes = some text ∧
        Json.ofText? text.toList = some (.array items) ∧
          limited o.limit items = objects.map Json.object ∧
            d = ⟨(objects.head?.getD []).map (·.1), ⟨objects.map rowOfMembers⟩⟩ := by
  simp only [readJson, bind_eq_ok_iff, decode_eq_ok_iff]
  constructor
  · rintro ⟨text, htext, h⟩
    split at h
    · cases h
    · next items hitems =>
      obtain ⟨objects, hobjects, hd⟩ := bind_eq_ok_iff.mp h
      refine ⟨text, items, objects, htext, hitems, readObjects_eq_ok_iff.mp hobjects, ?_⟩
      cases objects with
      | nil => exact (Except.ok.inj hd).symm
      | cons ms objects => exact (Except.ok.inj hd).symm
    · cases h
  · rintro ⟨text, items, objects, htext, hitems, hobjects, rfl⟩
    refine ⟨text, htext, ?_⟩
    rw [hitems]
    refine bind_eq_ok_iff.mpr ⟨objects, readObjects_eq_ok_iff.mpr hobjects, ?_⟩
    cases objects with
    | nil => rfl
    | cons ms objects => rfl

/-! ### Files -/

/-- A file that is not read as JSON is read as delimited text. -/
theorem readDelimited_of_load {path : String} {o : SourceOptions} {contents : Option (List UInt8)}
    {d : Dataset} (hpath : isJsonPath path = false) (h : load path o contents = .ok d) :
    ∃ bytes, contents = some bytes ∧
      readDelimited (delimiterFor path o.delimiter) o bytes = .ok d := by
  cases contents with
  | none => exact nomatch h
  | some bytes =>
    rw [load, hpath, if_neg Bool.false_ne_true] at h
    cases hd : readDelimited (delimiterFor path o.delimiter) o bytes with
    | error cause => simp [hd] at h
    | ok d' =>
      refine ⟨bytes, rfl, ?_⟩
      simp only [hd] at h
      split at h
      · exact nomatch h
      · exact hd.trans (congrArg Except.ok (Except.ok.inj h))

end Dataset

end Tabular
