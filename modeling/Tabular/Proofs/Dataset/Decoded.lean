import Mathlib.Data.Set.List
import Tabular.Proofs.Dataset.Reading
import Tabular.Proofs.Encoding
import Tabular.Proofs.Json.Readable
import Tabular.Proofs.Keyed

/-!
# Tables decoded and tables read

A table in JSON is taken in by two ways. The decoder goes through a text level by level and wants a
plain value in every cell. The reader of data sets takes the document of the whole text and keeps
arrays and objects as their texts. A name that an object repeats is in its document only once, with
the last value, but this is also what counts in the row (`Dataset.rowOfMembers_foldl_setMember`),
and both ways choose the same cell for a plain value (`Cell.decode?_excerpt_iff`). Hence **what is
decoded as a table is read as the same table**, and the decoder refuses, of all that is read,
exactly the arrays of objects in which a member is an array or an object itself
(`Dataset.table_readers_agree`).
-/

namespace Tabular

open Layered

/-! ### Members that are set -/

namespace Json

theorem nodup_foldl_setMember (ms : List (String × Json)) :
    ((ms.foldl (fun ms m => setMember ms m.1 m.2) []).map (·.1)).Nodup := by
  induction ms using List.reverseRecOn with
  | nil => exact List.nodup_nil
  | append_singleton ms m ih =>
    rw [List.foldl_append, List.foldl_cons, List.foldl_nil, names_setMember]
    split
    next => exact ih
    next h =>
      refine List.nodup_append.mpr ⟨ih, List.nodup_singleton _, ?_⟩
      rintro k hk _ hm rfl
      exact h (List.mem_singleton.mp hm ▸ hk)

theorem lookup_setMember (c k : String) (x : Json) : ∀ ms : List (String × Json),
    (setMember ms k x).lookup c = if c = k then some x else ms.lookup c
  | [] => by by_cases h : c = k <;> simp [setMember, List.lookup_cons, h, beq_false_of_ne]
  | (k', y) :: ms => by
    rw [setMember]
    by_cases hk : k' = k
    · by_cases h : c = k <;> simp [List.lookup_cons, hk, h, beq_false_of_ne]
    · rw [if_neg hk, List.lookup_cons, List.lookup_cons, lookup_setMember c k x ms]
      by_cases h : c = k'
      · simp [h, hk]
      · simp [beq_false_of_ne h]

end Json

namespace Dataset

variable {ms : List (String × Json)} {c : String}

theorem rowOfMembers_concat (ms : List (String × Json)) (m : String × Json) :
    rowOfMembers (ms ++ [m]) = (rowOfMembers ms).insert m.1 (Cell.ofJson m.2) := by
  rw [rowOfMembers, List.map_append, List.map_singleton, Keyed.ofList_concat, rowOfMembers]

/-- Of the members of a name the last one gives the cell. -/
theorem get?_rowOfMembers_append_cons {x : Json} {after : List (String × Json)}
    (h : c ∉ after.map (·.1)) :
    (rowOfMembers (ms ++ (c, x) :: after)).get? c = some (Cell.ofJson x) := by
  rw [rowOfMembers, List.map_append, List.map_cons]
  refine Keyed.get?_ofList_append_cons c _ _ ?_
  rwa [List.map_map]

theorem get?_rowOfMembers_of_nodup (h : (ms.map (·.1)).Nodup) :
    (rowOfMembers ms).get? c = (ms.lookup c).map Cell.ofJson := by
  cases hc : ms.lookup c with
  | none =>
    rw [Option.map_none, Keyed.get?_eq_none_iff, rowOfMembers, Keyed.mem_keys_ofList, List.map_map,
      List.mem_map]
    rintro ⟨m, hm, rfl⟩
    simpa using List.lookup_eq_none_iff.mp hc m hm
  | some x =>
    obtain ⟨before, after, rfl, -⟩ := List.lookup_eq_some_iff.mp hc
    rw [List.map_append, List.map_cons, List.nodup_middle, List.nodup_cons, List.mem_append,
      not_or] at h
    exact get?_rowOfMembers_append_cons h.1.2

/-- **An object without the members that are replaced** gives the same row. -/
theorem rowOfMembers_foldl_setMember (ms : List (String × Json)) :
    rowOfMembers (ms.foldl (fun ms m => Json.setMember ms m.1 m.2) []) = rowOfMembers ms := by
  induction ms using List.reverseRecOn with
  | nil => rfl
  | append_singleton ms m ih =>
    have hn := Json.nodup_foldl_setMember (ms ++ [m])
    refine Keyed.ext_get? fun c => ?_
    rw [List.foldl_append, List.foldl_cons, List.foldl_nil] at hn ⊢
    rw [get?_rowOfMembers_of_nodup hn, Json.lookup_setMember, rowOfMembers_concat,
      Keyed.get?_insert, ← ih, get?_rowOfMembers_of_nodup (Json.nodup_foldl_setMember ms)]
    split <;> rfl

end Dataset

/-! ### Values -/

namespace Source

/-- An array or an object. -/
def isNested : Source → Bool
  | array _ | object _ => true
  | _ => false

/-- The members of an object. -/
def members : Source → List (List Piece × Source)
  | object ms => ms
  | _ => []

/-- No member value is nested. -/
def isFlat (s : Source) : Bool := s.members.all (!·.2.isNested)

end Source

variable {levels : Nat}

namespace Layered

variable {δ : Type} [Layered δ] {d : δ}

theorem items?_eq_some_iff {xs : List δ} : items? d = some xs ↔ layer d = some (.array xs) := by
  rw [items?]
  split <;> simp_all

theorem members?_eq_some_iff {ms : List (String × δ)} :
    members? d = some ms ↔ layer d = some (.object ms) := by
  rw [members?]
  split <;> simp_all

end Layered

namespace Excerpt

theorem layer_eq (e : Excerpt) : Layered.layer e = e.layer := rfl

/-- An array is seen where a level is left. -/
theorem items?_eq_some_iff {s : Source} {xs : List Excerpt} :
    Layered.items? (⟨levels, s⟩ : Excerpt) = some xs ↔
      ∃ items, s = .array items ∧ levels ≠ 0 ∧ items.map (⟨levels - 1, ·⟩) = xs := by
  rw [Layered.items?_eq_some_iff, layer_eq, layer]
  cases s <;> simp [Numeral.layer?_ne_array]

/-- An object is seen where a level is left, if its names are spelled out. -/
theorem members?_eq_some_iff {s : Source} {ms : List (String × Excerpt)} :
    Layered.members? (⟨levels, s⟩ : Excerpt) = some ms ↔
      ∃ members, s = .object members ∧ levels ≠ 0 ∧ members? (levels - 1) members = some ms := by
  rw [Layered.members?_eq_some_iff, layer_eq, layer]
  cases s <;> simp [Numeral.layer?_ne_object]

end Excerpt

/-- **A cell is decoded from any value that is not nested**, and is then the cell of its document.
-/
theorem Cell.decode?_excerpt_iff {x : Source} {c : Cell} :
    decode? (⟨levels, x⟩ : Excerpt) = some c ↔
      x.isNested = false ∧ ∃ j, x.json? levels = some j ∧ ofJson j = c := by
  rw [decode?, Excerpt.layer_eq, Excerpt.layer]
  cases x with
  | null | bool => simp [Source.isNested, Source.json?, ofJson]
  | number n =>
    simp only [Source.isNested, Source.json?, Numeral.json?, true_and]
    obtain ⟨i, -, hn⟩ | hn := n.layer?_cases
    · simp [hn, ofJson]
    · rw [hn, hn]
      cases n.float? <;> simp [ofJson]
  | string ps =>
    simp only [Source.isNested, Source.json?, true_and]
    cases Source.text? ps <;> simp [ofJson]
  | array items =>
    refine iff_of_false ?_ (by simp [Source.isNested])
    by_cases hlevels : levels = 0 <;> simp [hlevels]
  | object members =>
    refine iff_of_false ?_ (by simp [Source.isNested])
    by_cases hlevels : levels = 0
    · simp [hlevels]
    · cases Excerpt.members? (levels - 1) members <;> simp [hlevels]

/-- An array or an object is kept as its compact text. -/
theorem Cell.ofJson_of_isNested {x : Source} {j : Json} (hx : x.isNested)
    (h : x.json? levels = some j) : ofJson j = .text j.toText := by
  cases x with
  | array items =>
    simp only [Source.json?, Option.ite_none_left_eq_some, Option.map_eq_some_iff] at h
    obtain ⟨-, js, -, rfl⟩ := h
    rfl
  | object members =>
    simp only [Source.json?, Option.ite_none_left_eq_some, Option.map_eq_some_iff] at h
    obtain ⟨-, ms, -, rfl⟩ := h
    rfl
  | null | bool | number | string => exact absurd hx Bool.false_ne_true

/-! ### Rows -/

namespace Table

/-- Members are decoded one by one, as their documents are put together. -/
private theorem decodeMembers_eq_some_iff : ∀ {members : List (List Piece × Source)}
    {es : List (String × Cell)},
    (Excerpt.members? levels members).bind
        (·.mapM fun m => (Cell.decode? m.2).map (m.1, ·)) = some es ↔
      (∀ m ∈ members, m.2.isNested = false) ∧ ∃ ms, Source.jsonMembers? levels members = some ms ∧
        ms.map (fun m => (m.1, Cell.ofJson m.2)) = es
  | [], es => by simp [Excerpt.members?, Source.jsonMembers?]
  | (k, x) :: members, es => by
    have ih := @decodeMembers_eq_some_iff members
    simp only [Option.bind_eq_some_iff] at ih
    simp only [Excerpt.members?, List.mapM_cons, Source.jsonMembers?, Option.bind_eq_bind,
      Option.bind_eq_some_iff, Option.map_eq_some_iff, Option.pure_def, Option.some_inj,
      List.forall_mem_cons]
    constructor
    · rintro ⟨ms, ⟨_, ⟨name, hname, rfl⟩, ms', hms', rfl⟩, hes⟩
      simp only [List.mapM_cons, Option.bind_eq_bind, Option.bind_eq_some_iff,
        Option.map_eq_some_iff, Option.pure_def, Option.some_inj] at hes
      obtain ⟨_, ⟨c, hc, rfl⟩, es', hes', rfl⟩ := hes
      obtain ⟨hx, j, hj, rfl⟩ := Cell.decode?_excerpt_iff.mp hc
      obtain ⟨hflat, js, hjs, rfl⟩ := ih.mp ⟨ms', hms', hes'⟩
      exact ⟨⟨hx, hflat⟩, (name, j) :: js, ⟨name, hname, j, hj, js, hjs, rfl⟩, rfl⟩
    · rintro ⟨⟨hx, hflat⟩, _, ⟨name, hname, j, hj, js, hjs, rfl⟩, rfl⟩
      have hc := Cell.decode?_excerpt_iff.mpr ⟨hx, j, hj, rfl⟩
      obtain ⟨ms', hms', hes'⟩ := ih.mpr ⟨hflat, js, hjs, rfl⟩
      refine ⟨_, ⟨_, ⟨name, hname, rfl⟩, ms', hms', rfl⟩, ?_⟩
      simp [hc, hes']

/-- **A row is decoded from a flat object**, and is then the row of its document. -/
theorem decodeRow?_excerpt_iff {item : Source} {row : Row} :
    decodeRow? (⟨levels, item⟩ : Excerpt) = some row ↔
      item.isFlat ∧ ∃ ms, item.json? levels = some (.object ms) ∧
        Dataset.rowOfMembers ms = row := by
  simp only [decodeRow?, Option.bind_eq_bind, Option.bind_eq_some_iff, Option.pure_def,
    Option.some_inj, Excerpt.members?_eq_some_iff, Source.json?_eq_object_iff]
  have hflat (members : List (List Piece × Source)) :
      (Source.object members).isFlat ↔ ∀ m ∈ members, m.2.isNested = false := by
    simp [Source.isFlat, Source.members]
  constructor
  · rintro ⟨ms, ⟨members, rfl, hlevels, hms⟩, es, hes, rfl⟩
    obtain ⟨hnested, js, hjs, rfl⟩ :=
      decodeMembers_eq_some_iff.mp (Option.bind_eq_some_iff.mpr ⟨ms, hms, hes⟩)
    exact ⟨(hflat members).mpr hnested, _, ⟨members, rfl, hlevels, js, hjs, rfl⟩,
      Dataset.rowOfMembers_foldl_setMember js⟩
  · rintro ⟨hnested, ms, ⟨members, rfl, hlevels, js, hjs, rfl⟩, rfl⟩
    obtain ⟨ms, hms, hes⟩ := Option.bind_eq_some_iff.mp
      (decodeMembers_eq_some_iff.mpr ⟨(hflat members).mp hnested, js, hjs, rfl⟩)
    exact ⟨ms, ⟨members, rfl, hlevels, hms⟩, _, hes,
      (Dataset.rowOfMembers_foldl_setMember js).symm⟩

/-! ### Tables -/

/-- Items are decoded one by one, as their documents are put together. -/
private theorem decodeItems_eq_some_iff : ∀ {items : List Source} {rows : List Row},
    items.mapM (fun item => decodeRow? (⟨levels, item⟩ : Excerpt)) = some rows ↔
      (∀ item ∈ items, item.isFlat) ∧ ∃ objects : List (List (String × Json)),
        Source.jsonItems? levels items = some (objects.map Json.object) ∧
          objects.map Dataset.rowOfMembers = rows
  | [], rows => by simp [Source.jsonItems?]
  | item :: items, rows => by
    have ih := @decodeItems_eq_some_iff items
    simp only [List.mapM_cons, Option.bind_eq_bind, Option.bind_eq_some_iff, Option.pure_def,
      Option.some_inj, ih, decodeRow?_excerpt_iff, Source.jsonItems?, List.forall_mem_cons]
    constructor
    · rintro ⟨_, ⟨hitem, ms, hms, rfl⟩, _, ⟨hitems, objects, hobjects, rfl⟩, rfl⟩
      exact ⟨⟨hitem, hitems⟩, ms :: objects, ⟨_, hms, _, hobjects, rfl⟩, rfl⟩
    · rintro ⟨⟨hitem, hitems⟩, objects, ⟨j, hj, js, hjs, heq⟩, rfl⟩
      cases objects with
      | nil => cases heq
      | cons ms objects =>
        obtain ⟨rfl, rfl⟩ := List.cons.inj heq
        exact ⟨_, ⟨hitem, ms, hj, rfl⟩, _, ⟨hitems, objects, hjs, rfl⟩, rfl⟩

/-- **A table is decoded from an array of flat objects**, and has the rows of their documents. -/
theorem decode?_excerpt_iff {s : Source} {t : Table} : decode? (⟨levels, s⟩ : Excerpt) = some t ↔
    ∃ items, s = .array items ∧ (∀ item ∈ items, item.isFlat) ∧
      ∃ objects : List (List (String × Json)),
        s.json? levels = some (.array (objects.map Json.object)) ∧
          t = ⟨objects.map Dataset.rowOfMembers⟩ := by
  simp only [decode?, list?, Option.map_eq_some_iff, Option.bind_eq_some_iff,
    Excerpt.items?_eq_some_iff, Source.json?_eq_array_iff]
  constructor
  · rintro ⟨rows, ⟨_, ⟨items, rfl, hlevels, rfl⟩, hrows⟩, rfl⟩
    rw [List.mapM_map] at hrows
    obtain ⟨hflat, objects, hobjects, rfl⟩ := decodeItems_eq_some_iff.mp hrows
    exact ⟨items, rfl, hflat, objects, ⟨items, rfl, hlevels, hobjects⟩, rfl⟩
  · rintro ⟨items, rfl, hflat, objects, ⟨_, heq, hlevels, hobjects⟩, rfl⟩
    obtain rfl := Source.array.inj heq
    refine ⟨_, ⟨_, ⟨items, rfl, hlevels, rfl⟩, ?_⟩, rfl⟩
    rw [List.mapM_map]
    exact decodeItems_eq_some_iff.mpr ⟨hflat, objects, hobjects, rfl⟩

/-- **What is decoded as a table** is a text that stands for an array of objects, of which all are
flat as they are written. -/
theorem decode?_ofText?_iff {s : List Char} {t : Table} :
    (Excerpt.ofText? s).bind decode? = some t ↔
      ∃ items, Source.read s = some (.array items) ∧ (∀ item ∈ items, item.isFlat) ∧
        ∃ objects : List (List (String × Json)),
          Json.ofText? s = some (.array (objects.map Json.object)) ∧
            t = ⟨objects.map Dataset.rowOfMembers⟩ := by
  rw [Excerpt.ofText?, Json.ofText?]
  cases Source.read s with
  | none => simp
  | some source => simp [decode?_excerpt_iff]

end Table

/-! ### Readers -/

/-- No JSON text begins with a mark. -/
theorem Source.head?_ne_mark {s : List Char} (h : (read s).isSome) : s.head? ≠ some '\uFEFF' := by
  rintro hmark
  obtain ⟨rest, rfl⟩ := List.head?_eq_some_iff.mp hmark
  have hgap : skipGap ('\uFEFF' :: rest) = '\uFEFF' :: rest := rfl
  have hnone : read ('\uFEFF' :: rest) = none := by
    simp [read, readValue, hgap, readNumeral, whole?, digits?, Number.takeDigits, Number.isDigit]
  rw [hnone] at h
  exact Bool.false_ne_true h

namespace Dataset

open Encoding

variable {s : String} {given : Option UInt8} {items : List Source}

/-- The reader of a text that stands for an array of objects. -/
theorem readJson_utf8Bytes {objects : List (List (String × Json))}
    (h : Json.ofText? s.toList = some (.array (objects.map Json.object))) :
    ∃ d, readJson ⟨given, .utf8, none⟩ (utf8Bytes s) = .ok d ∧
      d.table = ⟨objects.map rowOfMembers⟩ := by
  obtain ⟨source, hsource, -⟩ := Option.bind_eq_some_iff.mp h
  have hmark := Source.head?_ne_mark (Option.isSome_of_mem hsource)
  exact ⟨_, readJson_eq_ok_iff.mpr ⟨s, _, objects, decode?_utf8Bytes hmark, h, rfl, rfl⟩, rfl⟩

/-- The reader refuses a text that stands for no document. -/
theorem readJson_eq_notJson {source : Source} (hread : Source.read s.toList = some source)
    (h : ¬ source.Readable Source.maxNesting) :
    readJson ⟨given, .utf8, none⟩ (utf8Bytes s) = .error .notJson := by
  have hmark := Source.head?_ne_mark (Option.isSome_of_mem hread)
  have hdecode : decode .utf8 (utf8Bytes s) = .ok s :=
    decode_eq_ok_iff.mpr (decode?_utf8Bytes hmark)
  have hnone : Json.ofText? s.toList = none := by
    rw [← Source.isSome_json?_iff, Option.not_isSome_iff_eq_none] at h
    rw [Json.ofText?, hread, Option.bind_some, h]
  rw [readJson, hdecode]
  simp only [bind, Except.bind, hnone]

/-- Of two lists side by side, an element of the first one has its partner in the second. -/
private theorem forall₂_append_cons_left {α β : Type} {R : α → β → Prop} {a : α} {after : List α} :
    ∀ {before : List α} {l : List β}, List.Forall₂ R (before ++ a :: after) l →
      ∃ before' b after', l = before' ++ b :: after' ∧ R a b ∧ List.Forall₂ R after after'
  | [], l, h => by
    obtain ⟨b, after', hab, hafter, rfl⟩ := List.forall₂_cons_left_iff.mp h
    exact ⟨[], b, after', rfl, hab, hafter⟩
  | _ :: before, l, h => by
    obtain ⟨b', l, -, hrest, rfl⟩ := List.forall₂_cons_left_iff.mp h
    obtain ⟨before', b, after', rfl, hfound⟩ := forall₂_append_cons_left hrest
    exact ⟨b' :: before', b, after', rfl, hfound⟩

/-- The row keeps arrays and objects of an object as their compact texts, each under its name unless
a later member has the name. -/
def KeepsNested (levels : Nat) (item : Source) (row : Row) : Prop :=
  ∀ before k x after, item = .object (before ++ (k, x) :: after) → x.isNested →
    ∀ name, Source.text? k = some name → (∀ m ∈ after, Source.text? m.1 ≠ some name) →
      ∃ j, x.json? levels = some j ∧ row.get? name = some (.text j.toText)

theorem keepsNested_of_json? {levels : Nat} {item : Source} {ms : List (String × Json)}
    (h : item.json? levels = some (.object ms)) :
    KeepsNested (levels - 1) item (rowOfMembers ms) := by
  rintro before k x after rfl hnested name hname hlast
  obtain ⟨_, heq, -, js, hjs, rfl⟩ := Source.json?_eq_object_iff.mp h
  obtain rfl := Source.object.inj heq
  obtain ⟨js', ⟨name', j⟩, js'', rfl, ⟨hname', hj⟩, hafter⟩ :=
    forall₂_append_cons_left (Source.jsonMembers?_eq_some_iff.mp hjs)
  obtain rfl : name' = name := Option.some.inj (hname'.symm.trans hname)
  have hnone : name' ∉ js''.map (·.1) := by
    intro hmem
    obtain ⟨m', hm', rfl⟩ := List.mem_map.mp hmem
    obtain ⟨m, hm, hsame, -⟩ := exists_mem_of_forall₂ hafter hm'
    exact hlast m hm hsame
  refine ⟨j, hj, ?_⟩
  rw [rowOfMembers_foldl_setMember, get?_rowOfMembers_append_cons hnone,
    Cell.ofJson_of_isNested hnested hj]

/-- Items that are objects and stand for documents stand for objects. -/
private theorem exists_objects {levels : Nat} {items : List Source} {js : List Json}
    (hitems : ∀ item ∈ items, ∃ members, item = .object members)
    (h : Source.jsonItems? levels items = some js) : ∃ objects : List (List (String × Json)),
      js = objects.map Json.object ∧
        List.Forall₂ (fun item ms => item.json? levels = some (.object ms)) items objects := by
  have hdocuments := Source.jsonItems?_eq_some_iff.mp h
  have hobjects : ∀ j ∈ js, j ∈ Set.range Json.object := by
    intro j hj
    obtain ⟨item, hitem, hdocument⟩ := exists_mem_of_forall₂ hdocuments hj
    obtain ⟨members, rfl⟩ := hitems item hitem
    simp only [Source.json?, Option.ite_none_left_eq_some, Option.map_eq_some_iff] at hdocument
    obtain ⟨-, ms, -, rfl⟩ := hdocument
    exact ⟨_, rfl⟩
  obtain ⟨objects, rfl⟩ : js ∈ Set.range (List.map Json.object) :=
    Set.range_list_map Json.object ▸ hobjects
  rw [List.forall₂_map_right_iff] at hdocuments
  exact ⟨objects, rfl, hdocuments⟩

/-- **The two ways to take in a table agree.** Any text that is decoded as a table is read, without
a limit, as a data set with exactly the same rows. Any well-formed text of an array of objects in
which some member is an array or an object, perhaps one that is replaced, is not decoded as a table.
If it is within the limit of nesting, its numbers are read without overflow and its strings spell out
characters, then it is read, and each such member is kept in its row as the compact text of what it
stands for, unless a later member has the same name; else it is refused as a whole. -/
theorem table_readers_agree (s : String) (given : Option UInt8) :
    (∀ t, (Excerpt.ofText? s.toList).bind Table.decode? = some t →
      ∃ d, readJson ⟨given, .utf8, none⟩ (utf8Bytes s) = .ok d ∧ d.table = t) ∧
    ∀ items, Source.read s.toList = some (.array items) →
      (∀ item ∈ items, ∃ members, item = .object members) →
      (∃ item ∈ items, ∃ m ∈ item.members, m.2.isNested) →
        (Excerpt.ofText? s.toList).bind Table.decode? = none ∧
        (Source.Readable Source.maxNesting (.array items) →
          ∃ d, readJson ⟨given, .utf8, none⟩ (utf8Bytes s) = .ok d ∧
            List.Forall₂ (KeepsNested (Source.maxNesting - 2)) items d.table.rows) ∧
        (¬ Source.Readable Source.maxNesting (.array items) →
          readJson ⟨given, .utf8, none⟩ (utf8Bytes s) = .error .notJson) := by
  constructor
  · intro t ht
    obtain ⟨items, -, -, objects, hobjects, rfl⟩ := Table.decode?_ofText?_iff.mp ht
    exact readJson_utf8Bytes hobjects
  · rintro items hread hitems ⟨item, hitem, m, hm, hnested⟩
    refine ⟨?_, fun hreadable => ?_, readJson_eq_notJson hread⟩
    · rw [Option.eq_none_iff_forall_ne_some]
      intro t ht
      obtain ⟨items', hread', hflat, -⟩ := Table.decode?_ofText?_iff.mp ht
      obtain rfl := Source.array.inj (Option.some.inj (hread.symm.trans hread'))
      have hplain : m.2.isNested = false := by
        simpa using List.all_eq_true.mp (hflat item hitem) m hm
      exact Bool.false_ne_true (hplain.symm.trans hnested)
    · obtain ⟨j, hj⟩ := Option.isSome_iff_exists.mp (Source.isSome_json?_iff.mpr hreadable)
      obtain ⟨js, hjs, rfl⟩ := Option.map_eq_some_iff.mp hj
      obtain ⟨objects, rfl, hrows⟩ := exists_objects hitems hjs
      have hdocument : Json.ofText? s.toList = some (.array (objects.map Json.object)) :=
        Option.bind_eq_some_iff.mpr ⟨_, hread, hj⟩
      obtain ⟨d, hd, htable⟩ := readJson_utf8Bytes hdocument
      refine ⟨d, hd, ?_⟩
      rw [htable, List.forall₂_map_right_iff]
      exact hrows.imp fun item ms hms => keepsNested_of_json? hms

/-- An array that is replaced by an object of the same name. -/
theorem replaced_array_read :
    let s := "[\x7b\"a\":[1],\"a\":\x7b\"c\":\"x\"\x7d\x7d]"
    (Excerpt.ofText? s.toList).bind Table.decode? = none ∧
      ∃ d row, readJson ⟨none, .utf8, none⟩ (utf8Bytes s) = .ok d ∧ d.table.rows = [row] ∧
        row.get? "a" = some (.text "\x7b\"c\":\"x\"\x7d") := by
  intro s
  have hread : Source.read "[\x7b\"a\":[1],\"a\":\x7b\"c\":\"x\"\x7d\x7d]".toList =
      some (.array [.object [([.char 'a'], .array [.number ⟨false, ['1'], none, none⟩]),
        ([.char 'a'], .object [([.char 'c'], .string [.char 'x'])])]]) := by
    cbv
  have hone : Numeral.json? ⟨false, ['1'], none, none⟩ = some (.int 1) := by rfl
  obtain ⟨hfails, hkept, -⟩ := (table_readers_agree s none).2 _ hread (by simp)
    ⟨_, List.mem_cons_self, _, List.mem_cons_self, rfl⟩
  obtain ⟨d, hd, hrows⟩ := hkept (Source.isSome_json?_iff.mp (by
    simp [Source.json?, Source.jsonItems?, Source.jsonMembers?, Source.text?, Source.characters?,
      Source.maxNesting, hone]))
  obtain ⟨row, rows, hrow, hnil, hrows⟩ := List.forall₂_cons_left_iff.mp hrows
  rw [List.forall₂_nil_left_iff.mp hnil] at hrows
  obtain ⟨j, hj, hget⟩ := hrow [_] _ _ [] rfl rfl "a" rfl (by simp)
  obtain rfl : Json.object [("c", .text "x")] = j := Option.some.inj hj
  have htext : (Json.object [("c", .text "x")]).toText = "\x7b\"c\":\"x\"\x7d" := by decide
  exact ⟨hfails, d, row, hd, hrows, hget.trans (by rw [htext])⟩

/-- A number beyond all doubles, one that is read beyond them although the nearest double is finite, and
half of a surrogate pair are well-formed, but none of them stands for anything, and the reader refuses
the whole text. -/
theorem array_without_meaning_refused :
    let large := "[\x7b\"a\":[1e999]\x7d]"
    let near := "[\x7b\"a\":[1.797693134862315708e308]\x7d]"
    let half := "[\x7b\"a\":[\"\\ud800\"]\x7d]"
    Source.read large.toList =
      some (.array [.object [([.char 'a'], .array [.number ⟨false, ['1'], none, some 999⟩])]]) ∧
    readJson ⟨none, .utf8, none⟩ (utf8Bytes large) = .error .notJson ∧
    Source.read near.toList = some (.array [.object [([.char 'a'], .array
      [.number ⟨false, ['1'], some "797693134862315708".toList, some 308⟩])]]) ∧
    (Number.ofScientific false 1797693134862315708 290).isFinite ∧
    readJson ⟨none, .utf8, none⟩ (utf8Bytes near) = .error .notJson ∧
    Source.read half.toList =
      some (.array [.object [([.char 'a'], .array [.string [.unit 0xD800]])]]) ∧
    readJson ⟨none, .utf8, none⟩ (utf8Bytes half) = .error .notJson := by
  intro large near half
  have hlarge : Source.read "[\x7b\"a\":[1e999]\x7d]".toList =
      some (.array [.object [([.char 'a'], .array [.number ⟨false, ['1'], none, some 999⟩])]]) := by
    cbv
  have hnear : Source.read "[\x7b\"a\":[1.797693134862315708e308]\x7d]".toList =
      some (.array [.object [([.char 'a'], .array
        [.number ⟨false, ['1'], some "797693134862315708".toList, some 308⟩])]]) := by
    cbv
  have hhalf : Source.read "[\x7b\"a\":[\"\\ud800\"]\x7d]".toList =
      some (.array [.object [([.char 'a'], .array [.string [.unit 0xD800]])]]) := by
    cbv
  -- what an array of one number stands for is decided by the number
  have hnone {n : Numeral} (hn : n.json? = none) :
      ¬ Source.Readable Source.maxNesting (.array [.object [([.char 'a'], .array [.number n])]]) := by
    rw [← Source.isSome_json?_iff]
    simp [Source.json?, Source.jsonItems?, Source.jsonMembers?, hn]
  refine ⟨hlarge, readJson_eq_notJson hlarge (hnone (by decide)), hnear,
    by decide +kernel, readJson_eq_notJson hnear (hnone (by decide +kernel)), hhalf,
    readJson_eq_notJson hhalf ?_⟩
  rw [← Source.isSome_json?_iff]
  decide

end Dataset

end Tabular
