import Mathlib.Data.List.Induction
import Mathlib.Data.List.Sort
import Tabular.Keyed

/-!
# The names of a keyed map

Which names a map holds after an entry is inserted, removed, changed or moved, and what it holds
under them. The names of a map are strictly sorted, so **two maps with the same set of names list
them alike** (`Keyed.keys_eq_iff`): comparing lists of names is comparing key sets.

`Keyed.insertAll` is the insertion of a run of names at once, each with a value computed from the
name. It is what describing columns does to every one of the three metadata maps.
-/

namespace Tabular

namespace Keyed

variable {α : Type} (m : Keyed α) (k k' c : String)

/-! ### Names -/

theorem mem_keys_iff_exists {m : Keyed α} {c : String} : c ∈ m.keys ↔ ∃ x, m.get? c = some x := by
  rw [keys, get?, List.mem_map]
  constructor
  · rintro ⟨e, he, rfl⟩
    cases hx : m.entries.lookup e.1 with
    | none => simpa using List.lookup_eq_none_iff.mp hx e he
    | some x => exact ⟨x, rfl⟩
  · rintro ⟨x, hx⟩
    obtain ⟨before, after, h, -⟩ := List.lookup_eq_some_iff.mp hx
    exact ⟨(c, x), by simp [h], rfl⟩

/-- A name is among the names of a map exactly if something is held under it. -/
theorem mem_keys {m : Keyed α} {c : String} : c ∈ m.keys ↔ m.contains c := by
  rw [mem_keys_iff_exists, contains, Option.isSome_iff_exists]

theorem get?_eq_none_iff {m : Keyed α} {c : String} : m.get? c = none ↔ c ∉ m.keys := by
  rw [mem_keys, contains, Bool.not_eq_true, Option.isSome_eq_false_iff, Option.isNone_iff_eq_none]

theorem keys_sorted : m.keys.Pairwise (· < ·) :=
  List.pairwise_map.mpr m.sorted

theorem keys_nodup : m.keys.Nodup := by
  refine m.keys_sorted.imp fun hlt heq => ?_
  rw [heq] at hlt
  exact String.lt_irrefl _ hlt

/-- Maps with the same set of names list them alike. -/
theorem keys_eq_iff {β : Type} {m : Keyed α} {n : Keyed β} :
    m.keys = n.keys ↔ ∀ c, c ∈ m.keys ↔ c ∈ n.keys := by
  refine ⟨fun h c => by rw [h], fun h => ?_⟩
  have : Std.Antisymm fun a b : String => a < b :=
    ⟨fun _ _ hab hba => absurd (String.lt_trans hab hba) (String.lt_irrefl _)⟩
  have : Std.Irrefl fun a b : String => a < b := ⟨String.lt_irrefl⟩
  exact m.keys_sorted.eq_of_mem_iff n.keys_sorted h

@[simp] theorem keys_empty : (∅ : Keyed α).keys = [] := rfl

theorem eq_empty {m : Keyed α} (h : ∀ c, c ∉ m.keys) : m = ∅ :=
  ext_get? fun c => get?_eq_none_iff.mpr (h c)

/-! ### Names after a change -/

@[simp] theorem mem_keys_insert {x : α} : c ∈ (m.insert k x).keys ↔ c = k ∨ c ∈ m.keys := by
  rw [mem_keys, mem_keys, contains, contains, get?_insert]
  split <;> simp [*]

@[simp] theorem mem_keys_erase : c ∈ (m.erase k).keys ↔ c ≠ k ∧ c ∈ m.keys := by
  rw [mem_keys, mem_keys, contains, contains, get?_erase]
  split <;> simp [*]

/-- A change of the value under a name keeps all others. -/
theorem get?_adjust (f : α → α) :
    (m.adjust k f).get? c = if c = k then (m.get? c).map f else m.get? c := by
  unfold adjust
  cases hx : m.get? k with
  | none =>
    by_cases hc : c = k
    · rw [if_pos hc, hc, hx, Option.map_none]
    · rw [if_neg hc]
  | some x =>
    rw [get?_insert]
    by_cases hc : c = k
    · rw [if_pos hc, if_pos hc, hc, hx, Option.map_some]
    · rw [if_neg hc, if_neg hc]

/-- A value that is there moves to its new name, and all other names keep theirs. -/
theorem get?_move {m : Keyed α} {k : String} (h : k ∈ m.keys) :
    (m.move k k').get? c = if c = k' then m.get? k else if c = k then none else m.get? c := by
  obtain ⟨x, hx⟩ := mem_keys_iff_exists.mp h
  rw [move, hx]
  simp only [get?_insert, get?_erase]

theorem mem_keys_move {m : Keyed α} {k : String} (h : k ∈ m.keys) :
    c ∈ (m.move k k').keys ↔ c = k' ∨ (c ≠ k ∧ c ∈ m.keys) := by
  obtain ⟨x, hx⟩ := mem_keys_iff_exists.mp h
  rw [move, hx]
  simp only [mem_keys_insert, mem_keys_erase]

theorem mem_keys_adjust (f : α → α) : c ∈ (m.adjust k f).keys ↔ c ∈ m.keys := by
  rw [mem_keys, mem_keys, contains, contains, get?_adjust]
  split <;> simp

/-! ### Inserting a run of names -/

/-- The map with `f k` under every name `k` of a list. -/
def insertAll (f : String → α) (m : Keyed α) : List String → Keyed α
  | [] => m
  | k :: ks => insertAll f (m.insert k (f k)) ks

theorem get?_insertAll (f : String → α) (c : String) : ∀ (ks : List String) (m : Keyed α),
    (insertAll f m ks).get? c = if c ∈ ks then some (f c) else m.get? c
  | [], m => by rw [insertAll, if_neg List.not_mem_nil]
  | k :: ks, m => by
    rw [insertAll, get?_insertAll f c ks, get?_insert]
    -- a name that comes again gets the same value again
    by_cases hks : c ∈ ks
    · rw [if_pos hks, if_pos (List.mem_cons_of_mem k hks)]
    · by_cases hk : c = k
      · rw [if_neg hks, if_pos hk, if_pos (hk ▸ List.mem_cons_self), hk]
      · rw [if_neg hks, if_neg hk, if_neg (by simp [hk, hks])]

theorem mem_keys_insertAll (f : String → α) (ks : List String) :
    c ∈ (insertAll f m ks).keys ↔ c ∈ ks ∨ c ∈ m.keys := by
  rw [mem_keys, mem_keys, contains, contains, get?_insertAll]
  split <;> simp [*]

/-- A map with a known value under each of its names is the run of these insertions. -/
theorem eq_insertAll {m : Keyed α} {f : String → α} {ks : List String}
    (hkeys : ∀ c, c ∈ m.keys ↔ c ∈ ks) (h : ∀ c ∈ ks, m.get? c = some (f c)) :
    m = insertAll f ∅ ks := by
  refine ext_get? fun c => ?_
  rw [get?_insertAll]
  split
  next hc => exact h c hc
  next hc => exact get?_eq_none_iff.mpr fun hm => hc ((hkeys c).mp hm)

/-! ### Maps of a list of entries -/

theorem ofList_concat (es : List (String × α)) (e : String × α) :
    ofList (es ++ [e]) = (ofList es).insert e.1 e.2 := by
  rw [ofList, List.foldl_append]
  rfl

theorem mem_keys_ofList {es : List (String × α)} : c ∈ (ofList es).keys ↔ c ∈ es.map (·.1) := by
  induction es using List.reverseRecOn with
  | nil => exact Iff.rfl
  | append_singleton es e ih =>
    rw [ofList_concat, mem_keys_insert, ih, List.map_append, List.mem_append, or_comm,
      List.map_singleton, List.mem_singleton]

/-- The entries of a map are among those it is made of. -/
theorem mem_of_mem_entries_ofList {es : List (String × α)} {e : String × α}
    (h : e ∈ (ofList es).entries) : e ∈ es := by
  induction es using List.reverseRecOn with
  | nil => exact h
  | append_singleton es e' ih =>
    rw [ofList_concat] at h
    rcases mem_insertEntry h with rfl | h
    · exact List.mem_append_right es List.mem_cons_self
    · exact List.mem_append_left _ (ih h)

/-- Of the values listed for a name the last one counts. -/
theorem get?_ofList_append_cons (es : List (String × α)) (x : α) {fs : List (String × α)}
    (h : c ∉ fs.map (·.1)) : (ofList (es ++ (c, x) :: fs)).get? c = some x := by
  induction fs using List.reverseRecOn with
  | nil => rw [ofList_concat, get?_insert, if_pos rfl]
  | append_singleton fs f ih =>
    rw [List.map_append, List.mem_append, not_or, List.map_singleton, List.mem_singleton] at h
    rw [← List.cons_append, ← List.append_assoc, ofList_concat, get?_insert, if_neg h.2, ih h.1]

/-- A map is the map of its own entries. -/
theorem ofList_entries : ofList m.entries = m := by
  refine ext_get? fun c => ?_
  cases hx : m.get? c with
  | none =>
    rw [get?_eq_none_iff] at hx ⊢
    exact mt (mem_keys_ofList c).mp hx
  | some x =>
    obtain ⟨before, after, he, -⟩ := List.lookup_eq_some_iff.mp hx
    have hn : ((before ++ (c, x) :: after).map (·.1)).Nodup := he ▸ m.keys_nodup
    rw [List.map_append, List.map_cons, List.nodup_middle, List.nodup_cons, List.mem_append,
      not_or] at hn
    rw [he, get?_ofList_append_cons c before x hn.1.2]

theorem mem_keys_ofList_zip {names : List String} {xs : List α} (hlen : xs.length = names.length) :
    c ∈ (ofList (names.zip xs)).keys ↔ c ∈ names := by
  rw [mem_keys_ofList, List.map_fst_zip hlen.ge]

/-- A name paired with a value for the last time holds that value. -/
theorem get?_ofList_zip {names : List String} {xs : List α} (hlen : xs.length = names.length)
    {i : Nat} {x : α} (hc : names[i]? = some c) (hlast : c ∉ names.drop (i + 1))
    (hx : xs[i]? = some x) : (ofList (names.zip xs)).get? c = some x := by
  obtain ⟨hi, rfl⟩ := List.getElem?_eq_some_iff.mp hc
  obtain ⟨hi', rfl⟩ := List.getElem?_eq_some_iff.mp hx
  have hzip : names.zip xs =
      (names.take i).zip (xs.take i) ++ (names[i], xs[i]) ::
        (names.drop (i + 1)).zip (xs.drop (i + 1)) := by
    rw [← List.zip_cons_cons, ← List.zip_append (by simp; omega), List.getElem_cons_drop,
      List.getElem_cons_drop, List.take_append_drop, List.take_append_drop]
  rw [hzip]
  refine get?_ofList_append_cons _ _ _ fun hmem => hlast ?_
  rw [List.map_fst_zip (by simp; omega)] at hmem
  exact hmem

/-! ### Undoing a change -/

/-- A value moved to a free name and back is where it was. -/
theorem move_move {m : Keyed α} {k k' : String} (hk : k ∈ m.keys) (hk' : k' ∉ m.keys) :
    (m.move k k').move k' k = m := by
  have hmoved : k' ∈ (m.move k k').keys := (mem_keys_move k' k' hk).mpr (.inl rfl)
  refine ext_get? fun c => ?_
  rw [get?_move k c hmoved, get?_move k' k' hk, if_pos rfl]
  by_cases hc : c = k
  · rw [if_pos hc, hc]
  by_cases hc' : c = k'
  · rw [if_neg hc, if_pos hc', hc', get?_eq_none_iff.mpr hk']
  · rw [if_neg hc, if_neg hc', get?_move k' c hk, if_neg hc', if_neg hc]

/-- The map without what is held under any name of a list. -/
def eraseAll (m : Keyed α) (ks : List String) : Keyed α := ks.foldl erase m

theorem get?_eraseAll (c : String) : ∀ (ks : List String) (m : Keyed α),
    (m.eraseAll ks).get? c = if c ∈ ks then none else m.get? c
  | [], m => (if_neg List.not_mem_nil).symm
  | k :: ks, m => by
    have hrest := get?_eraseAll c ks (m.erase k)
    rw [get?_erase] at hrest
    rw [eraseAll, List.foldl_cons, ← eraseAll, hrest]
    grind

/-- New names that are removed again, in any order, leave the map as it was. -/
theorem eraseAll_insertAll {m : Keyed α} {f : String → α} {ks js : List String}
    (hnew : ∀ c ∈ ks, c ∉ m.keys) (h : js.Perm ks) : (insertAll f m ks).eraseAll js = m := by
  refine ext_get? fun c => ?_
  rw [get?_eraseAll, get?_insertAll]
  by_cases hc : c ∈ ks
  · rw [if_pos (h.mem_iff.mpr hc), get?_eq_none_iff.mpr (hnew c hc)]
  · rw [if_neg (mt h.mem_iff.mp hc), if_neg hc]

end Keyed

end Tabular
