/-!
# Maps kept in the order of their keys

A `Keyed α` holds at most one value of type `α` for each name and lists its entries by increasing
name, where names compare character by character. **Two maps are equal exactly when they hold the
same values under the same names** (`Keyed.ext_get?`), so the rows of a table can be compared as
values. Rows and the metadata of a workspace are such maps.
-/

namespace Tabular

/-- A finite map from names to `α` whose entries are listed by strictly increasing name. -/
structure Keyed (α : Type) where
  entries : List (String × α)
  sorted : entries.Pairwise fun a b => a.1 < b.1

namespace Keyed

variable {α β : Type}

instance [DecidableEq α] : DecidableEq (Keyed α) := fun a b =>
  decidable_of_iff (a.entries = b.entries)
    ⟨fun h => by cases a; cases b; cases h; rfl, fun h => by rw [h]⟩

instance [BEq α] : BEq (Keyed α) := ⟨fun a b => a.entries == b.entries⟩

/-- The map without entries. -/
def empty : Keyed α := ⟨[], .nil⟩

instance : EmptyCollection (Keyed α) := ⟨empty⟩

instance : Inhabited (Keyed α) := ⟨empty⟩

/-- The value held under a name. -/
def get? (m : Keyed α) (k : String) : Option α := m.entries.lookup k

/-- Whether a value is held under a name. -/
def contains (m : Keyed α) (k : String) : Bool := (m.get? k).isSome

/-- The names by increasing order. -/
def keys (m : Keyed α) : List String := m.entries.map (·.1)

/-! ### Insertion -/

/-- The list of entries with `x` under `k`, in place of what was there. -/
def insertEntry (k : String) (x : α) : List (String × α) → List (String × α)
  | [] => [(k, x)]
  | e :: es =>
    if k < e.1 then (k, x) :: e :: es
    else if k = e.1 then (k, x) :: es
    else e :: insertEntry k x es

theorem mem_insertEntry {k : String} {x : α} {e : String × α} :
    ∀ {es : List (String × α)}, e ∈ insertEntry k x es → e = (k, x) ∨ e ∈ es
  | [], h => by simpa [insertEntry] using h
  | a :: es, h => by
    rw [insertEntry] at h
    split at h
    · simpa using h
    split at h
    · rcases List.mem_cons.mp h with h | h
      · exact .inl h
      · exact .inr (List.mem_cons_of_mem _ h)
    · rcases List.mem_cons.mp h with h | h
      · exact .inr (h ▸ List.mem_cons_self)
      · exact (mem_insertEntry h).imp id (List.mem_cons_of_mem _)

theorem sorted_insertEntry {k : String} {x : α} :
    ∀ {es : List (String × α)}, es.Pairwise (fun a b => a.1 < b.1) →
      (insertEntry k x es).Pairwise fun a b => a.1 < b.1
  | [], _ => by simp [insertEntry]
  | a :: es, h => by
    have ⟨ha, hes⟩ := List.pairwise_cons.mp h
    rw [insertEntry]
    split
    next hk =>
      refine List.pairwise_cons.mpr ⟨fun b hb => ?_, h⟩
      rcases List.mem_cons.mp hb with rfl | hb
      · exact hk
      · exact String.lt_trans hk (ha b hb)
    next hk =>
      split
      next he => exact List.pairwise_cons.mpr ⟨fun b hb => he ▸ ha b hb, hes⟩
      next he =>
        refine List.pairwise_cons.mpr ⟨fun b hb => ?_, sorted_insertEntry hes⟩
        rcases mem_insertEntry hb with rfl | hb
        · exact String.not_le.mp fun hle => he (String.le_antisymm hle (String.not_lt.mp hk))
        · exact ha b hb

/-- The map with `x` under `k`, in place of what was there. -/
def insert (m : Keyed α) (k : String) (x : α) : Keyed α :=
  ⟨insertEntry k x m.entries, sorted_insertEntry m.sorted⟩

/-- The map of a list of entries; the last entry of a name counts. -/
def ofList (es : List (String × α)) : Keyed α :=
  es.foldl (fun m e => m.insert e.1 e.2) empty

/-! ### Removal and change -/

/-- The map without what is held under `k`. -/
def erase (m : Keyed α) (k : String) : Keyed α :=
  ⟨m.entries.filter fun e => e.1 != k, m.sorted.filter _⟩

/-- The map with the value under `k`, if there is one, changed by `f`. -/
def adjust (m : Keyed α) (k : String) (f : α → α) : Keyed α :=
  match m.get? k with
  | some x => m.insert k (f x)
  | none => m

/-- The map with the value under `k`, if there is one, moved to `k'`. -/
def move (m : Keyed α) (k k' : String) : Keyed α :=
  match m.get? k with
  | some x => (m.erase k).insert k' x
  | none => m

/-! ### What is held under a name -/

@[ext] theorem ext {m n : Keyed α} (h : m.entries = n.entries) : m = n := by
  cases m; cases n; cases h; rfl

@[simp] theorem get?_empty (k : String) : (empty : Keyed α).get? k = none := rfl

private theorem lookup_cons_if (k : String) (e : String × α) (es : List (String × α)) :
    (e :: es).lookup k = if k = e.1 then some e.2 else es.lookup k := by
  obtain ⟨k', x⟩ := e
  by_cases h : k = k' <;> simp [List.lookup_cons, beq_false_of_ne, h]

private theorem lookup_insertEntry (k k' : String) (x : α) :
    ∀ es : List (String × α),
      (insertEntry k x es).lookup k' = if k' = k then some x else es.lookup k'
  | [] => by rw [insertEntry, lookup_cons_if]
  | e :: es => by
    rw [insertEntry]
    split
    · rw [lookup_cons_if]
    split
    next he => grind [lookup_cons_if]
    next he => grind [lookup_cons_if, lookup_insertEntry k k' x es]

/-- Insertion changes what is held under its own name and nothing else. -/
theorem get?_insert (m : Keyed α) (k k' : String) (x : α) :
    (m.insert k x).get? k' = if k' = k then some x else m.get? k' :=
  lookup_insertEntry k k' x m.entries

private theorem lookup_filter_ne (k k' : String) :
    ∀ es : List (String × α),
      (es.filter fun e => e.1 != k).lookup k' = if k' = k then none else es.lookup k'
  | [] => by simp
  | e :: es => by
    have ih := lookup_filter_ne k k' es
    by_cases he : e.1 = k
    · rw [List.filter_cons_of_neg (by simpa using he), ih, lookup_cons_if]
      grind
    · rw [List.filter_cons_of_pos (by simpa using he), lookup_cons_if, lookup_cons_if, ih]
      grind

/-- Removal changes what is held under its own name and nothing else. -/
theorem get?_erase (m : Keyed α) (k k' : String) :
    (m.erase k).get? k' = if k' = k then none else m.get? k' :=
  lookup_filter_ne k k' m.entries

private theorem lookup_eq_none_of_lt {k : String} {es : List (String × α)}
    (h : ∀ e ∈ es, k < e.1) : es.lookup k = none := by
  rw [List.lookup_eq_none_iff]
  intro e he
  rw [bne_iff_ne]
  rintro rfl
  exact String.lt_irrefl _ (h e he)

private theorem entries_eq_of_lookup_eq :
    ∀ {es fs : List (String × α)}, es.Pairwise (fun a b => a.1 < b.1) →
      fs.Pairwise (fun a b => a.1 < b.1) → (∀ k, es.lookup k = fs.lookup k) → es = fs
  | [], [], _, _, _ => rfl
  | [], f :: fs, _, _, h => by simpa [lookup_cons_if] using h f.1
  | e :: es, [], _, _, h => by simpa [lookup_cons_if] using h e.1
  | e :: es, f :: fs, he, hf, h => by
    have ⟨he, hes⟩ := List.pairwise_cons.mp he
    have ⟨hf, hfs⟩ := List.pairwise_cons.mp hf
    simp only [lookup_cons_if] at h
    have hk : e.1 = f.1 := by
      by_cases hlt : e.1 < f.1
      · have h1 := h e.1
        rw [if_pos rfl, if_neg (fun hk => String.lt_irrefl _ (hk ▸ hlt)),
          lookup_eq_none_of_lt fun g hg => String.lt_trans hlt (hf g hg)] at h1
        simp at h1
      by_cases hgt : f.1 < e.1
      · have h1 := h f.1
        rw [if_pos rfl, if_neg (fun hk => String.lt_irrefl _ (hk ▸ hgt)),
          lookup_eq_none_of_lt fun g hg => String.lt_trans hgt (he g hg)] at h1
        simp at h1
      exact String.le_antisymm (String.not_lt.mp hgt) (String.not_lt.mp hlt)
    have hx : e.2 = f.2 := by simpa [hk] using h e.1
    have ht : es = fs := entries_eq_of_lookup_eq hes hfs fun k => by
      by_cases hke : k = e.1
      · rw [hke, lookup_eq_none_of_lt he, hk, lookup_eq_none_of_lt hf]
      · simpa [hke, hk ▸ hke] using h k
    rw [ht, show e = f from Prod.ext hk hx]

/-- Maps that hold the same under every name are equal. -/
theorem ext_get? {m n : Keyed α} (h : ∀ k, m.get? k = n.get? k) : m = n :=
  ext (entries_eq_of_lookup_eq m.sorted n.sorted h)

end Keyed

end Tabular
