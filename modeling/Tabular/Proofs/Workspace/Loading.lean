import Tabular.Proofs.Workspace.Step

/-!
# Loading a table

The order in which a loaded table shows its columns, and the workspace that loading gives. The
requested names that are columns come first, each at its first occurrence, and then all remaining
columns, so **the order lists every column of the table exactly once**, whatever was requested
(`Workspace.mem_initialOrder`, `Workspace.initialOrder_nodup`). An order that already does so is
taken over as it is (`Workspace.initialOrder_eq_self`), and one that names a column again loses
the repetition (`Workspace.initialOrder_eq_eraseDups`).
-/

namespace Tabular

namespace Workspace

variable {p : Provider} {t : Table} {order : Option (List String)} {c : String}

/-! ### The requested part -/

theorem mem_requestedOrder {present : List String} : ∀ {requested seen : List String},
    c ∈ requestedOrder present seen requested ↔ c ∈ present ∧ c ∉ seen ∧ c ∈ requested
  | [], seen => by simp [requestedOrder]
  | name :: names, seen => by
    rw [requestedOrder]
    split
    next h =>
      simp only [Bool.and_eq_true, Bool.not_eq_true', List.contains_eq_mem, decide_eq_true_eq,
        decide_eq_false_iff_not] at h
      -- the name counts as seen from here on, so it comes at its first occurrence only
      rw [List.mem_cons, mem_requestedOrder, List.mem_cons, List.mem_cons]
      grind
    next h =>
      simp only [Bool.and_eq_true, Bool.not_eq_true', List.contains_eq_mem, decide_eq_true_eq,
        decide_eq_false_iff_not] at h
      rw [mem_requestedOrder, List.mem_cons]
      grind

theorem requestedOrder_nodup {present : List String} : ∀ {requested seen : List String},
    (requestedOrder present seen requested).Nodup
  | [], _ => List.nodup_nil
  | name :: names, seen => by
    rw [requestedOrder]
    split
    · refine List.nodup_cons.mpr ⟨fun h => ?_, requestedOrder_nodup⟩
      exact (mem_requestedOrder.mp h).2.1 List.mem_cons_self
    · exact requestedOrder_nodup

/-- A request for columns without repetition is taken as it is. -/
theorem requestedOrder_eq_self {present : List String} : ∀ {requested seen : List String},
    requested.Nodup → (∀ c ∈ requested, c ∈ present ∧ c ∉ seen) →
      requestedOrder present seen requested = requested
  | [], _, _, _ => rfl
  | name :: names, seen, hn, h => by
    have ⟨hname, hnames⟩ := List.nodup_cons.mp hn
    have hkeep : (present.contains name && !seen.contains name) = true := by
      simpa using h name List.mem_cons_self
    rw [requestedOrder, if_pos hkeep, requestedOrder_eq_self hnames fun c hc => ?_]
    have ⟨hp, hs⟩ := h c (List.mem_cons_of_mem name hc)
    refine ⟨hp, fun hcons => ?_⟩
    rcases List.mem_cons.mp hcons with rfl | hseen
    · exact hname hc
    · exact hs hseen

/-- Of a request only what is present and was not seen is taken, without repetition. -/
theorem requestedOrder_eq_eraseDups {present : List String} : ∀ (requested seen : List String),
    requestedOrder present seen requested =
      (requested.filter fun c => present.contains c && !seen.contains c).eraseDups
  | [], _ => rfl
  | name :: names, seen => by
    rw [requestedOrder, List.filter_cons]
    by_cases h : (present.contains name && !seen.contains name) = true
    · -- to count as seen from here on is to be removed from the rest
      have hrest : (names.filter fun c => present.contains c && !(name :: seen).contains c) =
          (names.filter fun c => present.contains c && !seen.contains c).filter (!· == name) := by
        rw [List.filter_filter]
        refine List.filter_congr fun c _ => ?_
        rw [List.contains_cons, Bool.not_or, Bool.and_left_comm]
      rw [if_pos h, if_pos h, requestedOrder_eq_eraseDups names, List.eraseDups_cons, hrest]
    · rw [if_neg h, if_neg h, requestedOrder_eq_eraseDups names]

/-! ### The whole order -/

/-- A loaded table shows exactly its columns. -/
theorem mem_initialOrder : c ∈ initialOrder t order ↔ c ∈ t.columns := by
  cases order with
  | none => rfl
  | some requested =>
    simp only [initialOrder, List.mem_append, List.mem_filter, mem_requestedOrder,
      Bool.not_eq_true', List.contains_eq_mem, decide_eq_false_iff_not]
    grind

/-- A loaded table shows no column twice. -/
theorem initialOrder_nodup : (initialOrder t order).Nodup := by
  cases order with
  | none => exact t.columns_nodup
  | some requested =>
    refine List.nodup_append.mpr ⟨requestedOrder_nodup, t.columns_nodup.filter _, ?_⟩
    rintro a ha b hb rfl
    simpa [ha] using (List.mem_filter.mp hb).2

/-- An order that lists every column once is the order of the loaded table. -/
theorem initialOrder_eq_self {order : List String} (hn : order.Nodup)
    (hc : ∀ c, c ∈ t.columns ↔ c ∈ order) : initialOrder t (some order) = order := by
  have hrequested : requestedOrder t.columns [] order = order :=
    requestedOrder_eq_self hn fun c h => ⟨(hc c).mpr h, List.not_mem_nil⟩
  have hothers : t.columns.filter (!order.contains ·) = [] := by
    simpa using fun c h => (hc c).mp h
  simp only [initialOrder, hrequested, hothers, List.append_nil]

/-- A request for every column and nothing else is shown without its repetitions. -/
theorem initialOrder_eq_eraseDups {requested : List String}
    (hc : ∀ c, c ∈ t.columns ↔ c ∈ requested) :
    initialOrder t (some requested) = requested.eraseDups := by
  have hrequested : requestedOrder t.columns [] requested = requested.eraseDups := by
    rw [requestedOrder_eq_eraseDups, List.filter_eq_self.mpr]
    intro c h
    simpa using (hc c).mpr h
  have hothers : t.columns.filter (!requested.eraseDups.contains ·) = [] := by
    simpa using fun c h => (hc c).mp h
  simp only [initialOrder, hrequested, hothers, List.append_nil]

/-! ### The loaded workspace -/

/-- Loading describes every column of the order on the table itself. -/
theorem load_value : (load p t order).value =
    { table := t
      order := initialOrder t order
      types := Keyed.insertAll (p.inferType t) ∅ (initialOrder t order)
      distributions := Keyed.insertAll (p.ownDistribution t) ∅ (initialOrder t order)
      gaps := Keyed.insertAll (p.gaps t) ∅ (initialOrder t order)
      history := [] } := by
  have hadd := addColumns_value (p := p) (S := []) (initialOrder t order) (w := undescribed t)
    (P := []) rfl
  rw [List.nil_append, List.append_nil] at hadd
  exact hadd

end Workspace

end Tabular
