import Tabular.Proofs.Encoding
import Tabular.Proofs.Workspace.Loading

/-!
# Requested columns first

A table is loaded with a request for the order of its columns, which may name columns more than once,
leave some out and name others that do not exist. What the request makes of the order can be said in
terms of the two lists alone (`Workspace.Arranged`): the requested columns come by their first
positions in the request, and all others follow by the bytes of their names. **There is exactly one
such list and the loaded workspace shows it** (`Workspace.requested_columns_first`). It lists every
column once, so it may itself be requested, and is then shown as it is.
-/

namespace Tabular

open Encoding (utf8Bytes utf8Bytes_lt_iff eq_of_sorted_utf8Bytes)

namespace Workspace

variable {t : Table} {requested first others : List String}

/-- The columns of a table in two parts: those that are requested, in the order in which they occur
first in the request, and all others, in the order of their bytes. -/
structure Arranged (t : Table) (requested first others : List String) : Prop where
  mem_first : ∀ c, c ∈ first ↔ c ∈ t.columns ∧ c ∈ requested
  first_sorted : first.Pairwise fun a b => requested.idxOf a < requested.idxOf b
  mem_others : ∀ c, c ∈ others ↔ c ∈ t.columns ∧ c ∉ requested
  others_sorted : others.Pairwise fun a b => utf8Bytes a < utf8Bytes b

/-- Columns can be arranged in one way only. -/
theorem Arranged.unique {first' others' : List String} (h : Arranged t requested first others)
    (h' : Arranged t requested first' others') : first ++ others = first' ++ others' := by
  have hfirst : first = first' := by
    have : Std.Irrefl fun a b : String => requested.idxOf a < requested.idxOf b :=
      ⟨fun _ => Nat.lt_irrefl _⟩
    have : Std.Antisymm fun a b : String => requested.idxOf a < requested.idxOf b :=
      ⟨fun _ _ hab hba => absurd hab (Nat.lt_asymm hba)⟩
    exact h.first_sorted.eq_of_mem_iff h'.first_sorted fun c =>
      (h.mem_first c).trans (h'.mem_first c).symm
  have hothers : others = others' :=
    eq_of_sorted_utf8Bytes h.others_sorted h'.others_sorted fun c =>
      (h.mem_others c).trans (h'.mem_others c).symm
  rw [hfirst, hothers]

/-- The requested part is ordered by first positions in the request. -/
theorem requestedOrder_sorted {present : List String} : ∀ {requested seen : List String},
    (requestedOrder present seen requested).Pairwise fun a b =>
      requested.idxOf a < requested.idxOf b
  | [], _ => .nil
  | name :: names, seen => by
    -- among names other than the first one, positions are compared as in the rest
    have hshift : ∀ l : List String, name ∉ l → l.Pairwise (fun a b => names.idxOf a < names.idxOf b) →
        l.Pairwise fun a b => (name :: names).idxOf a < (name :: names).idxOf b := by
      intro l hname hl
      refine hl.imp_of_mem fun {a b} ha hb hab => ?_
      have hna : name ≠ a := fun h => hname (h ▸ ha)
      have hnb : name ≠ b := fun h => hname (h ▸ hb)
      rw [List.idxOf_cons_ne _ hna, List.idxOf_cons_ne _ hnb]
      exact Nat.succ_lt_succ hab
    rw [requestedOrder]
    split
    next h =>
      have hname : name ∉ requestedOrder present (name :: seen) names := fun hmem =>
        (mem_requestedOrder.mp hmem).2.1 List.mem_cons_self
      refine List.pairwise_cons.mpr ⟨fun b hb => ?_, hshift _ hname requestedOrder_sorted⟩
      have hnb : name ≠ b := fun h => hname (h ▸ hb)
      rw [List.idxOf_cons_self, List.idxOf_cons_ne _ hnb]
      exact Nat.succ_pos _
    next h =>
      refine hshift _ (fun hmem => h ?_) requestedOrder_sorted
      obtain ⟨hpresent, hseen, -⟩ := mem_requestedOrder.mp hmem
      simpa using ⟨hpresent, hseen⟩

/-- The columns of a table are ordered by their bytes. -/
theorem columns_sorted (t : Table) : t.columns.Pairwise fun a b => utf8Bytes a < utf8Bytes b := by
  have hsorted : t.columns.Pairwise (· < ·) := by
    unfold Table.columns
    split
    · exact .nil
    · exact Keyed.keys_sorted _
  exact hsorted.imp utf8Bytes_lt_iff.mpr

/-- The order of a loaded table arranges its columns. -/
theorem arranged_initialOrder (t : Table) (requested : List String) : ∃ first others,
    initialOrder t (some requested) = first ++ others ∧ Arranged t requested first others := by
  refine ⟨_, _, rfl, ?_, requestedOrder_sorted, ?_, (columns_sorted t).filter _⟩
  · intro c
    simp [mem_requestedOrder]
  · intro c
    -- a column that is not in the first part is not requested
    simp only [List.mem_filter, Bool.not_eq_true', List.contains_eq_mem, decide_eq_false_iff_not,
      mem_requestedOrder, List.not_mem_nil, not_false_eq_true, true_and, not_and]
    exact and_congr_right fun hc => ⟨fun h => h hc, fun h _ => h⟩

/-- **Requested columns come first.** The order in which a loaded table shows its columns lists the
requested columns that exist, by their first positions in the request, and then all others, by the
bytes of their names; it is the only list that does. Hence it lists every column of the table exactly
once, and loading the table again with this order as the request gives the same order. -/
theorem requested_columns_first (p q : Provider) (t : Table) (requested : List String) :
    let order := (load p t (some requested)).value.order
    (∀ l, l = order ↔ ∃ first others, l = first ++ others ∧ Arranged t requested first others) ∧
      order.Nodup ∧ order.Perm t.columns ∧ (load q t (some order)).value.order = order := by
  intro order
  have horder : order = initialOrder t (some requested) := by
    rw [show order = (load p t (some requested)).value.order from rfl, load_value]
  have hnodup : order.Nodup := horder ▸ initialOrder_nodup
  have hmem (c : String) : c ∈ order ↔ c ∈ t.columns := horder ▸ mem_initialOrder
  refine ⟨fun l => ?_, hnodup, ?_, ?_⟩
  · -- the arrangement
    obtain ⟨first, others, heq, harranged⟩ := arranged_initialOrder t requested
    constructor
    · rintro rfl
      exact ⟨first, others, horder.trans heq, harranged⟩
    · rintro ⟨first', others', rfl, harranged'⟩
      rw [harranged'.unique harranged, horder, heq]
  · -- every column once
    exact (List.perm_ext_iff_of_nodup hnodup t.columns_nodup).mpr hmem
  · -- the same order again
    rw [load_value]
    exact initialOrder_eq_self hnodup fun c => (hmem c).symm

end Workspace

end Tabular
