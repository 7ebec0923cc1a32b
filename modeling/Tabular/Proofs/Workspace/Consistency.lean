import Tabular.Proofs.Keyed
import Tabular.Workspace.Consistency

/-!
# What the check for consistency accepts

The check of a workspace succeeds **exactly if** no column is shown twice and the names in each of
the three metadata maps and in every row are those of the order (`Workspace.check_eq_ok_iff`). Each
part of the check has such a statement of its own; the parts are joined by `andThen_eq_ok_iff`.
-/

namespace Tabular

namespace Workspace

variable {order found : List String} {place : NameSet}

private theorem andThen_eq_ok_iff {ε : Type} {x y : Except ε Unit} :
    (x >>= fun _ => y) = .ok () ↔ x = .ok () ∧ y = .ok () := by
  cases x with
  | error e => simp [bind, Except.bind]
  | ok u => simp [bind, Except.bind]

theorem distinct_iff_nodup : ∀ {names : List String}, distinct names ↔ names.Nodup
  | [] => by simp [distinct]
  | name :: names => by
    rw [distinct, Bool.and_eq_true, distinct_iff_nodup, List.nodup_cons]
    simp

theorem mem_sortedNames {names : List String} {c : String} : c ∈ sortedNames names ↔ c ∈ names :=
  (List.mergeSort_perm names _).mem_iff

/-- The names found in a place pass if they are the names of the order. -/
theorem checkNames_eq_ok_iff :
    checkNames order place found = .ok () ↔ ∀ c, c ∈ found ↔ c ∈ order := by
  -- the check fails if one of the two lists of differences has an entry
  have hmissing : (sortedNames order).filter (!found.contains ·) = [] ↔
      ∀ c ∈ order, c ∈ found := by
    simp [List.filter_eq_nil_iff, mem_sortedNames]
  have horphaned : found.filter (!order.contains ·) = [] ↔ ∀ c ∈ found, c ∈ order := by
    simp [List.filter_eq_nil_iff]
  rw [checkNames]
  simp only [Bool.and_eq_true, List.isEmpty_iff, hmissing, horphaned]
  split
  next h => exact iff_of_true rfl fun c => ⟨h.2 c, h.1 c⟩
  next h => exact iff_of_false (by simp) fun hc => h ⟨fun c => (hc c).mpr, fun c => (hc c).mp⟩

/-- Rows pass if the names of each of them are those of the order. -/
theorem checkRows_eq_ok_iff : ∀ {rows : List Row} {start : Nat},
    checkRows order start rows = .ok () ↔ ∀ row ∈ rows, ∀ c, c ∈ row.keys ↔ c ∈ order
  | [], _ => by simp [checkRows]
  | row :: rows, start => by
    rw [checkRows, andThen_eq_ok_iff, checkNames_eq_ok_iff, checkRows_eq_ok_iff,
      List.forall_mem_cons]

/-- **What the check accepts**: an order without repetition whose names are those of every metadata
map and of every row. -/
theorem check_eq_ok_iff {w : Workspace} : w.check = .ok () ↔
    w.order.Nodup ∧ (∀ c, c ∈ w.types.keys ↔ c ∈ w.order) ∧
      (∀ c, c ∈ w.distributions.keys ↔ c ∈ w.order) ∧ (∀ c, c ∈ w.gaps.keys ↔ c ∈ w.order) ∧
        ∀ row ∈ w.table.rows, ∀ c, c ∈ row.keys ↔ c ∈ w.order := by
  rw [check, ← distinct_iff_nodup]
  split
  next h =>
    have hd : distinct w.order = false := by simpa using h
    exact iff_of_false nofun fun hw => Bool.false_ne_true (hd.symm.trans hw.1)
  next h =>
    have hd : distinct w.order := by simpa using h
    simp only [andThen_eq_ok_iff, checkNames_eq_ok_iff, checkRows_eq_ok_iff, hd, true_and]

end Workspace

end Tabular
