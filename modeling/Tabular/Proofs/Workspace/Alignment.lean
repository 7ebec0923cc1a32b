import Tabular.Proofs.Workspace.Consistency
import Tabular.Proofs.Workspace.Loading

/-!
# Workspaces stay aligned

A workspace keeps the names of its columns in five places: the order, the three metadata maps and
the first row of the table. It is `Aligned` if all five hold the same names and the order holds each
of them once. Rows are edited and the other four places are updated by separate code, and what ties
them together is that **both put the same replacement in the place of the source column**.

Loading gives an aligned workspace and every operation keeps it aligned, with or without a target
and whatever names it is given (`Workspace.load_aligned`, `Workspace.Aligned.apply`). Nothing is
assumed about the rows beyond the first; if they all share its columns, then the workspace is
consistent throughout.
-/

namespace Tabular

namespace Workspace

variable {p : Provider} {w : Workspace} {op : Operation} {stamp : Stamp} {t : Table}
  {order : Option (List String)}

/-- The order lists without repetition the columns of the table, and these are the names in each of
the three metadata maps. -/
structure Aligned (w : Workspace) : Prop where
  nodup : w.order.Nodup
  columns : ∀ c, c ∈ w.table.columns ↔ c ∈ w.order
  types : ∀ c, c ∈ w.types.keys ↔ c ∈ w.order
  distributions : ∀ c, c ∈ w.distributions.keys ↔ c ∈ w.order
  gaps : ∀ c, c ∈ w.gaps.keys ↔ c ∈ w.order

/-- The source column of an operation with a target is shown. -/
theorem Aligned.source_mem_order (hw : w.Aligned) (h : op.applies w.table) :
    op.source ∈ w.order :=
  (hw.columns op.source).mp (Operation.source_mem_columns h)

/-- A loaded workspace is aligned. -/
theorem load_aligned : (load p t order).value.Aligned := by
  rw [load_value]
  constructor
  case nodup => exact initialOrder_nodup
  case columns => exact fun c => mem_initialOrder.symm
  all_goals
    intro c
    rw [Keyed.mem_keys_insertAll, Keyed.keys_empty]
    simp only [List.not_mem_nil, or_false]

/-- The order after a step has the replacement in place of the source column. -/
theorem mem_stepped_order {P S : List String} {c : String} (ho : w.order = P ++ op.source :: S)
    (hn : w.order.Nodup) :
    c ∈ P ++ op.replacement ++ S ↔ c ∈ op.replacement ∨ (c ≠ op.source ∧ c ∈ w.order) := by
  obtain ⟨hP, hS⟩ := source_notMem ho hn
  simp only [ho, List.mem_append, List.mem_cons]
  grind

/-- A metadata map that had the names of the order has those of the order after a step. -/
theorem mem_keys_carry_iff {α : Type} {f : String → α} {m : Keyed α} {P S : List String}
    (hm : ∀ c, c ∈ m.keys ↔ c ∈ w.order) (ho : w.order = P ++ op.source :: S)
    (hn : w.order.Nodup) (c : String) :
    c ∈ (op.carry f m).keys ↔ c ∈ P ++ op.replacement ++ S := by
  have hs : op.source ∈ m.keys := by
    rw [hm, ho]
    exact List.mem_append_right P List.mem_cons_self
  rw [Operation.mem_keys_carry hs, hm, mem_stepped_order ho hn]

/-- No column of the replacement is shown elsewhere, so none is shown twice. -/
theorem stepped_order_nodup {P S : List String} (hw : w.Aligned) (ha : op.applies w.table)
    (ho : w.order = P ++ op.source :: S) : (P ++ op.replacement ++ S).Nodup := by
  obtain ⟨hP, hS⟩ := source_notMem ho hw.nodup
  have hPS : (P ++ S).Nodup := (List.nodup_middle.mp (ho ▸ hw.nodup)).of_cons
  -- what replaces the source is the source, shown nowhere else, or no column of the table yet
  have hfresh : ∀ c ∈ op.replacement, c ∉ P ∧ c ∉ S := by
    intro c hc
    by_cases hs : c = op.source
    · exact hs ▸ ⟨hP, hS⟩
    · have hout := Operation.notMem_columns_of_mem_replacement ha hc hs
      rw [hw.columns, ho] at hout
      simpa [hs] using hout
  rw [List.append_assoc, List.nodup_append_comm, List.append_assoc, List.nodup_append']
  refine ⟨Operation.replacement_nodup ha, List.nodup_append_comm.mp hPS, fun c hc hcPS => ?_⟩
  rcases List.mem_append.mp hcPS with hcS | hcP
  · exact (hfresh c hc).2 hcS
  · exact (hfresh c hc).1 hcP

/-- **One step keeps the workspace aligned.** Rows, order and maps all lose and gain the same
names. -/
theorem Aligned.apply (hw : w.Aligned) : (w.apply p stamp op).value.Aligned := by
  obtain ⟨-, hv⟩ | ⟨t, P, S, he, ho, hv⟩ := apply_cases p w stamp op hw.nodup hw.columns
  · rwa [hv]
  · rw [hv]
    -- all five places have the names that `mem_stepped_order` gives for the order
    constructor
    case nodup => exact stepped_order_nodup hw (Operation.edit?_eq_some_iff.mp he).1 ho
    case columns =>
      intro c
      rw [stepped, Table.mem_columns_edit he, hw.columns, ← mem_stepped_order ho hw.nodup]
    case types => exact mem_keys_carry_iff hw.types ho hw.nodup
    case distributions => exact mem_keys_carry_iff hw.distributions ho hw.nodup
    case gaps => exact mem_keys_carry_iff hw.gaps ho hw.nodup

/-- Every workspace that a table leads to is aligned. -/
theorem run_load_aligned (p q : Provider) (t : Table) (order : Option (List String))
    (ops : List (Stamp × Operation)) : (run q (load p t order).value ops).value.Aligned :=
  run_induction (fun _ _ _ hw => hw.apply) ops load_aligned

/-! ### Rows with common columns -/

/-- A step leaves the rows with common columns. -/
theorem Aligned.apply_uniform (hw : w.Aligned) (hu : w.table.Uniform) :
    (w.apply p stamp op).value.table.Uniform := by
  obtain ⟨-, hv⟩ | ⟨t, P, S, he, -, hv⟩ := apply_cases p w stamp op hw.nodup hw.columns
  · rwa [hv]
  · rw [hv]
    exact hu.edit he

theorem run_load_uniform (p q : Provider) (order : Option (List String))
    (ops : List (Stamp × Operation)) (hu : t.Uniform) :
    (run q (load p t order).value ops).value.table.Uniform := by
  have hload : (load p t order).value.table.Uniform := by rwa [load_value]
  exact (run_induction (I := fun w => w.Aligned ∧ w.table.Uniform)
    (fun _ _ _ hw => ⟨hw.1.apply, hw.1.apply_uniform hw.2⟩) ops ⟨load_aligned, hload⟩).2

/-- An aligned workspace whose rows share their columns passes the check. -/
theorem Aligned.check (hw : w.Aligned) (hu : w.table.Uniform) : w.check = .ok () := by
  refine check_eq_ok_iff.mpr ⟨hw.nodup, hw.types, hw.distributions, hw.gaps, ?_⟩
  intro row hrow c
  rw [hu row hrow, hw.columns]

/-- The check of an aligned workspace is about the rows alone. -/
theorem Aligned.check_eq_ok_iff_uniform (hw : w.Aligned) :
    w.check = .ok () ↔ w.table.Uniform := by
  refine ⟨fun h => Table.uniform_iff.mpr fun row hrow c => ?_, hw.check⟩
  obtain ⟨-, -, -, -, hrows⟩ := check_eq_ok_iff.mp h
  exact (hrows row hrow c).trans (hw.columns c).symm

/-- An aligned workspace without rows has no columns anywhere. -/
theorem Aligned.eq_nil (hw : w.Aligned) (h : w.table.rows = []) :
    w.order = [] ∧ w.types = ∅ ∧ w.distributions = ∅ ∧ w.gaps = ∅ := by
  have hnone : ∀ c, c ∉ w.order := fun c hc => by
    have hc := (hw.columns c).mpr hc
    rw [Table.columns, h] at hc
    exact List.not_mem_nil hc
  refine ⟨List.eq_nil_iff_forall_not_mem.mpr hnone, ?_, ?_, ?_⟩
  · exact Keyed.eq_empty fun c hc => hnone c ((hw.types c).mp hc)
  · exact Keyed.eq_empty fun c hc => hnone c ((hw.distributions c).mp hc)
  · exact Keyed.eq_empty fun c hc => hnone c ((hw.gaps c).mp hc)

/-- **Columns agree in every reachable workspace.** From any table, ragged or not, any requested
order and any operations, one after the other: the order has no repetition, its names are those of
the three metadata maps and of the first row, and without rows there are none at all. If the rows
that were loaded share their columns, the check succeeds. -/
theorem reachable_columns_agree (p q : Provider) (t : Table) (order : Option (List String))
    (ops : List (Stamp × Operation)) :
    let w := (run q (load p t order).value ops).value
    w.Aligned ∧
      (w.table.rows = [] → w.order = [] ∧ w.types = ∅ ∧ w.distributions = ∅ ∧ w.gaps = ∅) ∧
        (t.Uniform → w.check = .ok ()) := by
  intro w
  have hw : w.Aligned := run_load_aligned p q t order ops
  exact ⟨hw, hw.eq_nil, fun hu => hw.check (run_load_uniform p q order ops hu)⟩

/-- A rename to a name that exists is skipped, and the merge after it still finds its columns. -/
theorem check_after_colliding_rename :
    let t := Table.ofRecords ["city", "name"] [[.text "Rome", .text "Ada"], [.null, .int 3]]
    let ops : List (Stamp × Operation) :=
      [(default, .rename "city" "name"), (default, .merge "city" "name" "/" "place")]
    let w := (run .standard (load .standard t (some ["name", "name"])).value ops).value
    t.Uniform ∧ w.order = ["name", "city", "place"] ∧ w.check = .ok () := by
  intro t ops w
  have hu : t.Uniform := by decide
  exact ⟨hu, by decide, (reachable_columns_agree .standard .standard t _ ops).2.2 hu⟩

end Workspace

end Tabular
