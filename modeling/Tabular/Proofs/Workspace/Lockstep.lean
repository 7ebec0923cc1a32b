import Tabular.Proofs.Workspace.Alignment

/-!
# Two runs in step

Which operations have a target, what they make of the table and where they put columns is read off
the table and the order alone, so **two runs of the same operations that begin alike go on alike**,
whatever their providers find out about the columns and whatever the stamps are. The tables need not
be the same for this: a relation of tables will do if every operation has a target in both of two
related tables or in neither and leaves them related (`Table.KeptByEdits`). Workspaces are `InStep`
if their tables are so related and they agree in order and recorded operations; one step keeps them
in step (`Workspace.InStep.apply`), and so does a run (`Workspace.InStep.run`).
-/

namespace Tabular

variable {R : Table → Table → Prop}

/-- Every operation has a target in both of two related tables or in neither, and it leaves them
related. -/
def Table.KeptByEdits (R : Table → Table → Prop) : Prop :=
  ∀ (op : Operation) (t s : Table), R t s → Option.Rel R (op.edit? t) (op.edit? s)

/-- Equal tables are edited alike. -/
theorem Table.keptByEdits_eq : KeptByEdits Eq := by
  rintro op t _ rfl
  cases op.edit? t with
  | none => exact .none
  | some t' => exact .some rfl

namespace Workspace

variable {p q : Provider} {w v : Workspace} {stamp stamp' : Stamp} {op : Operation}
  {order : Option (List String)}

/-- The tables are related, and order and recorded operations are the same. -/
structure InStep (R : Table → Table → Prop) (w v : Workspace) : Prop where
  tables : R w.table v.table
  order : v.order = w.order
  operations : v.history.operations = w.history.operations

/-- Tables with the same columns are shown in the same order when they are loaded. -/
theorem InStep.load {t s : Table} (h : R t s) (hcolumns : s.columns = t.columns) :
    InStep R (load p t order).value (load q s order).value := by
  have horder : initialOrder s order = initialOrder t order := by
    cases order with
    | none => exact hcolumns
    | some requested => simp only [initialOrder, hcolumns]
  rw [load_value, load_value]
  exact ⟨h, horder, rfl⟩

/-- **One operation keeps workspaces in step**, under whatever providers and stamps. -/
theorem InStep.apply (hR : Table.KeptByEdits R) (h : InStep R w v) (hw : w.Aligned) :
    InStep R (w.apply p stamp op).value (v.apply q stamp' op).value := by
  have hedit := hR op w.table v.table h.tables
  obtain ⟨hw₀, hwv⟩ | ⟨t, P, S, hw₀, ho, hwv⟩ := apply_cases p w stamp op hw.nodup hw.columns
  · rw [hw₀] at hedit
    cases hv₀ : op.edit? v.table with
    | none => rwa [hwv, apply_of_edit?_eq_none q stamp' hv₀]
    | some s => exact absurd (hv₀ ▸ hedit) nofun
  · rw [hw₀] at hedit
    cases hv₀ : op.edit? v.table with
    | none => exact absurd (hv₀ ▸ hedit) nofun
    | some s =>
      rw [hv₀] at hedit
      rw [hwv, apply_of_edit?_eq_some q stamp' hv₀ (h.order.trans ho) (h.order ▸ hw.nodup)]
      constructor
      case tables => cases hedit with | some hts => exact hts
      case order => rfl
      case operations => rw [operations_stepped, operations_stepped, h.operations]

/-- The same operations, each under whatever stamps, keep workspaces in step. -/
theorem InStep.run (hR : Table.KeptByEdits R) :
    ∀ {ops again : List (Stamp × Operation)} {w v : Workspace}, InStep R w v → w.Aligned →
      again.map (·.2) = ops.map (·.2) → InStep R (run p w ops).value (run q v again).value
  | [], again, w, v, h, _, ha => by
    rw [List.map_eq_nil_iff.mp ha]
    exact h
  | (stamp, op) :: ops, again, w, v, h, hw, ha => by
    rw [List.map_cons] at ha
    obtain ⟨⟨stamp', op'⟩, again, rfl, rfl, hrest⟩ := List.map_eq_cons_iff.mp ha
    rw [run_cons, run_cons]
    exact InStep.run hR (h.apply hR hw) hw.apply hrest

end Workspace

end Tabular
