import Tabular.Proofs.Workspace.Alignment

/-!
# Replaying the history

The history of a workspace lists the operations that had a target when their turn came, and leaves
out all others. **Replaying it on the table it began with leads to the same workspace** although the
replay runs a shorter list than was submitted: an operation without a target changes no field, so
leaving it out changes neither what later operations meet nor whether they have a target
(`Workspace.SameUpToStamps.run_effective`).

Identifiers and times are given anew in a replay and nothing depends on them, which is what
`Workspace.SameUpToStamps` says: two workspaces with the same table, order, metadata and recorded
operations take every step alike.
-/

namespace Tabular

namespace Workspace

variable {p : Provider} {w v : Workspace} {op : Operation} {stamp stamp' : Stamp}

/-! ### Recorded operations -/

/-- The operations of a list that have a target in the workspace they meet, in order. -/
def effective (p : Provider) (w : Workspace) : List (Stamp × Operation) → List Operation
  | [] => []
  | (stamp, op) :: ops =>
    if (op.edit? w.table).isSome then op :: effective p (w.apply p stamp op).value ops
    else effective p (w.apply p stamp op).value ops

/-- A run records the effective operations and no others. -/
theorem operations_run : ∀ (ops : List (Stamp × Operation)) {w : Workspace}, w.Aligned →
    (run p w ops).value.history.operations = w.history.operations ++ effective p w ops
  | [], w, _ => (List.append_nil _).symm
  | (stamp, op) :: ops, w, hw => by
    -- the entry of this step comes before those of all later ones
    rw [run_cons, operations_run ops hw.apply, effective]
    obtain ⟨he, hv⟩ | ⟨t, P, S, he, -, hv⟩ := apply_cases p w stamp op hw.nodup hw.columns
    · rw [he, hv]
      rfl
    · rw [he, hv, operations_stepped, List.append_assoc]
      rfl

/-! ### Workspaces that differ in stamps only -/

/-- The two workspaces have all in common but the identifiers and times of their histories. -/
structure SameUpToStamps (w v : Workspace) : Prop where
  table : v.table = w.table
  order : v.order = w.order
  types : v.types = w.types
  distributions : v.distributions = w.distributions
  gaps : v.gaps = w.gaps
  operations : v.history.operations = w.history.operations

theorem SameUpToStamps.refl (w : Workspace) : SameUpToStamps w w := ⟨rfl, rfl, rfl, rfl, rfl, rfl⟩

/-- The same operation, under whatever stamps, leads from such workspaces to such workspaces. -/
theorem SameUpToStamps.apply (h : SameUpToStamps w v) (hw : w.Aligned) :
    SameUpToStamps (w.apply p stamp op).value (v.apply p stamp' op).value := by
  obtain ⟨he, hwv⟩ | ⟨t, P, S, he, ho, hwv⟩ := apply_cases p w stamp op hw.nodup hw.columns
  · rw [hwv, apply_of_edit?_eq_none p stamp' (h.table ▸ he)]
    exact h
  · have hvv := apply_of_edit?_eq_some p stamp' (h.table ▸ he)
      (h.order.trans ho) (h.order ▸ hw.nodup)
    rw [hwv, hvv]
    constructor
    case operations => rw [operations_stepped, operations_stepped, h.operations]
    all_goals simp only [stepped, h.types, h.distributions, h.gaps]

/-- A run and the run of its effective operations, under whatever stamps, end alike. -/
theorem SameUpToStamps.run_effective : ∀ {ops again : List (Stamp × Operation)} {w v : Workspace},
    SameUpToStamps w v → w.Aligned → again.map (·.2) = effective p w ops →
      SameUpToStamps (run p w ops).value (run p v again).value
  | [], again, w, v, h, _, ha => by
    rw [List.map_eq_nil_iff.mp ha]
    exact h
  | (stamp, op) :: ops, again, w, v, h, hw, ha => by
    rw [effective] at ha
    split at ha
    next _ =>
      obtain ⟨⟨stamp', op'⟩, again, rfl, rfl, ha⟩ := List.map_eq_cons_iff.mp ha
      rw [run_cons, run_cons]
      exact run_effective (h.apply hw) hw.apply ha
    next he =>
      -- the step is a no-op, so the shorter run is behind by nothing
      have hv := apply_of_edit?_eq_none p stamp (Option.not_isSome_iff_eq_none.mp he)
      rw [hv] at ha
      rw [run_cons, hv]
      exact run_effective h hw ha

/-- **The history replays.** After any operations on any loaded table, ragged or not, the history
lists in order exactly those operations that had a target in the workspace they met; every other
operation left the workspace, with all its fields, as it was; and the recorded operations, entered
under any stamps, lead from the same table and requested order to the same table, order, metadata
and recorded operations. -/
theorem replay_of_history (p : Provider) (t : Table) (order : Option (List String))
    (ops : List (Stamp × Operation)) :
    let w := (replay p t order ops).value
    w.history.operations = effective p (load p t order).value ops ∧
      (∀ before stamp op after, ops = before ++ (stamp, op) :: after →
        let met := (replay p t order before).value
        op.edit? met.table = none → (met.apply p stamp op).value = met) ∧
      ∀ again : List (Stamp × Operation), again.map (·.2) = w.history.operations →
        SameUpToStamps w (replay p t order again).value := by
  intro w
  have hw : (load p t order).value.Aligned := load_aligned
  have hops : w.history.operations = effective p (load p t order).value ops := by
    have hempty : (load p t order).value.history.operations = [] := by
      rw [load_value]
      rfl
    have hrun := operations_run (p := p) ops hw
    rw [hempty, List.nil_append] at hrun
    exact hrun
  refine ⟨hops, fun before stamp op after _ => apply_of_edit?_eq_none p stamp, fun again ha => ?_⟩
  exact (SameUpToStamps.refl _).run_effective hw (ha.trans hops)

/-- The skipped rename is not in the history, and the replay does without it. -/
theorem replay_without_skipped :
    let t := Table.ofRecords ["city", "name"] [[.text "Rome", .text "Ada"], [.null, .int 3]]
    let ops : List (Stamp × Operation) :=
      [(default, .rename "city" "name"), (default, .merge "city" "name" "/" "place")]
    let again : List (Stamp × Operation) := [(default, .merge "city" "name" "/" "place")]
    let w := (replay .standard t none ops).value
    w.history.operations = again.map (·.2) ∧
      SameUpToStamps w (replay .standard t none again).value := by
  intro t ops again w
  have hops : w.history.operations = again.map (·.2) := by decide
  exact ⟨hops, (replay_of_history .standard t none ops).2.2 again hops.symm⟩

end Workspace

end Tabular
