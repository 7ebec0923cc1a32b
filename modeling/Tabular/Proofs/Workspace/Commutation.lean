import Tabular.Proofs.Footprint
import Tabular.Proofs.Metadata
import Tabular.Proofs.Workspace.Alignment

/-!
# Independent operations commute

Two operations neither of which writes what the other reads or writes may be applied in either
order: **the workspaces reached are the same** but for their histories, whether or not either
operation has a target (`Workspace.Aligned.apply_comm`).

Rows and metadata maps are taken care of by the footprints of the operations. Two things are left.
The order of the columns is cut at the source of the first operation, and what the second one finds
is cut differently. But a step replaces its source wherever that may be, so it is a substitution in
the order (`Operation.inPlace`), and substitutions for different columns commute. And the columns
that an operation adds are described on two different tables. They hold the same cells in both, so a
provider that looks at nothing else (`Provider.Columnwise`) finds the same.
-/

namespace Tabular

/-! ### Providers that look at one column -/

/-- Whatever the provider finds out about a column follows from its cells. -/
structure Provider.Columnwise (p : Provider) : Prop where
  types : Table.BlindTo Eq p.inferType
  distributions : Table.BlindTo Eq p.ownDistribution
  gaps : Table.BlindTo Eq p.gaps

namespace Table

variable {α : Type} {R : Cell → Cell → Prop} {f : Table → String → α} {t t' : Table} {c : String}

/-- A function of columns that is blind to some differences is a function of their cells. -/
theorem BlindTo.eq (h : BlindTo R f) (hR : ∀ c, R c c) : BlindTo Eq f :=
  fun t c t' c' hcells => h t c t' c' (hcells.imp fun a _ hab => hab ▸ hR a)

theorem BlindTo.congr (h : BlindTo Eq f) (hc : t.column c = t'.column c) : f t c = f t' c :=
  h t c t' c (List.forall₂_eq_eq_eq ▸ hc)

end Table

/-- The standard provider looks at the cells of the column only. -/
theorem Provider.columnwise_standard : Provider.standard.Columnwise where
  types := Table.blindTo_inferType.eq Cell.Alike.refl
  distributions := Table.blindTo_distribution.eq Cell.Alike.refl
  gaps := Table.blindTo_gaps.eq fun _ => rfl

/-! ### Substitution in the order -/

namespace Operation

variable {a b op : Operation} {c : String} {l : List String}

/-- What stands in the place of a column after an operation with a target. -/
def inPlace (op : Operation) (c : String) : List String :=
  if c = op.source then op.replacement else [c]

theorem inPlace_source (op : Operation) : op.inPlace op.source = op.replacement := if_pos rfl

theorem inPlace_of_ne (h : c ≠ op.source) : op.inPlace c = [c] := if_neg h

/-- Columns other than the source stay. -/
theorem flatMap_inPlace (h : op.source ∉ l) : l.flatMap op.inPlace = l := by
  have hkeep : l.flatMap op.inPlace = l.flatMap fun c => [c] :=
    List.flatMap_congr fun c hc => inPlace_of_ne (ne_of_mem_of_not_mem hc h)
  rw [hkeep, List.flatMap_singleton']

/-- **Independent operations are substituted in either order.** -/
theorem Independent.flatMap_inPlace_comm (h : Independent a b) (l : List String) :
    (l.flatMap a.inPlace).flatMap b.inPlace = (l.flatMap b.inPlace).flatMap a.inPlace := by
  have hplace : ∀ c, (a.inPlace c).flatMap b.inPlace = (b.inPlace c).flatMap a.inPlace := by
    intro c
    by_cases ha : c = a.source
    · rw [ha, inPlace_source, flatMap_inPlace h.source_notMem_replacement,
        inPlace_of_ne h.source_ne, List.flatMap_singleton, inPlace_source]
    by_cases hb : c = b.source
    · rw [hb, inPlace_of_ne h.source_ne.symm, List.flatMap_singleton, inPlace_source,
        flatMap_inPlace h.symm.source_notMem_replacement]
    · rw [inPlace_of_ne ha, inPlace_of_ne hb, List.flatMap_singleton, List.flatMap_singleton,
        inPlace_of_ne ha, inPlace_of_ne hb]
  rw [List.flatMap_assoc, List.flatMap_assoc]
  exact List.flatMap_congr fun c _ => hplace c

end Operation

open Operation

/-! ### Workspaces -/

namespace Workspace

variable {p : Provider} {w : Workspace} {a b op : Operation} {stamp : Stamp} {t : Table}

/-- The workspace without its history. -/
def withoutHistory (w : Workspace) : Workspace := { w with history := [] }

/-- **A step substitutes in the order** and carries the metadata over. -/
theorem Aligned.apply_eq (hw : w.Aligned) (h : op.edit? w.table = some t) :
    (w.apply p stamp op).value =
      { table := t
        order := w.order.flatMap op.inPlace
        types := op.carry (p.inferType t) w.types
        distributions := op.carry (p.ownDistribution t) w.distributions
        gaps := op.carry (p.gaps t) w.gaps
        history := w.history ++ [Entry.ofStamp stamp op] } := by
  obtain ⟨P, S, ho⟩ := List.append_of_mem (hw.source_mem_order (edit?_eq_some_iff.mp h).1)
  obtain ⟨hP, hS⟩ := source_notMem ho hw.nodup
  have horder : w.order.flatMap op.inPlace = P ++ op.replacement ++ S := by
    rw [ho, List.flatMap_append, List.flatMap_cons, flatMap_inPlace hP, flatMap_inPlace hS,
      inPlace_source, List.append_assoc]
  rw [apply_of_edit?_eq_some p stamp h ho hw.nodup, horder]
  rfl

/-- Stamps make a difference for the history only. -/
theorem Aligned.withoutHistory_apply (hw : w.Aligned) (s₁ s₂ : Stamp) :
    (w.apply p s₁ op).value.withoutHistory = (w.apply p s₂ op).value.withoutHistory := by
  cases h : op.edit? w.table with
  | none => rw [apply_of_edit?_eq_none p s₁ h, apply_of_edit?_eq_none p s₂ h]
  | some t =>
    rw [hw.apply_eq h, hw.apply_eq h]
    rfl

/-- Of two independent operations the one without a target may come before or after the other. -/
theorem Aligned.apply_skipped_comm (hw : w.Aligned) (h : Independent a b)
    (hb : b.edit? w.table = none) (s₁ s₂ s₃ s₄ : Stamp) :
    ((w.apply p s₁ a).value.apply p s₂ b).value.withoutHistory =
      ((w.apply p s₃ b).value.apply p s₄ a).value.withoutHistory := by
  have hskip : b.edit? (w.apply p s₁ a).value.table = none := by
    cases ha : a.edit? w.table with
    | none => rwa [apply_of_edit?_eq_none p s₁ ha]
    | some ta =>
      rw [hw.apply_eq ha]
      exact h.symm.edit?_eq_none hb ha
  rw [apply_of_edit?_eq_none p s₂ hskip, apply_of_edit?_eq_none p s₃ hb]
  exact hw.withoutHistory_apply s₁ s₄

/-- **Independent steps commute** in any aligned workspace, if nothing but the cells of a column
tells what is found out about it. -/
theorem Aligned.apply_comm (hw : w.Aligned) (hp : p.Columnwise) (h : Independent a b)
    (s₁ s₂ s₃ s₄ : Stamp) :
    ((w.apply p s₁ a).value.apply p s₂ b).value.withoutHistory =
      ((w.apply p s₃ b).value.apply p s₄ a).value.withoutHistory := by
  cases hb : b.edit? w.table with
  | none => exact hw.apply_skipped_comm h hb s₁ s₂ s₃ s₄
  | some tb =>
    cases ha : a.edit? w.table with
    | none => exact (hw.apply_skipped_comm h.symm ha s₃ s₄ s₁ s₂).symm
    | some ta =>
      obtain ⟨u, hab, hba⟩ := h.edit?_comm ha hb
      have hwa : (w.apply p s₁ a).value.Aligned := hw.apply
      have hwb : (w.apply p s₃ b).value.Aligned := hw.apply
      have hab' : b.edit? (w.apply p s₁ a).value.table = some u := by rwa [hw.apply_eq ha]
      have hba' : a.edit? (w.apply p s₃ b).value.table = some u := by rwa [hw.apply_eq hb]
      -- what is computed for added columns is the same before and after the other operation
      have hcarry : ∀ {α : Type} {f : Table → String → α} (m : Keyed α), Table.BlindTo Eq f →
          b.carry (f u) (a.carry (f ta) m) = a.carry (f u) (b.carry (f tb) m) := fun m hf =>
        h.carry_comm (fun c hc => hf.congr (h.column_of_added ha hb hba hc))
          fun c hc => hf.congr (h.symm.column_of_added hb ha hab hc)
      rw [hwa.apply_eq hab', hwb.apply_eq hba', hw.apply_eq ha, hw.apply_eq hb]
      simp only [withoutHistory, h.flatMap_inPlace_comm, hcarry _ hp.types,
        hcarry _ hp.distributions, hcarry _ hp.gaps]

/-- **Independent operations commute.** In every workspace that any table, ragged or not, any
requested order and any operations lead to, two independent operations of any kinds lead in either
order to the same table, order, types, distributions and gaps, whether or not each of them has a
target and whatever the stamps are. -/
theorem independent_operations_commute (q : Provider) (t : Table) (order : Option (List String))
    (ops : List (Stamp × Operation)) (a b : Operation) (h : Independent a b)
    (s₁ s₂ s₃ s₄ : Stamp) :
    let w := (replay q t order ops).value
    let ab := ((w.apply .standard s₁ a).value.apply .standard s₂ b).value
    let ba := ((w.apply .standard s₃ b).value.apply .standard s₄ a).value
    ab.table = ba.table ∧ ab.order = ba.order ∧ ab.types = ba.types ∧
      ab.distributions = ba.distributions ∧ ab.gaps = ba.gaps := by
  intro w ab ba
  have hw : w.Aligned := run_load_aligned q q t order ops
  have hcomm : ab.withoutHistory = ba.withoutHistory :=
    hw.apply_comm Provider.columnwise_standard h s₁ s₂ s₃ s₄
  simpa only [withoutHistory, mk.injEq, and_true] using hcomm

/-- A split and a merge that read the same column; the second row lacks the other one. -/
theorem split_and_merge_commute :
    let t := Table.ofRecords ["name", "id"] [[.text "Ada Lovelace", .int 1], [.text "Alan"]]
    let split : Operation := .split "name" " " "first" "last"
    let merge : Operation := .merge "id" "name" "-" "label"
    let ops : List (Stamp × Operation) := [(default, .recase .upper "name")]
    let w := (replay .standard t none ops).value
    let ab := ((w.apply .standard default split).value.apply .standard default merge).value
    let ba := ((w.apply .standard default merge).value.apply .standard default split).value
    Independent split merge ∧ ba.order = ["id", "label", "name", "first", "last"] ∧
      ab.table = ba.table ∧ ab.order = ba.order ∧ ab.types = ba.types ∧
        ab.distributions = ba.distributions ∧ ab.gaps = ba.gaps := by
  intro t split merge ops w ab ba
  have h : Independent split merge := by decide
  have horder : ba.order = ["id", "label", "name", "first", "last"] := by decide
  refine ⟨h, horder, ?_⟩
  dsimp only [ab, ba, w]
  exact independent_operations_commute .standard t none ops split merge h default default default
    default

end Workspace

end Tabular
