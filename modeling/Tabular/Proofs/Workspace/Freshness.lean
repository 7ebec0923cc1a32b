import Tabular.Proofs.Metadata
import Tabular.Proofs.Workspace.Alignment

/-!
# Metadata stays fresh

Types, distributions and gaps are computed when a column is loaded or added, and from then on they
are carried along with the column while its table is edited around it, and even while the column
itself is set in another case. A map of metadata is `Fresh` if it nevertheless holds for every
column what would be computed for it on the table **as it is now**.

What is computed is `BlindTo` some relation of cells. An operation keeps a map fresh if it relates
each cell it retouches to the retouched one (`Fresh.edit`), and only setting a column in a case
retouches any. Gaps are not affected by it at all, so they are fresh in every workspace that is
reached (`Workspace.run_load_fresh_gaps`). Types and distributions are fresh as long as the cells
set in a case are plain, and then the workspace is `Current` and could as well be loaded again
(`Workspace.Current.load_eq`).
-/

namespace Tabular

variable {α : Type} {g : Table → String → α} {m : Keyed α} {R : Cell → Cell → Prop}
  {op : Operation} {t t' : Table}

/-- The map holds for every column of the table what `g` makes of it. -/
def Fresh (g : Table → String → α) (t : Table) (m : Keyed α) : Prop :=
  ∀ c ∈ t.columns, m.get? c = some (g t c)

/-- **An edit keeps metadata fresh** if all cells are related to what becomes of them and `g` is
blind to the relation. -/
theorem Fresh.edit (hm : Fresh g t m) (hg : Table.BlindTo R g) (hu : t.Uniform)
    (h : op.edit? t = some t') (hkeys : ∀ c, c ∈ m.keys ↔ c ∈ t.columns)
    (hR : ∀ d, ∀ cell ∈ t.column d, R cell (op.retouch d cell)) :
    Fresh g t' (op.carry (g t') m) := by
  intro c hc
  cases hd : op.origin? c with
  | none => exact Operation.get?_carry_of_added hd
  | some d =>
    have hs : op.source ∈ m.keys := by
      rw [hkeys]
      exact Operation.source_mem_columns (Operation.edit?_eq_some_iff.mp h).1
    have hplace := ((Table.mem_columns_edit h).mp hc).imp_right And.left
    have hcells : List.Forall₂ R (t.column d) (t'.column c) := by
      rw [Table.column_edit hu h hc hd, List.forall₂_map_right_iff, List.forall₂_same]
      exact hR d
    -- the entry of the origin is fresh, and what it says of the origin is true of the column now
    rw [Operation.get?_carry hs hplace hd, hm d (Table.origin_mem_columns h hc hd),
      hg t d t' c hcells]

/-! ### Cells set in a case -/

namespace Operation

/-- A cell is missing after an operation exactly if it was missing before. -/
theorem isMissing_retouch (op : Operation) (c : String) (cell : Cell) :
    cell.isMissing = (op.retouch c cell).isMissing := by
  obtain hid | ⟨style, -, hstyle⟩ := op.retouch_cases c
  · rw [hid, id]
  · rw [hstyle, Cell.isMissing_recaseCell]

/-- If the operation sets a column of the table in a case, then all cells of the column are
plain. -/
def RecasesPlain (t : Table) : Operation → Prop
  | recase _ column => t.hasColumn column → ∀ cell ∈ t.column column, cell.Plain
  | _ => True

instance (t : Table) : DecidablePred (RecasesPlain t)
  | recase _ column =>
    inferInstanceAs (Decidable (t.hasColumn column → ∀ cell ∈ t.column column, cell.Plain))
  | drop .. | rename .. | split .. | merge .. | substring .. => isTrue trivial

/-- Such an operation leaves all cells alike. -/
theorem RecasesPlain.alike_retouch (hop : op.RecasesPlain t) (ha : op.applies t) (c : String) :
    ∀ cell ∈ t.column c, Cell.Alike cell (op.retouch c cell) := by
  intro cell hcell
  obtain hid | ⟨style, rfl, hstyle⟩ := op.retouch_cases c
  · rw [hid]
    exact .refl cell
  · rw [hstyle]
    exact Cell.Plain.alike_recaseCell (hop ha cell hcell) style

end Operation

/-! ### Steps -/

namespace Workspace

variable {p : Provider} {w : Workspace} {stamp : Stamp} {order : Option (List String)}

/-- One step keeps one of the maps of a workspace fresh. -/
theorem Aligned.apply_fresh (hw : w.Aligned) (hu : w.table.Uniform) (field : Workspace → Keyed α)
    (hfield : ∀ t P S, field (stepped p w stamp op t P S) = op.carry (g t) (field w))
    (hkeys : ∀ c, c ∈ (field w).keys ↔ c ∈ w.order) (hg : Table.BlindTo R g)
    (hR : op.applies w.table → ∀ d, ∀ cell ∈ w.table.column d, R cell (op.retouch d cell))
    (hm : Fresh g w.table (field w)) :
    Fresh g (w.apply p stamp op).value.table (field (w.apply p stamp op).value) := by
  obtain ⟨-, hv⟩ | ⟨t, P, S, he, -, hv⟩ := apply_cases p w stamp op hw.nodup hw.columns
  · rwa [hv]
  · rw [hv, hfield]
    have ha := (Operation.edit?_eq_some_iff.mp he).1
    exact hm.edit hg hu he (fun c => (hkeys c).trans (hw.columns c).symm) (hR ha)

/-- A loaded workspace keeps of every column what was just computed. -/
theorem fresh_initial (g : Table → String → α) (t : Table) (order : Option (List String)) :
    Fresh g t (Keyed.insertAll (g t) ∅ (initialOrder t order)) := by
  intro c hc
  rw [Keyed.get?_insertAll, if_pos (mem_initialOrder.mpr hc)]

/-! ### Gaps -/

/-- The gaps kept are those of the table in every workspace it leads to. -/
theorem run_load_fresh_gaps (order : Option (List String)) (ops : List (Stamp × Operation))
    (hu : t.Uniform) :
    let w := (run .standard (load .standard t order).value ops).value
    Fresh Table.gaps w.table w.gaps := by
  have hload : Fresh Table.gaps (load .standard t order).value.table
      (load .standard t order).value.gaps := by
    rw [load_value]
    exact fresh_initial Table.gaps t order
  have hstart : (load .standard t order).value.table.Uniform := by rwa [load_value]
  refine (run_induction (I := fun w => (w.Aligned ∧ w.table.Uniform) ∧
    Fresh Table.gaps w.table w.gaps) ?_ ops ⟨⟨load_aligned, hstart⟩, hload⟩).2
  rintro w stamp op ⟨⟨hw, hu⟩, hm⟩
  refine ⟨⟨hw.apply, hw.apply_uniform hu⟩, ?_⟩
  exact hw.apply_fresh hu gaps (fun _ _ _ => rfl) hw.gaps Table.blindTo_gaps
    (fun _ d cell _ => op.isMissing_retouch d cell) hm

/-- **Gaps are never stale.** From a table whose rows share their columns, with cells of any kind
and texts of any characters, by any operations: the gaps kept for every column of the order are
those of the column as it is now. They list in order exactly the rows whose cell is null or the
empty text, and count them. -/
theorem gaps_never_stale (t : Table) (order : Option (List String))
    (ops : List (Stamp × Operation)) (hu : t.Uniform) :
    let w := (replay .standard t order ops).value
    ∀ c ∈ w.order, ∃ g, w.gaps.get? c = some g ∧ g = w.table.gaps c ∧
      g.count = g.rows.length ∧ g.rows.Pairwise (· < ·) ∧
      ∀ i, i ∈ g.rows ↔ ∃ row, w.table.rows[i]? = some row ∧
        (row.get? c = some .null ∨ row.get? c = some (.text "")) := by
  intro w c hc
  have hw : w.Aligned := run_load_aligned .standard .standard t order ops
  have hwu : w.table.Uniform := run_load_uniform .standard .standard order ops hu
  have hm : Fresh Table.gaps w.table w.gaps := run_load_fresh_gaps order ops hu
  have hct : c ∈ w.table.columns := (hw.columns c).mpr hc
  refine ⟨w.table.gaps c, hm c hct, rfl, rfl, Table.pairwise_rows_gaps, fun i => ?_⟩
  rw [Table.mem_rows_gaps]
  refine exists_congr fun row => and_congr_right fun hrow => Gaps.isGap_iff ?_
  rw [hwu row (List.mem_of_getElem? hrow)]
  exact hct

/-- Gaps stay gaps, and other cells stay others, when their column is set in a case and renamed. -/
theorem gaps_after_titlecase :
    let t := Table.ofRecords ["city", "name"]
      [[.text "", .text "Ada"], [.null, .int 3], [.text "ß", .bool true]]
    let ops : List (Stamp × Operation) :=
      [(default, .recase .title "city"), (default, .rename "city" "town")]
    let w := (replay .standard t none ops).value
    t.Uniform ∧ "town" ∈ w.order ∧ w.gaps.get? "town" = some ⟨2, [0, 1]⟩ := by
  intro t ops w
  have hu : t.Uniform := by decide
  have hw : "town" ∈ w.order := by decide
  have hrows : w.table.gaps "town" = ⟨2, [0, 1]⟩ := by decide
  obtain ⟨g, hg, heq, -⟩ := gaps_never_stale t none ops hu "town" hw
  exact ⟨hu, hw, by rw [hg, heq, hrows]⟩

/-! ### Types and distributions -/

/-- All that the workspace keeps about its columns is what the provider makes of the table as it is
now. -/
structure Current (p : Provider) (w : Workspace) : Prop where
  aligned : w.Aligned
  uniform : w.table.Uniform
  types : Fresh p.inferType w.table w.types
  distributions : Fresh p.ownDistribution w.table w.distributions
  gaps : Fresh p.gaps w.table w.gaps

theorem load_current (p : Provider) (order : Option (List String)) (hu : t.Uniform) :
    (load p t order).value.Current p := by
  have hw : (load p t order).value.Aligned := load_aligned
  rw [load_value] at hw ⊢
  exact ⟨hw, hu, fresh_initial _ t order, fresh_initial _ t order, fresh_initial _ t order⟩

/-- A step leaves a workspace current if what it sets in a case is plain. -/
theorem Current.apply (hw : w.Current .standard) (hop : op.RecasesPlain w.table) :
    (w.apply .standard stamp op).value.Current .standard := by
  have halike := hop.alike_retouch
  constructor
  case aligned => exact hw.aligned.apply
  case uniform => exact hw.aligned.apply_uniform hw.uniform
  case types =>
    exact hw.aligned.apply_fresh hw.uniform Workspace.types (fun _ _ _ => rfl) hw.aligned.types
      Table.blindTo_inferType halike hw.types
  case distributions =>
    exact hw.aligned.apply_fresh hw.uniform Workspace.distributions (fun _ _ _ => rfl)
      hw.aligned.distributions Table.blindTo_distribution halike hw.distributions
  case gaps =>
    exact hw.aligned.apply_fresh hw.uniform Workspace.gaps (fun _ _ _ => rfl) hw.aligned.gaps
      Table.blindTo_gaps (fun _ d cell _ => op.isMissing_retouch d cell) hw.gaps

/-- Whenever an operation of the list sets a column in a case, in the workspace it meets, the column
holds plain cells only. -/
def RecasesPlain (p : Provider) : Workspace → List (Stamp × Operation) → Prop
  | _, [] => True
  | w, (stamp, op) :: ops =>
    op.RecasesPlain w.table ∧ RecasesPlain p (w.apply p stamp op).value ops

theorem Current.run : ∀ (ops : List (Stamp × Operation)) {w : Workspace}, w.Current .standard →
    RecasesPlain .standard w ops → (run .standard w ops).value.Current .standard
  | [], _, hw, _ => hw
  | (_, _) :: ops, _, hw, ⟨hop, hops⟩ => Current.run ops (hw.apply hop) hops

/-- A current workspace is what its table gives when it is loaded in its order, apart from the
history. -/
theorem Current.load_eq (hw : w.Current p) :
    (load p w.table (some w.order)).value = { w with history := [] } := by
  have hcolumns : ∀ c ∈ w.order, c ∈ w.table.columns := fun c => (hw.aligned.columns c).mpr
  have htypes : w.types = Keyed.insertAll (p.inferType w.table) ∅ w.order :=
    Keyed.eq_insertAll hw.aligned.types fun c hc => hw.types c (hcolumns c hc)
  have hdistributions : w.distributions = Keyed.insertAll (p.ownDistribution w.table) ∅ w.order :=
    Keyed.eq_insertAll hw.aligned.distributions fun c hc => hw.distributions c (hcolumns c hc)
  have hgaps : w.gaps = Keyed.insertAll (p.gaps w.table) ∅ w.order :=
    Keyed.eq_insertAll hw.aligned.gaps fun c hc => hw.gaps c (hcolumns c hc)
  rw [load_value, initialOrder_eq_self hw.aligned.nodup hw.aligned.columns, ← htypes,
    ← hdistributions, ← hgaps]

/-- **Metadata carried along is metadata computed anew.** From a table whose rows share their
columns, by any operations of which those that set a column in a case meet plain cells only: the
table reached, loaded in the order reached, gives the workspace reached, apart from the history. -/
theorem reload_replayed (t : Table) (order : Option (List String)) (ops : List (Stamp × Operation))
    (hu : t.Uniform) (hops : RecasesPlain .standard (load .standard t order).value ops) :
    let w := (replay .standard t order ops).value
    (load .standard w.table (some w.order)).value = { w with history := [] } := by
  intro w
  have hw : w.Current .standard := (load_current .standard order hu).run ops hops
  exact hw.load_eq

/-- Truth values in capitals are still truth values, also where they become texts. -/
theorem reload_after_uppercase :
    let t := Table.ofRecords ["city", "old"]
      [[.text "Rome", .text "true"], [.null, .null], [.text "Troy", .bool false]]
    let ops : List (Stamp × Operation) :=
      [(default, .recase .upper "old"), (default, .merge "city" "old" "/" "both")]
    let w := (replay .standard t none ops).value
    w.types.get? "old" = some .boolean ∧
      (load .standard w.table (some w.order)).value = { w with history := [] } := by
  intro t ops w
  have hu : t.Uniform := by decide
  have hops : RecasesPlain .standard (load .standard t none).value ops :=
    ⟨by decide, trivial, trivial⟩
  have htype : w.types.get? "old" = some .boolean := by decide
  exact ⟨htype, reload_replayed t none ops hu hops⟩

end Workspace

end Tabular
