import Tabular.Proofs.Workspace.Commutation
import Tabular.Proofs.Workspace.Recomputation

/-!
# Undoing operations

A rename is undone by the opposite rename, and an operation that adds columns by dropping them, in
whatever order (`Operation.UndoneBy`). **The workspace is then the one there was before**, with the
position, the cells and the metadata of every column, except that the history has grown by all
operations in between (`Workspace.Aligned.run_undone`).

Rows and metadata maps are carried alike, so one fact on maps serves them all: a value moved to a
free name and back, or put under new names that are removed again, leaves no trace
(`Keyed.move_move`, `Keyed.eraseAll_insertAll`). In the order, what came into the place of the source
goes out of it again. A row can only be restored if the names are free in it, and applicability asks
the first row alone; this is where the rows must share their columns.
-/

namespace Tabular

namespace Operation

variable {α : Type} {op : Operation} {columns l : List String} {column newName : String}

/-- The operations that undo another one: the opposite rename, or drops of all columns that were
added, in any order. -/
inductive UndoneBy : Operation → List Operation → Prop
  | rename (column newName : String) : UndoneBy (rename column newName) [rename newName column]
  | drops {op : Operation} {columns : List String} (hadds : op.added ≠ [])
      (h : columns.Perm op.added) : UndoneBy op (columns.map drop)

/-! ### Operations that add columns -/

/-- The added columns stand right behind the source. -/
theorem replacement_of_adds (h : op.added ≠ []) : op.replacement = op.source :: op.added := by
  cases op with
  | drop | rename | recase => exact absurd rfl h
  | split | merge | substring => rfl

theorem carry_of_adds (h : op.added ≠ []) (f : String → α) (m : Keyed α) :
    op.carry f m = Keyed.insertAll f m op.added := by
  cases op with
  | drop | rename | recase => exact absurd rfl h
  | split | merge | substring => rfl

/-- A row gets new cells and keeps all others. -/
theorem editRow_of_adds (h : op.added ≠ []) (row : Row) :
    op.editRow row = Keyed.insertAll (op.newCell row) row op.added := by
  have hkeep : op.retouchRow row = row := by
    cases op with
    | drop | rename | recase => exact absurd rfl h
    | split | merge | substring => rfl
  rw [editRow_eq_carry, carry_of_adds h, hkeep]

/-! ### The order of the columns -/

/-- Added columns go out of an order that did not have them. -/
theorem filter_flatMap_inPlace (hadds : op.added ≠ []) (hnew : ∀ c ∈ op.added, c ∉ l)
    (h : columns.Perm op.added) : (l.flatMap op.inPlace).filter (· ∉ columns) = l := by
  have hplace : ∀ c ∈ l, (op.inPlace c).filter (· ∉ columns) = [c] := by
    intro c hc
    have hkept : decide (c ∉ columns) = true :=
      decide_eq_true fun hcs => hnew c (h.mem_iff.mp hcs) hc
    by_cases hs : c = op.source
    · have hadded : op.added.filter (· ∉ columns) = [] :=
        List.filter_eq_nil_iff.mpr fun d hd => by simpa using h.mem_iff.mpr hd
      rw [hs, inPlace_source, replacement_of_adds hadds, ← hs, List.filter_cons, if_pos hkept,
        hadded]
    · rw [inPlace_of_ne hs, List.filter_cons, if_pos hkept, List.filter_nil]
  rw [List.filter_flatMap, List.flatMap_congr hplace, List.flatMap_singleton']

/-- A column gets its name back in its place, if the other name was not shown. -/
theorem flatMap_inPlace_rename_back (hfree : newName ∉ l) :
    (l.flatMap (rename column newName).inPlace).flatMap (rename newName column).inPlace = l := by
  have hplace : ∀ c ∈ l,
      ((rename column newName).inPlace c).flatMap (rename newName column).inPlace = [c] := by
    intro c hc
    by_cases hs : c = column
    · subst hs
      rw [inPlace, source, if_pos rfl, replacement, List.flatMap_singleton, inPlace, source,
        if_pos rfl, replacement]
    · have hne : c ≠ newName := ne_of_mem_of_not_mem hc hfree
      rw [inPlace_of_ne hs, List.flatMap_singleton, inPlace_of_ne hne]
  rw [List.flatMap_assoc, List.flatMap_congr hplace, List.flatMap_singleton']

end Operation

open Operation

/-! ### Tables -/

namespace Table

variable {op : Operation} {t t' : Table} {columns : List String} {column newName : String}

/-- Rows that are all restored make up the table there was before. -/
theorem mapRows_mapRows_eq_self {f g : Row → Row} (h : ∀ row ∈ t.rows, g (f row) = row) :
    (t.mapRows f).mapRows g = t := by
  have hrows : t.rows.map (g ∘ f) = t.rows := (List.map_congr_left h).trans (List.map_id _)
  rw [mapRows, mapRows, List.map_map, hrows]

/-- Columns that an operation added can be removed from every row. -/
theorem mapRows_eraseAll_editRow (hu : t.Uniform) (ha : op.applies t) (hadds : op.added ≠ [])
    (h : columns.Perm op.added) : (t.mapRows op.editRow).mapRows (·.eraseAll columns) = t := by
  refine mapRows_mapRows_eq_self fun row hrow => ?_
  rw [editRow_of_adds hadds]
  refine Keyed.eraseAll_insertAll (fun c hc => ?_) h
  rw [hu row hrow]
  exact notMem_columns_of_mem_added ha hc

/-- The new name of a renamed column was no column before. -/
theorem newName_notMem_columns (ha : (rename column newName).applies t) :
    newName ∉ t.columns := by
  have hne : newName ≠ column := by
    simp only [applies, Bool.and_eq_true, bne_iff_ne] at ha
    exact ha.1.1.symm
  exact notMem_columns_of_mem_replacement ha List.mem_cons_self hne

/-- The opposite rename has a target after a rename and leads back. -/
theorem edit?_rename_back (hu : t.Uniform) (h : (rename column newName).edit? t = some t') :
    (rename newName column).edit? t' = some t := by
  have hcolumns := fun c => mem_columns_edit (c := c) h
  obtain ⟨ha, rfl⟩ := edit?_eq_some_iff.mp h
  have hc : column ∈ t.columns := source_mem_columns ha
  have hfree : newName ∉ t.columns := newName_notMem_columns ha
  have hne : column ≠ newName := ne_of_mem_of_not_mem hc hfree
  refine edit?_eq_some_iff.mpr ⟨?_, mapRows_mapRows_eq_self fun row hrow => ?_⟩
  · simp only [applies, Bool.and_eq_true, bne_iff_ne, Bool.not_eq_true', ← Bool.not_eq_true,
      ← mem_columns, hcolumns]
    simp [replacement, source, hne, hne.symm]
  · have hkeys := hu row hrow
    exact Keyed.move_move (hkeys.symm ▸ hc) (hkeys.symm ▸ hfree)

end Table

/-! ### Workspaces -/

namespace Workspace

variable {p : Provider} {w : Workspace} {op : Operation} {stamp : Stamp}
  {columns : List String} {column newName : String} {steps : List (Stamp × Operation)}

/-- The entries that steps with a target leave in the history. -/
def entriesOf (steps : List (Stamp × Operation)) : History :=
  steps.map fun step => Entry.ofStamp step.1 step.2

theorem append_entriesOf_cons (h : History) (stamp : Stamp) (op : Operation)
    (steps : List (Stamp × Operation)) :
    h ++ [Entry.ofStamp stamp op] ++ entriesOf steps = h ++ entriesOf ((stamp, op) :: steps) := by
  rw [List.append_assoc]
  rfl

/-- A dropped column is removed everywhere. -/
theorem apply_drop (h : column ∈ w.table.columns) :
    (w.apply p stamp (.drop column)).value =
      { table := w.table.mapRows (·.erase column)
        order := w.order.filter (· != column)
        types := w.types.erase column
        distributions := w.distributions.erase column
        gaps := w.gaps.erase column
        history := w.history ++ [Entry.ofStamp stamp (.drop column)] } := by
  have hedit : (Operation.drop column).edit? w.table = some (w.table.mapRows (·.erase column)) :=
    edit?_of_applies (Table.mem_columns.mp h)
  rw [apply, hedit]
  rfl

/-- Columns that are dropped one after the other are removed everywhere. -/
theorem Aligned.run_drops (hw : w.Aligned) (hn : columns.Nodup) (hc : ∀ c ∈ columns, c ∈ w.order)
    (hsteps : steps.map (·.2) = columns.map Operation.drop) :
    (run p w steps).value =
      { table := w.table.mapRows (·.eraseAll columns)
        order := w.order.filter (· ∉ columns)
        types := w.types.eraseAll columns
        distributions := w.distributions.eraseAll columns
        gaps := w.gaps.eraseAll columns
        history := w.history ++ entriesOf steps } := by
  induction columns generalizing w steps with
  | nil =>
    rw [List.map_eq_nil_iff.mp hsteps]
    simp [Table.mapRows, Keyed.eraseAll, entriesOf]
  | cons column columns ih =>
    obtain ⟨⟨stamp, op⟩, steps, rfl, rfl, hrest⟩ := List.map_eq_cons_iff.mp hsteps
    obtain ⟨hcolumn, hn⟩ := List.nodup_cons.mp hn
    have hfirst := (hw.columns column).mpr (hc column List.mem_cons_self)
    -- the other columns are still there after the first drop
    have hothers : ∀ c ∈ columns, c ∈ (w.apply p stamp (.drop column)).value.order := by
      intro c hcs
      rw [apply_drop hfirst]
      have hne : c ≠ column := ne_of_mem_of_not_mem hcs hcolumn
      exact List.mem_filter.mpr ⟨hc c (List.mem_cons_of_mem _ hcs), bne_iff_ne.mpr hne⟩
    have horder : (w.order.filter (· != column)).filter (· ∉ columns) =
        w.order.filter (· ∉ column :: columns) := by
      rw [List.filter_filter]
      exact List.filter_congr fun c _ => by grind
    rw [run_cons, ih hw.apply hn hothers hrest, apply_drop hfirst]
    simp only [horder, append_entriesOf_cons, Table.mapRows, List.map_map]
    rfl

/-- Columns that an operation added can be dropped again. -/
theorem Aligned.run_added_dropped (hw : w.Aligned) (hu : w.table.Uniform)
    (ha : op.applies w.table) (hadds : op.added ≠ []) (h : columns.Perm op.added)
    (hsteps : steps.map (·.2) = op :: columns.map .drop) :
    (run p w steps).value = { w with history := w.history ++ entriesOf steps } := by
  obtain ⟨⟨stamp, op⟩, steps, rfl, rfl, hdrops⟩ := List.map_eq_cons_iff.mp hsteps
  have hstep : (w.apply p stamp op).value = _ := hw.apply_eq (edit?_of_applies ha)
  have hnew : ∀ c ∈ op.added, c ∉ w.order := fun c hc =>
    mt (hw.columns c).mpr (notMem_columns_of_mem_added ha hc)
  have hn : (op.source :: op.added).Nodup := replacement_of_adds hadds ▸ replacement_nodup ha
  have hshown : ∀ c ∈ columns, c ∈ (w.apply p stamp op).value.order := by
    intro c hc
    rw [hstep]
    refine List.mem_flatMap.mpr ⟨op.source, hw.source_mem_order ha, ?_⟩
    rw [inPlace_source, replacement_of_adds hadds]
    exact List.mem_cons_of_mem _ (h.mem_iff.mp hc)
  have hrows := Table.mapRows_eraseAll_editRow hu ha hadds h
  have horder := filter_flatMap_inPlace hadds hnew h
  have hmap : ∀ {α : Type} {f : String → α} {m : Keyed α}, (∀ c, c ∈ m.keys ↔ c ∈ w.order) →
      (op.carry f m).eraseAll columns = m := by
    intro α f m hm
    rw [carry_of_adds hadds]
    exact Keyed.eraseAll_insertAll (fun c hc => mt (hm c).mp (hnew c hc)) h
  rw [run_cons, Aligned.run_drops hw.apply (h.nodup_iff.mpr hn.of_cons) hshown hdrops, hstep]
  simp only [hrows, horder, hmap hw.types, hmap hw.distributions, hmap hw.gaps,
    append_entriesOf_cons]

/-- A column that was renamed can get its name back. -/
theorem Aligned.run_renamed_back (hw : w.Aligned) (hu : w.table.Uniform)
    (ha : (Operation.rename column newName).applies w.table)
    (hsteps : steps.map (·.2) = [.rename column newName, .rename newName column]) :
    (run p w steps).value = { w with history := w.history ++ entriesOf steps } := by
  obtain ⟨⟨s₁, op₁⟩, steps, rfl, rfl, hrest⟩ := List.map_eq_cons_iff.mp hsteps
  obtain ⟨⟨s₂, op₂⟩, steps, rfl, rfl, hnil⟩ := List.map_eq_cons_iff.mp hrest
  obtain rfl := List.map_eq_nil_iff.mp hnil
  have hedit := edit?_of_applies ha
  have hstep : (w.apply p s₁ (.rename column newName)).value = _ := hw.apply_eq hedit
  have hback : (Operation.rename newName column).edit?
      (w.apply p s₁ (.rename column newName)).value.table = some w.table := by
    rw [hstep]
    exact Table.edit?_rename_back hu hedit
  have hfree : newName ∉ w.order := mt (hw.columns _).mpr (Table.newName_notMem_columns ha)
  have hcolumn : column ∈ w.order := hw.source_mem_order ha
  have horder : (w.order.flatMap (Operation.rename column newName).inPlace).flatMap
      (Operation.rename newName column).inPlace = w.order := flatMap_inPlace_rename_back hfree
  have hmap : ∀ {α : Type} {m : Keyed α}, (∀ c, c ∈ m.keys ↔ c ∈ w.order) →
      (m.move column newName).move newName column = m := fun hm =>
    Keyed.move_move ((hm _).mpr hcolumn) (mt (hm _).mp hfree)
  rw [run_cons, run_cons, run_nil, hw.apply.apply_eq hback, hstep]
  simp only [horder, carry, hmap hw.types, hmap hw.distributions, hmap hw.gaps, List.append_assoc]
  rfl

/-- **Undone operations leave no trace** in an aligned workspace whose rows share their columns. -/
theorem Aligned.run_undone {undo : List Operation} (hw : w.Aligned) (hu : w.table.Uniform)
    (ha : op.applies w.table) (hundo : op.UndoneBy undo) (hsteps : steps.map (·.2) = op :: undo) :
    (run p w steps).value = { w with history := w.history ++ entriesOf steps } := by
  cases hundo with
  | rename column newName => exact hw.run_renamed_back hu ha hsteps
  | drops hadds h => exact hw.run_added_dropped hu ha hadds h hsteps

/-- **Operations can be undone.** Take any table whose rows share their columns, and the workspace
that any requested order and any operations lead to. If an operation has a target there, then it and
the operations that undo it, under whatever stamps and with whatever provider, lead to the same
workspace with one more entry in its history for each of them. -/
theorem undo_restores (p q : Provider) (t : Table) (hu : t.Uniform)
    (order : Option (List String)) (ops : List (Stamp × Operation)) (op : Operation)
    (undo : List Operation) (hundo : op.UndoneBy undo) (steps : List (Stamp × Operation))
    (hsteps : steps.map (·.2) = op :: undo)
    (ha : op.applies (replay q t order ops).value.table) :
    let w := (replay q t order ops).value
    (run p w steps).value = { w with history := w.history ++ entriesOf steps } := by
  intro w
  have hw : w.Aligned := run_load_aligned q q t order ops
  have hwu : w.table.Uniform := run_load_uniform q q order ops hu
  exact hw.run_undone hwu ha hundo hsteps

/-- The parts of a name that was set in capitals are dropped in the other order. -/
theorem split_undone :
    let t := Table.ofRecords ["name", "id"] [[.text "Ada Lovelace", .int 1], [.null, .int 2]]
    let ops : List (Stamp × Operation) := [(default, .recase .upper "name")]
    let split : Operation := .split "name" " " "first" "last"
    let undo : List Operation := [.drop "last", .drop "first"]
    let steps : List (Stamp × Operation) := (split :: undo).map (default, ·)
    let w := (replay .standard t none ops).value
    (t.Uniform ∧ split.UndoneBy undo ∧ split.applies w.table) ∧
      (run .standard w steps).value = { w with history := w.history ++ entriesOf steps } := by
  intro t ops split undo steps w
  have hu : t.Uniform := by decide
  have hundo : split.UndoneBy (["last", "first"].map .drop) :=
    .drops (List.cons_ne_nil _ _) (List.Perm.swap _ _ _)
  have ha : split.applies w.table := by decide
  have hsteps : steps.map (·.2) = split :: undo := rfl
  exact ⟨⟨hu, hundo, ha⟩,
    undo_restores .standard .standard t hu none ops split undo hundo steps hsteps ha⟩

end Workspace

end Tabular
