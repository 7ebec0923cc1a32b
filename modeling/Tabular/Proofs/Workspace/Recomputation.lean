import Tabular.Proofs.Workspace.Lockstep

/-!
# What is described, and when

Describing a column takes three calls of the provider. Loading describes every column once, on the
loaded table and in the order shown; an operation describes **the columns it adds and no others**,
on the table it leads to (`Workspace.apply_calls`). Everything else that is known about columns is
carried over with them, under the new name after a rename (`Workspace.Aligned.stepScope`).

Nothing depends on what the provider answers but the answers that are kept: the calls of a whole run
follow from the tables it goes through (`Workspace.run_calls`), and these, the order and the
recorded operations are the same for any other provider.
-/

namespace Tabular

/-! ### Calls -/

namespace Provider

/-- The calls by which a column is described: for its type, for its distribution as of that type,
and for its gaps. -/
def callsFor (p : Provider) (t : Table) (column : String) : List Call :=
  [.inferType t column, .distribution t column (p.inferType t column), .gaps t column]

/-- The calls of a run of operations that begins with a table: each operation with a target has
those for the columns it adds, on the table it leads to. -/
def callsOfRun (p : Provider) : Table → List Operation → List Call
  | _, [] => []
  | t, op :: ops =>
    match op.edit? t with
    | none => p.callsOfRun t ops
    | some t' => op.added.flatMap (p.callsFor t') ++ p.callsOfRun t' ops

end Provider

namespace Workspace

variable {p q : Provider} {w : Workspace} {t : Table} {stamp : Stamp} {op : Operation}
  {order : Option (List String)} {c d : String} {P S : List String}

theorem addColumns_calls : ∀ (columns : List String) (w : Workspace) (index : Nat),
    (addColumns p w index columns).calls = columns.flatMap (p.callsFor w.table)
  | [], _, _ => rfl
  | column :: columns, w, index => by
    -- the table is the same for all columns of the run
    rw [addColumns, Traced.calls_bind, addColumns_calls columns, List.flatMap_cons]
    rfl

/-- Loading describes each column of the order once, on the loaded table. -/
theorem load_calls :
    (load p t order).calls = (load p t order).value.order.flatMap (p.callsFor t) := by
  have hcalls : (load p t order).calls =
      (addColumns p (undescribed t) 0 (initialOrder t order)).calls := List.append_nil _
  rw [hcalls, addColumns_calls, load_value]
  rfl

/-- **An operation describes the columns it adds**, on the table it leads to, and no others. -/
theorem apply_calls : (w.apply p stamp op).calls =
    match op.edit? w.table with
    | none => []
    | some t => op.added.flatMap (p.callsFor t) := by
  cases h : op.edit? w.table with
  | none =>
    rw [apply, h]
    rfl
  | some t =>
    have hupdate : (updateColumns p { w with table := t } op).calls =
        op.added.flatMap (p.callsFor t) := by
      cases op with
      | drop | rename | recase => rfl
      | split | merge | substring => exact addColumns_calls _ _ _
    rw [apply, h, Traced.calls_bind, hupdate]
    exact List.append_nil _

/-- The calls of a run follow from the tables it goes through. -/
theorem run_calls : ∀ (ops : List (Stamp × Operation)) {w : Workspace}, w.Aligned →
    (run p w ops).calls = p.callsOfRun w.table (ops.map (·.2))
  | [], _, _ => rfl
  | (stamp, op) :: ops, w, hw => by
    have hcalls : (run p w ((stamp, op) :: ops)).calls =
        (w.apply p stamp op).calls ++ (run p (w.apply p stamp op).value ops).calls := rfl
    rw [hcalls, apply_calls, run_calls ops hw.apply, List.map_cons, Provider.callsOfRun]
    obtain ⟨he, hv⟩ | ⟨t, P, S, he, -, hv⟩ := apply_cases p w stamp op hw.nodup hw.columns
    · rw [he, hv]
      rfl
    · rw [he, hv]
      rfl

end Workspace

/-! ### Columns that survive -/

namespace Operation

variable {op : Operation} {t : Table} {c d : String}

/-- The name of a column after an operation; none if the operation drops the column. -/
def destination? : Operation → String → Option String
  | drop column, c => if c = column then none else some c
  | rename column newName, c => if c = column then some newName else some c
  | _, c => some c

/-- No column that an operation adds is there before. -/
theorem notMem_columns_of_mem_added (h : op.applies t) (hc : c ∈ op.added) : c ∉ t.columns := by
  have hr : op.replacement = op.source :: op.added := by
    cases op with
    | drop | rename | recase => cases hc
    | split | merge | substring => rfl
  have hn := replacement_nodup h
  rw [hr, List.nodup_cons] at hn
  refine notMem_columns_of_mem_replacement h (hr ▸ List.mem_cons_of_mem _ hc) ?_
  rintro rfl
  exact hn.1 hc

/-- An added column comes from no other. -/
theorem origin?_of_added (hc : c ∈ op.added) : op.origin? c = none := by
  cases op with
  | drop | rename | recase => cases hc
  | split | merge | substring => exact if_pos hc

/-- A column that survives is the origin of what it becomes. -/
theorem origin?_destination (h : op.applies t) (hc : c ∈ t.columns)
    (hd : op.destination? c = some d) :
    (d ∈ op.replacement ∨ d ≠ op.source) ∧ op.origin? d = some c := by
  have hadded : c ∉ op.added := fun hadd => notMem_columns_of_mem_added h hadd hc
  cases op with
  | drop column =>
    obtain ⟨hne, rfl⟩ : c ≠ column ∧ c = d := by simpa [destination?] using hd
    exact ⟨.inr hne, by simp only [origin?, if_neg hadded]⟩
  | rename column newName =>
    rw [destination?] at hd
    split at hd
    next hs =>
      obtain rfl : newName = d := by simpa using hd
      exact ⟨.inl List.mem_cons_self, by rw [origin?, if_pos rfl, hs]⟩
    next hs =>
      obtain rfl : c = d := by simpa using hd
      -- the new name is not taken, so the column is not under it
      have hne : c ≠ newName := fun he =>
        notMem_columns_of_mem_replacement h (he ▸ List.mem_cons_self) hs hc
      exact ⟨.inr hs, if_neg hne⟩
  | recase | split | merge | substring =>
    obtain rfl : c = d := by simpa [destination?] using hd
    refine ⟨?_, by simp only [origin?, if_neg hadded]⟩
    rw [or_iff_not_imp_right, not_not]
    rintro rfl
    exact List.mem_cons_self

end Operation

namespace Workspace

variable {p q : Provider} {w : Workspace} {t : Table} {stamp : Stamp} {op : Operation}
  {order : Option (List String)} {c d : String} {P S : List String}

/-- All that the workspace keeps about a column. -/
def metadata? (w : Workspace) (column : String) : Option Metadata := do
  let type ← w.types.get? column
  let distribution ← w.distributions.get? column
  let gaps ← w.gaps.get? column
  return ⟨type, distribution, gaps⟩

/-- Metadata is kept of every column that is shown. -/
theorem Aligned.exists_metadata? (hw : w.Aligned) (hc : c ∈ w.order) :
    ∃ m, w.metadata? c = some m := by
  obtain ⟨type, htype⟩ := Keyed.mem_keys_iff_exists.mp ((hw.types c).mpr hc)
  obtain ⟨distribution, hdistribution⟩ :=
    Keyed.mem_keys_iff_exists.mp ((hw.distributions c).mpr hc)
  obtain ⟨gaps, hgaps⟩ := Keyed.mem_keys_iff_exists.mp ((hw.gaps c).mpr hc)
  exact ⟨⟨type, distribution, gaps⟩, by simp [metadata?, htype, hdistribution, hgaps]⟩

/-- A loaded workspace keeps what its columns are described by. -/
theorem metadata?_load (hc : c ∈ t.columns) :
    (load p t order).value.metadata? c = some (p.describe t c).value := by
  have hc : c ∈ initialOrder t order := mem_initialOrder.mpr hc
  simp only [load_value, metadata?, Keyed.get?_insertAll, if_pos hc]
  rfl

/-- A step keeps of an added column what it is described by. -/
theorem metadata?_stepped_of_added (hd : op.origin? c = none) :
    (stepped p w stamp op t P S).metadata? c = some (p.describe t c).value := by
  simp only [stepped, metadata?, Operation.get?_carry_of_added hd]
  rfl

/-- A step keeps of any other column what was kept of its origin. -/
theorem Aligned.metadata?_stepped (hw : w.Aligned) (hs : op.source ∈ w.order)
    (hc : c ∈ op.replacement ∨ c ≠ op.source) (hd : op.origin? c = some d) :
    (stepped p w stamp op t P S).metadata? c = w.metadata? d := by
  have htypes := Operation.get?_carry (f := p.inferType t) ((hw.types _).mpr hs) hc hd
  have hdistributions :=
    Operation.get?_carry (f := p.ownDistribution t) ((hw.distributions _).mpr hs) hc hd
  have hgaps := Operation.get?_carry (f := p.gaps t) ((hw.gaps _).mpr hs) hc hd
  simp only [stepped, metadata?, htypes, hdistributions, hgaps]

/-! ### The scope of a step and of a run -/

/-- What a step computes: nothing without a target, and otherwise what there is to know about the
columns that it adds, on the table it leads to. Each column that survives keeps its metadata. -/
structure StepScope (p : Provider) (w : Workspace) (op : Operation) (next : Traced Workspace) :
    Prop where
  skipped : op.edit? w.table = none → next.calls = [] ∧ next.value = w
  calls : ∀ t, op.edit? w.table = some t →
    next.value.table = t ∧ next.calls = op.added.flatMap (p.callsFor t)
  added : ∀ t, op.edit? w.table = some t → ∀ c ∈ op.added,
    next.value.metadata? c = some (p.describe t c).value
  carried : ∀ t, op.edit? w.table = some t → ∀ c ∈ w.order, ∀ d, op.destination? c = some d →
    d ∈ next.value.order ∧ ∃ m, w.metadata? c = some m ∧ next.value.metadata? d = some m

/-- **A step computes what is new and carries over the rest.** -/
theorem Aligned.stepScope (hw : w.Aligned) : StepScope p w op (w.apply p stamp op) := by
  have hcalls : (w.apply p stamp op).calls = _ := apply_calls
  obtain ⟨he, hv⟩ | ⟨t, P, S, he, ho, hv⟩ := apply_cases p w stamp op hw.nodup hw.columns
  · rw [he] at hcalls
    have hnone : ∀ t, op.edit? w.table ≠ some t := fun t ht => nomatch he.symm.trans ht
    exact ⟨fun _ => ⟨hcalls, hv⟩, fun t ht => absurd ht (hnone t), fun t ht => absurd ht (hnone t),
      fun t ht => absurd ht (hnone t)⟩
  · rw [he] at hcalls
    have ha : op.applies w.table := (Operation.edit?_eq_some_iff.mp he).1
    have hs : op.source ∈ w.order := hw.source_mem_order ha
    constructor
    case skipped => exact fun hnone => nomatch he.symm.trans hnone
    case calls =>
      rintro t' ht
      obtain rfl : t = t' := Option.some.inj (he.symm.trans ht)
      exact ⟨by rw [hv]; rfl, hcalls⟩
    case added =>
      rintro t' ht c hc
      obtain rfl : t = t' := Option.some.inj (he.symm.trans ht)
      rw [hv]
      exact metadata?_stepped_of_added (Operation.origin?_of_added hc)
    case carried =>
      rintro t' ht c hc d hd
      obtain ⟨hplace, horigin⟩ := Operation.origin?_destination ha ((hw.columns c).mpr hc) hd
      obtain ⟨m, hm⟩ := hw.exists_metadata? hc
      have hmem : d ∈ op.replacement ∨ (d ≠ op.source ∧ d ∈ w.order) := by
        by_cases hr : d ∈ op.replacement
        · exact .inl hr
        · rw [Operation.origin_eq_self hr horigin] at hc
          exact .inr ⟨hplace.resolve_left hr, hc⟩
      rw [hv]
      refine ⟨(mem_stepped_order ho hw.nodup).mpr hmem, m, hm, ?_⟩
      rw [hw.metadata?_stepped hs hplace horigin, hm]

/-- **Metadata is computed for new columns only, and nothing else depends on it.** For whatever
provider, table, requested order and operations: loading describes each column of the order once, on
the loaded table; every further operation has the scope of a step; the calls of the whole run are
those of loading and then those for the columns that the operations add, each on the table that its
operation leads to; and under any other provider and any other stamps the same operations lead to
the same table, order and recorded operations. -/
theorem recomputation_scope (p q : Provider) (t : Table) (order : Option (List String))
    (ops again : List (Stamp × Operation)) (ha : again.map (·.2) = ops.map (·.2)) :
    (load p t order).calls = (load p t order).value.order.flatMap (p.callsFor t) ∧
      (∀ before stamp op after, ops = before ++ (stamp, op) :: after →
        let w := (replay p t order before).value
        StepScope p w op (w.apply p stamp op)) ∧
      (replay p t order ops).calls =
        (load p t order).calls ++ p.callsOfRun t (ops.map (·.2)) ∧
      InStep Eq (replay p t order ops).value (replay q t order again).value := by
  have hload : (load p t order).value.Aligned := load_aligned
  have htable : (load p t order).value.table = t := by rw [load_value]
  refine ⟨load_calls, ?_, ?_, ?_⟩
  · intro before stamp op after _
    exact (run_load_aligned p p t order before).stepScope
  · have hrun := run_calls (p := p) ops hload
    rw [htable] at hrun
    rw [← hrun]
    rfl
  · exact (InStep.load rfl rfl).run Table.keptByEdits_eq hload ha

/-- The parts of a split column are described on the table that has them; neither the skipped drop
nor the rename takes a call, and a provider that looks at nothing leads to the same columns. -/
theorem calls_of_split_and_rename :
    let t := Table.ofRecords ["name", "id"] [[.text "Ada Lovelace", .int 1], [.null, .int 2]]
    let split : Operation := .split "name" " " "first" "last"
    let ops : List (Stamp × Operation) :=
      [(default, split), (default, .drop "ghost"), (default, .rename "first" "given")]
    let again : List (Stamp × Operation) := ops.map fun o => (⟨default, ⟨1, 0⟩⟩, o.2)
    let idle : Provider := ⟨fun _ _ => .text, fun _ _ => .unsupported, fun _ _ => ⟨0, []⟩⟩
    again.map (·.2) = ops.map (·.2) ∧
      (∃ t', split.edit? t = some t' ∧ (replay .standard t none ops).calls =
        ["id", "name"].flatMap (Provider.standard.callsFor t) ++
          ["first", "last"].flatMap (Provider.standard.callsFor t')) ∧
      (replay idle t none again).value.order = ["id", "name", "given", "last"] := by
  intro t split ops again idle
  have hagain : again.map (·.2) = ops.map (·.2) := rfl
  obtain ⟨-, -, hcalls, hstep⟩ := recomputation_scope .standard idle t none ops again hagain
  have horder : (replay .standard t none ops).value.order = ["id", "name", "given", "last"] := by
    decide
  refine ⟨hagain, ⟨_, rfl, ?_⟩, hstep.order.trans horder⟩
  rw [hcalls]
  rfl

end Workspace

end Tabular
