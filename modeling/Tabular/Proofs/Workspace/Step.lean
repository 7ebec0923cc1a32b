import Tabular.Proofs.Edit
import Tabular.Workspace

/-!
# One operation on a workspace

What applying an operation does to each field of a workspace, said once. In the order of the
columns the source column gives way to its `replacement`; the three metadata maps are all carried
over in the same way (`Operation.carry`), the only difference being the function that describes an
added column; the table is the edited one; and the history grows by one entry.

**Every step is of one of two forms** (`Workspace.apply_cases`): the operation has no target and the
workspace stays as it is, or it has one and all fields are as just said. Later modules derive their
invariants from these two cases and do not look into the reducer again.
-/

namespace Tabular

/-- The distribution of a column as of the type that the provider itself infers. -/
def Provider.ownDistribution (p : Provider) (t : Table) (column : String) : Distribution :=
  p.distribution t column (p.inferType t column)

namespace Workspace

variable {p : Provider} {w : Workspace} {op : Operation} {stamp : Stamp} {P S : List String}

/-! ### The order of the columns -/

private theorem insertIdx_length_append (x : String) : ∀ P S : List String,
    (P ++ S).insertIdx P.length x = P ++ x :: S
  | [], S => List.insertIdx_zero
  | a :: P, S => by
    rw [List.cons_append, List.length_cons, List.insertIdx_succ_cons,
      insertIdx_length_append x P S, List.cons_append]

private theorem idxOf?_append_cons {x : String} : ∀ {P : List String}, x ∉ P →
    (P ++ x :: S).idxOf? x = some P.length
  | [], _ => by simp [List.idxOf?_cons]
  | a :: P, h => by
    have ha : (a == x) = false := beq_false_of_ne fun he => h (he ▸ List.mem_cons_self)
    have hP : x ∉ P := fun hx => h (List.mem_cons_of_mem a hx)
    simp [List.idxOf?_cons, ha, idxOf?_append_cons hP]

private theorem filter_ne_append_cons {x : String} (hP : x ∉ P) (hS : x ∉ S) :
    (P ++ x :: S).filter (· != x) = P ++ S := by
  have hkeep : ∀ {l : List String}, x ∉ l → l.filter (· != x) = l := fun hl =>
    List.filter_eq_self.mpr fun c hc => bne_iff_ne.mpr fun he => hl (he ▸ hc)
  rw [List.filter_append, List.filter_cons_of_neg (by simp), hkeep hP, hkeep hS]

private theorem replace_append_cons {x : String} (y : String) (hP : x ∉ P) :
    (P ++ x :: S).replace x y = P ++ y :: S := by
  rw [List.replace_append_right hP, List.replace_cons_self]

/-- The source column is shown once only. -/
theorem source_notMem (ho : w.order = P ++ op.source :: S) (hn : w.order.Nodup) :
    op.source ∉ P ∧ op.source ∉ S := by
  rw [ho, List.nodup_middle, List.nodup_cons, List.mem_append, not_or] at hn
  exact hn.1

/-- A run of columns is added where the order is cut, and each of them is described on the table
that is there already. -/
theorem addColumns_value : ∀ (columns : List String) {w : Workspace} {P : List String},
    w.order = P ++ S → (addColumns p w P.length columns).value =
      { w with
        order := P ++ columns ++ S
        types := Keyed.insertAll (p.inferType w.table) w.types columns
        distributions := Keyed.insertAll (p.ownDistribution w.table) w.distributions columns
        gaps := Keyed.insertAll (p.gaps w.table) w.gaps columns }
  | [], w, P, ho => by
    rw [addColumns, List.append_nil, ← ho]
    rfl
  | column :: columns, w, P, ho => by
    -- the part of the order before the cut grows with the index
    have hcut : (P ++ S).insertIdx P.length column = (P ++ [column]) ++ S := by
      rw [insertIdx_length_append, List.append_assoc, List.singleton_append]
    have hrest := addColumns_value columns (P := P ++ [column])
      (w := w.insertColumn P.length column (p.describe w.table column).value)
      (by simpa [insertColumn, ho] using hcut)
    rw [List.length_append, List.length_singleton] at hrest
    rw [addColumns, Traced.value_bind, hrest, List.append_assoc P]
    rfl

/-- The place for new columns lies right behind the source column. -/
private theorem positionAfter_eq {column : String} (ho : w.order = P ++ column :: S)
    (hP : column ∉ P) : w.positionAfter column = (P ++ [column]).length := by
  rw [positionAfter, index?, ho, idxOf?_append_cons hP]
  simp

/-- The order and the metadata after an operation whose source column is shown exactly once. -/
theorem updateColumns_value (ho : w.order = P ++ op.source :: S) (hn : w.order.Nodup) :
    (updateColumns p w op).value =
      { w with
        order := P ++ op.replacement ++ S
        types := op.carry (p.inferType w.table) w.types
        distributions := op.carry (p.ownDistribution w.table) w.distributions
        gaps := op.carry (p.gaps w.table) w.gaps } := by
  obtain ⟨hP, hS⟩ := source_notMem ho hn
  -- columns are added to the order cut behind the source column
  have hadd : ∀ columns : List String,
      (addColumns p w (w.positionAfter op.source) columns).value =
        { w with
          order := P ++ op.source :: columns ++ S
          types := Keyed.insertAll (p.inferType w.table) w.types columns
          distributions := Keyed.insertAll (p.ownDistribution w.table) w.distributions columns
          gaps := Keyed.insertAll (p.gaps w.table) w.gaps columns } := by
    intro columns
    have hcut : w.order = (P ++ [op.source]) ++ S := by simpa using ho
    rw [positionAfter_eq ho hP, addColumns_value columns hcut, List.append_assoc P,
      List.singleton_append]
  cases op with
  | drop column =>
    have horder : w.order.filter (· != column) = P ++ S := by
      rw [ho]
      exact filter_ne_append_cons hP hS
    simp [updateColumns, removeColumn, horder, Operation.replacement, Operation.carry]
  | rename column newName =>
    have horder : w.order.replace column newName = P ++ newName :: S := by
      rw [ho]
      exact replace_append_cons newName hP
    simp [updateColumns, renameColumn, horder, Operation.replacement, Operation.carry]
  | recase style column =>
    have horder : P ++ column :: S = w.order := ho.symm
    simp [updateColumns, horder, Operation.replacement, Operation.carry]
  | split column delimiter first second => exact hadd [first, second]
  | merge column other joint target => exact hadd [target]
  | substring column first past target => exact hadd [target]

/-! ### Steps -/

/-- The workspace after an operation that has a target, with its source column between `P` and `S`
in the order. -/
def stepped (p : Provider) (w : Workspace) (stamp : Stamp) (op : Operation) (t : Table)
    (P S : List String) : Workspace where
  table := t
  order := P ++ op.replacement ++ S
  types := op.carry (p.inferType t) w.types
  distributions := op.carry (p.ownDistribution t) w.distributions
  gaps := op.carry (p.gaps t) w.gaps
  history := w.history ++ [Entry.ofStamp stamp op]

/-- The operation is recorded after all others. -/
theorem operations_stepped (p : Provider) (w : Workspace) (stamp : Stamp) (op : Operation)
    (t : Table) (P S : List String) :
    (stepped p w stamp op t P S).history.operations = w.history.operations ++ [op] := by
  simp only [stepped, History.operations, Entry.ofStamp, List.map_append, List.map_cons,
    List.map_nil]

/-- An operation without a target leaves every field as it is. -/
theorem apply_of_edit?_eq_none (p : Provider) (stamp : Stamp) (h : op.edit? w.table = none) :
    (w.apply p stamp op).value = w := by
  rw [apply, h]
  rfl

theorem apply_of_edit?_eq_some (p : Provider) (stamp : Stamp) {t : Table}
    (h : op.edit? w.table = some t) (ho : w.order = P ++ op.source :: S) (hn : w.order.Nodup) :
    (w.apply p stamp op).value = stepped p w stamp op t P S := by
  have hu := updateColumns_value (p := p) (w := { w with table := t }) ho hn
  rw [apply, h]
  simp only [Traced.value_bind, Traced.value_pure, hu]
  rfl

/-- **Every step is of one of two forms.** In a workspace that shows the columns of its table once
each, an operation without a target changes nothing, and any other has its source column somewhere
in the order and leads to the `stepped` workspace. -/
theorem apply_cases (p : Provider) (w : Workspace) (stamp : Stamp) (op : Operation)
    (hn : w.order.Nodup) (hc : ∀ c, c ∈ w.table.columns ↔ c ∈ w.order) :
    (op.edit? w.table = none ∧ (w.apply p stamp op).value = w) ∨
      ∃ t P S, op.edit? w.table = some t ∧ w.order = P ++ op.source :: S ∧
        (w.apply p stamp op).value = stepped p w stamp op t P S := by
  cases h : op.edit? w.table with
  | none => exact .inl ⟨rfl, apply_of_edit?_eq_none p stamp h⟩
  | some t =>
    have hs := Operation.source_mem_columns (Operation.edit?_eq_some_iff.mp h).1
    obtain ⟨P, S, ho⟩ := List.append_of_mem ((hc op.source).mp hs)
    exact .inr ⟨t, P, S, rfl, ho, apply_of_edit?_eq_some p stamp h ho hn⟩

/-! ### Runs -/

@[simp] theorem run_nil : (run p w []).value = w := rfl

@[simp] theorem run_cons (ops : List (Stamp × Operation)) :
    (run p w ((stamp, op) :: ops)).value = (run p (w.apply p stamp op).value ops).value := rfl

/-- What one step keeps, a run keeps. -/
theorem run_induction {I : Workspace → Prop}
    (hstep : ∀ w stamp op, I w → I (w.apply p stamp op).value) :
    ∀ (ops : List (Stamp × Operation)) {w : Workspace}, I w → I (run p w ops).value
  | [], _, h => h
  | (stamp, op) :: ops, w, h => run_induction hstep ops (hstep w stamp op h)

end Workspace

end Tabular
