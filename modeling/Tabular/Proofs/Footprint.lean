import Tabular.Proofs.Edit

/-!
# What operations read and write

An operation looks at few columns of a row and changes few: those it `reads` and those it `writes`.
**Nothing outside this footprint is changed or matters.** A column that is not written holds what it
held, what is written depends on what the row holds in the footprint, and so does whether the
operation has a target (`Operation.agreeOff_editRow`, `Operation.agreeOn_editRow`,
`Operation.applies_congr`). The same is true of the maps that are carried along with the rows.

Operations are `Independent` if neither writes what is in the footprint of the other and they do not
add columns behind the same one. Rows and maps then come out the same in either order
(`Independent.editRow_comm`, `Independent.carry_comm`), for each operation changes its part of the
map as if the other had not been there (`Keyed.eq_of_local`).
-/

namespace Tabular

/-! ### Maps that agree in part -/

namespace Keyed

variable {α : Type} {A B : List String} {m n : Keyed α} {f g : String → α}

/-- The maps hold the same under each name of a list. -/
def AgreeOn (A : List String) (m n : Keyed α) : Prop := ∀ c ∈ A, m.get? c = n.get? c

/-- The maps hold the same under each name that is not in a list. -/
def AgreeOff (A : List String) (m n : Keyed α) : Prop := ∀ c ∉ A, m.get? c = n.get? c

theorem AgreeOff.agreeOn (h : AgreeOff A m n) (hd : ∀ c ∈ B, c ∉ A) : AgreeOn B m n :=
  fun c hc => h c (hd c hc)

/-- **Two local changes of a map make a diamond.** Let `a` and `b` come from `m` by changes under
the names of `A` and `B`, and `ab` and `ba` by the other change after each. If the lists have no
name in common and each change does the same before and after the other, then `ab` is `ba`. -/
theorem eq_of_local {a b ab ba : Keyed α} (hd : ∀ c ∈ A, c ∉ B) (ha : AgreeOff A m a)
    (hb : AgreeOff B m b) (hab : AgreeOff B a ab) (hba : AgreeOff A b ba) (hA : AgreeOn A a ba)
    (hB : AgreeOn B b ab) : ab = ba := by
  refine ext_get? fun c => ?_
  -- under a name of either list only the change of that list has a say
  by_cases hcA : c ∈ A
  · rw [← hab c (hd c hcA), hA c hcA]
  by_cases hcB : c ∈ B
  · rw [← hB c hcB, hba c hcA]
  · rw [← hab c hcB, ← ha c hcA, hb c hcB, hba c hcA]

/-- The insertion of names changes what is held under them. -/
theorem agreeOff_insertAll (f : String → α) (m : Keyed α) (A : List String) :
    AgreeOff A m (insertAll f m A) := fun c hc => by
  rw [get?_insertAll, if_neg hc]

/-- What is inserted does not depend on what was there. -/
theorem agreeOn_insertAll (h : ∀ c ∈ A, f c = g c) :
    AgreeOn A (insertAll f m A) (insertAll g n A) := fun c hc => by
  rw [get?_insertAll, get?_insertAll, if_pos hc, if_pos hc, h c hc]

/-- A move changes what is held under its two names, if anything. -/
theorem agreeOff_move (m : Keyed α) (k k' : String) : AgreeOff [k, k'] m (m.move k k') := by
  intro c hc
  obtain ⟨hk, hk'⟩ : c ≠ k ∧ c ≠ k' := by simpa using hc
  by_cases h : k ∈ m.keys
  · rw [get?_move k' c h, if_neg hk', if_neg hk]
  · rw [move, get?_eq_none_iff.mpr h]

/-- What a move leaves under its two names depends on what was held under them. -/
theorem AgreeOn.move {k k' : String} (h : AgreeOn [k, k'] m n) :
    AgreeOn [k, k'] (m.move k k') (n.move k k') := by
  intro c hc
  have hk : m.get? k = n.get? k := h k List.mem_cons_self
  by_cases hm : k ∈ m.keys
  · have hn : k ∈ n.keys := by rwa [mem_keys, contains, ← hk, ← contains, ← mem_keys]
    rw [get?_move k' c hm, get?_move k' c hn, hk, h c hc]
  · rw [Keyed.move, Keyed.move, ← hk, get?_eq_none_iff.mpr hm]
    exact h c hc

end Keyed

open Keyed

/-! ### Footprints -/

namespace Operation

variable {op : Operation} {t s : Table} {row row' : Row} {c : String}

/-- The columns whose cells an operation looks at. -/
def reads : Operation → List String
  | merge column other _ _ => [column, other]
  | op => [op.source]

/-- The columns that an operation removes, adds or changes. -/
def writes : Operation → List String
  | drop column => [column]
  | rename column newName => [column, newName]
  | split _ _ first second => [first, second]
  | merge _ _ _ target => [target]
  | recase _ column => [column]
  | substring _ _ _ target => [target]

/-- All columns that matter to an operation. -/
def footprint (op : Operation) : List String := op.reads ++ op.writes

theorem mem_footprint : c ∈ op.footprint ↔ c ∈ op.reads ∨ c ∈ op.writes := List.mem_append

theorem source_mem_footprint (op : Operation) : op.source ∈ op.footprint := by
  cases op <;> exact List.mem_cons_self

theorem mem_writes_of_added (hc : c ∈ op.added) : c ∈ op.writes := by
  cases op with
  | drop | rename | recase => cases hc
  | split | merge | substring => exact hc

/-- An operation writes all that it puts in place of its source but the source. -/
theorem mem_writes_of_replacement (hc : c ∈ op.replacement) (hne : c ≠ op.source) :
    c ∈ op.writes := by
  cases op with
  | drop => cases hc
  | rename => exact List.mem_cons_of_mem _ hc
  | recase => exact absurd (List.mem_singleton.mp hc) hne
  | split | merge | substring => exact (List.mem_cons.mp hc).resolve_left hne

/-- An operation that does not write its source adds columns behind it. -/
theorem added_ne_nil_of_source_notMem_writes (h : op.source ∉ op.writes) : op.added ≠ [] := by
  cases op with
  | drop | rename | recase => exact absurd List.mem_cons_self h
  | split | merge | substring => exact List.cons_ne_nil _ _

/-- Tables that have the same columns in the footprint of an operation offer it the same target. -/
theorem applies_congr (h : ∀ c ∈ op.footprint, s.hasColumn c = t.hasColumn c) :
    op.applies s = op.applies t := by
  cases op <;> simp [footprint, reads, writes, source] at h <;> simp [applies, h]

/-! ### Maps by column -/

section

variable {α : Type} {m n : Keyed α} {f g : String → α}

/-- Only what is written changes in a carried map. -/
theorem agreeOff_carry (op : Operation) (f : String → α) (m : Keyed α) :
    AgreeOff op.writes m (op.carry f m) := by
  cases op with
  | drop column =>
    intro c hc
    rw [carry, get?_erase, if_neg (mt List.mem_singleton.mpr hc)]
  | rename column newName => exact agreeOff_move m column newName
  | recase => exact fun _ _ => rfl
  | split | merge | substring => exact agreeOff_insertAll f m _

/-- What is written depends on what was there under the same names, and on the entries given to
added columns. -/
theorem agreeOn_carry (hm : AgreeOn op.writes m n) (hf : ∀ c ∈ op.added, f c = g c) :
    AgreeOn op.writes (op.carry f m) (op.carry g n) := by
  cases op with
  | drop column =>
    intro c hc
    rw [carry, carry, get?_erase, get?_erase, if_pos (List.mem_singleton.mp hc),
      if_pos (List.mem_singleton.mp hc)]
  | rename column newName => exact hm.move
  | recase => exact hm
  | split | merge | substring => exact agreeOn_insertAll hf

end

/-! ### Rows -/

/-- Cells that are not written are not retouched. -/
theorem retouch_of_notMem_writes (hc : c ∉ op.writes) : op.retouch c = id := by
  obtain hid | ⟨style, rfl, -⟩ := op.retouch_cases c
  · exact hid
  · exact absurd List.mem_cons_self hc

/-- New cells depend on the columns that are read. -/
theorem newCell_congr (h : AgreeOn op.reads row row') : op.newCell row c = op.newCell row' c := by
  have htext : ∀ d ∈ op.reads, Row.textAt row d = Row.textAt row' d := fun d hd => by
    rw [Row.textAt, Row.textAt, h d hd]
  cases op with
  | drop | rename | recase => rfl
  | split column | substring column =>
    simp only [newCell, htext column List.mem_cons_self]
  | merge column other =>
    simp only [newCell, htext column List.mem_cons_self,
      htext other (List.mem_cons_of_mem column List.mem_cons_self)]

/-- **Only what is written changes in a row.** -/
theorem agreeOff_editRow (op : Operation) (row : Row) :
    AgreeOff op.writes row (op.editRow row) := by
  intro c hc
  rw [editRow_eq_carry, ← agreeOff_carry op _ _ c hc, get?_retouchRow,
    retouch_of_notMem_writes hc, Option.map_id, id]

/-- **What is written depends on the footprint**: rows that agree there are edited alike. -/
theorem agreeOn_editRow (h : AgreeOn op.footprint row row') :
    AgreeOn op.writes (op.editRow row) (op.editRow row') := by
  have hreads : AgreeOn op.reads row row' := fun c hc => h c (mem_footprint.mpr (.inl hc))
  have htouched : AgreeOn op.writes (op.retouchRow row) (op.retouchRow row') := fun c hc => by
    rw [get?_retouchRow, get?_retouchRow, h c (mem_footprint.mpr (.inr hc))]
  rw [editRow_eq_carry, editRow_eq_carry]
  exact agreeOn_carry htouched fun c _ => newCell_congr hreads

/-- Columns that are not written are there after an edit if they were before. -/
theorem hasColumn_mapRows_editRow (hc : c ∉ op.writes) :
    (t.mapRows op.editRow).hasColumn c = t.hasColumn c := by
  obtain ⟨rows⟩ := t
  cases rows with
  | nil => rfl
  | cons row rows =>
    have hrow : row.get? c = (op.editRow row).get? c := agreeOff_editRow op row c hc
    simp only [Table.mapRows, List.map_cons, Table.hasColumn, Keyed.contains, hrow]

/-! ### Independent operations -/

/-- Neither operation writes what is in the footprint of the other, and if both add columns, then
they do so behind different ones. -/
structure Independent (a b : Operation) : Prop where
  left : ∀ c ∈ a.writes, c ∉ b.footprint
  right : ∀ c ∈ b.writes, c ∉ a.footprint
  sources : a.added ≠ [] → b.added ≠ [] → a.source ≠ b.source

instance (a b : Operation) : Decidable (Independent a b) :=
  decidable_of_iff ((∀ c ∈ a.writes, c ∉ b.footprint) ∧ (∀ c ∈ b.writes, c ∉ a.footprint) ∧
      (a.added ≠ [] → b.added ≠ [] → a.source ≠ b.source))
    ⟨fun h => ⟨h.1, h.2.1, h.2.2⟩, fun h => ⟨h.left, h.right, h.sources⟩⟩

namespace Independent

variable {a b : Operation} {ta tb u : Table}

theorem symm (h : Independent a b) : Independent b a :=
  ⟨h.right, h.left, fun hb ha => (h.sources ha hb).symm⟩

/-- No column is written by both. -/
theorem notMem_writes (h : Independent a b) : ∀ c ∈ a.writes, c ∉ b.writes :=
  fun c ha hb => h.left c ha (mem_footprint.mpr (.inr hb))

/-- The operations start from different columns. -/
theorem source_ne (h : Independent a b) : a.source ≠ b.source := by
  by_cases ha : a.source ∈ a.writes
  · intro he
    exact h.left _ ha (he ▸ b.source_mem_footprint)
  by_cases hb : b.source ∈ b.writes
  · intro he
    exact h.right _ hb (he ▸ a.source_mem_footprint)
  · exact h.sources (added_ne_nil_of_source_notMem_writes ha)
      (added_ne_nil_of_source_notMem_writes hb)

/-- Neither operation puts the source of the other in the place of its own. -/
theorem source_notMem_replacement (h : Independent a b) : b.source ∉ a.replacement := by
  intro hc
  have hwritten : b.source ∈ a.writes := mem_writes_of_replacement hc h.source_ne.symm
  exact h.left _ hwritten b.source_mem_footprint

/-- Either operation meets the same footprint before and after the other. -/
theorem agreeOn_footprint (h : Independent a b) (row : Row) :
    AgreeOn a.footprint row (b.editRow row) :=
  (agreeOff_editRow b row).agreeOn fun c hc hb => h.right c hb hc

/-- **Rows are edited alike in either order.** -/
theorem editRow_comm (h : Independent a b) (row : Row) :
    b.editRow (a.editRow row) = a.editRow (b.editRow row) := by
  have ha : AgreeOn a.writes (a.editRow row) (a.editRow (b.editRow row)) :=
    agreeOn_editRow (h.agreeOn_footprint row)
  have hb : AgreeOn b.writes (b.editRow row) (b.editRow (a.editRow row)) :=
    agreeOn_editRow (h.symm.agreeOn_footprint row)
  exact eq_of_local h.notMem_writes (agreeOff_editRow a row) (agreeOff_editRow b row)
    (agreeOff_editRow b _) (agreeOff_editRow a _) ha hb

/-- **Maps are carried over alike in either order**, if added columns get the same entries before
and after the other operation. -/
theorem carry_comm {α : Type} {m : Keyed α} {f f' g g' : String → α} (h : Independent a b)
    (hf : ∀ c ∈ a.added, f c = f' c) (hg : ∀ c ∈ b.added, g' c = g c) :
    b.carry g (a.carry f m) = a.carry f' (b.carry g' m) := by
  have ha : AgreeOn a.writes (a.carry f m) (a.carry f' (b.carry g' m)) :=
    agreeOn_carry ((agreeOff_carry b g' m).agreeOn h.notMem_writes) hf
  have hb : AgreeOn b.writes (b.carry g' m) (b.carry g (a.carry f m)) :=
    agreeOn_carry ((agreeOff_carry a f m).agreeOn h.symm.notMem_writes) hg
  exact eq_of_local h.notMem_writes (agreeOff_carry a f m) (agreeOff_carry b g' m)
    (agreeOff_carry b g _) (agreeOff_carry a f' _) ha hb

/-- Tables are edited alike in either order. -/
theorem mapRows_comm (h : Independent a b) (t : Table) :
    (t.mapRows a.editRow).mapRows b.editRow = (t.mapRows b.editRow).mapRows a.editRow := by
  simp only [Table.mapRows, List.map_map, Function.comp_def, h.editRow_comm]

/-- An operation has a target after the other if it had one before. -/
theorem applies_mapRows (h : Independent a b) (t : Table) :
    a.applies (t.mapRows b.editRow) = a.applies t :=
  applies_congr fun c hc => hasColumn_mapRows_editRow fun hb => h.right c hb hc

/-- Both operations have a target after the other if they had one before, and then they lead to the
same table in either order. -/
theorem edit?_comm (h : Independent a b) (ha : a.edit? t = some ta) (hb : b.edit? t = some tb) :
    ∃ u, b.edit? ta = some u ∧ a.edit? tb = some u := by
  obtain ⟨happlies, rfl⟩ := edit?_eq_some_iff.mp ha
  obtain ⟨happlies', rfl⟩ := edit?_eq_some_iff.mp hb
  refine ⟨(t.mapRows a.editRow).mapRows b.editRow, ?_, ?_⟩
  · rw [edit?_eq_some_iff, h.symm.applies_mapRows]
    exact ⟨happlies', rfl⟩
  · rw [edit?_eq_some_iff, h.applies_mapRows]
    exact ⟨happlies, (h.mapRows_comm t).symm⟩

/-- An operation without a target has none after the other either. -/
theorem edit?_eq_none (h : Independent a b) (ha : a.edit? t = none) (hb : b.edit? t = some tb) :
    a.edit? tb = none := by
  obtain ⟨-, rfl⟩ := edit?_eq_some_iff.mp hb
  rw [edit?_eq_none_iff] at ha ⊢
  rw [h.applies_mapRows, ha]

/-- An added column holds the same cells before and after the other operation. -/
theorem column_of_added (h : Independent a b) (ha : a.edit? t = some ta) (hb : b.edit? t = some tb)
    (hu : a.edit? tb = some u) (hc : c ∈ a.added) : ta.column c = u.column c := by
  obtain ⟨-, rfl⟩ := edit?_eq_some_iff.mp ha
  obtain ⟨-, rfl⟩ := edit?_eq_some_iff.mp hb
  obtain ⟨-, rfl⟩ := edit?_eq_some_iff.mp hu
  simp only [Table.column, Table.mapRows, List.map_map]
  refine List.map_congr_left fun row _ => ?_
  have hrow := agreeOn_editRow (h.agreeOn_footprint row) c (mem_writes_of_added hc)
  simp only [Function.comp_apply, hrow]

end Independent

end Operation

end Tabular
