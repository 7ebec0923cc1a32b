import Tabular.Edit
import Tabular.Proofs.Keyed

/-!
# What an operation does to the columns of a table

Every operation starts from one column and puts a run of columns in its place: none when it drops
the column, one when it renames it, the column itself and then those it adds otherwise. This
`replacement` decides which columns there are afterwards. In the other direction every column is
either added or comes from a column there was before (`Operation.origin?`).

A row holds cells by columns, and other maps hold other things. **All such maps are carried over in
the same way** (`Operation.carry`): entries are removed, moved or kept, and added columns get new
ones. Editing a row is carrying it over with its cells retouched, which only setting a column in a
case does (`Operation.editRow_eq_carry`), so what holds of carried maps holds of rows, and row by
row of the columns of a table (`Table.mem_columns_edit`, `Table.column_edit`).

A table is `Uniform` if all its rows share the columns of the first one, which an edit preserves.
Applicability looks at the first row only, so whatever is said about all rows needs uniformity.
-/

namespace Tabular

/-! ### Tables -/

namespace Table

variable {t : Table} {c : String} {row : Row}

/-- The columns of a table are those the first row answers for. -/
theorem mem_columns : c ∈ t.columns ↔ t.hasColumn c := by
  unfold columns hasColumn
  split
  · simp
  · exact Keyed.mem_keys

theorem columns_nodup (t : Table) : t.columns.Nodup := by
  unfold columns
  split
  · exact List.nodup_nil
  · exact Keyed.keys_nodup _

/-- All rows of the table share one set of columns. -/
def Uniform (t : Table) : Prop := ∀ row ∈ t.rows, row.keys = t.columns

instance : Decidable t.Uniform := inferInstanceAs (Decidable (∀ row ∈ t.rows, _))

/-- Rows that have the same set of columns list them alike. -/
theorem uniform_iff : t.Uniform ↔ ∀ row ∈ t.rows, ∀ c, c ∈ row.keys ↔ c ∈ t.columns := by
  obtain ⟨rows⟩ := t
  cases rows with
  | nil => simp [Uniform]
  | cons first rows => exact forall₂_congr fun row _ => Keyed.keys_eq_iff

end Table

namespace Operation

variable {op : Operation} {t t' : Table} {row : Row} {c d : String}

/-! ### The columns in place of the source -/

/-- The columns that stand where the source column stood, in order. -/
def replacement : Operation → List String
  | drop _ => []
  | rename _ newName => [newName]
  | split column _ first second => [column, first, second]
  | merge column _ _ target => [column, target]
  | recase _ column => [column]
  | substring column _ _ target => [column, target]

theorem edit?_eq_some_iff : op.edit? t = some t' ↔ op.applies t ∧ t.mapRows op.editRow = t' := by
  rw [edit?]
  split <;> simp [*]

theorem edit?_eq_none_iff : op.edit? t = none ↔ op.applies t = false := by
  rw [edit?]
  split <;> simp [*]

theorem edit?_of_applies (h : op.applies t) : op.edit? t = some (t.mapRows op.editRow) :=
  edit?_eq_some_iff.mpr ⟨h, rfl⟩

theorem source_mem_columns (h : op.applies t) : op.source ∈ t.columns := by
  rw [Table.mem_columns]
  cases op <;> simp only [applies, Bool.and_eq_true] at h <;> simp only [source, h]

/-- Whatever stands in place of the source is the source itself or no column of the table yet. -/
theorem notMem_columns_of_mem_replacement (h : op.applies t) (hc : c ∈ op.replacement)
    (hne : c ≠ op.source) : c ∉ t.columns := by
  rw [Table.mem_columns]
  cases op with
  | drop column => exact absurd hc List.not_mem_nil
  | rename column newName =>
    simp only [applies, Bool.and_eq_true, Bool.not_eq_true'] at h
    rw [List.mem_singleton.mp hc, h.2]
    exact Bool.false_ne_true
  | recase style column => exact absurd (List.mem_singleton.mp hc) hne
  | split column delimiter first second =>
    simp only [applies, Bool.and_eq_true, Bool.not_eq_true'] at h
    rcases List.mem_cons.mp hc with hc | hc
    · exact absurd hc hne
    · rcases List.mem_pair.mp hc with rfl | rfl <;> simp [h]
  | merge column other joint target =>
    simp only [applies, Bool.and_eq_true, Bool.not_eq_true'] at h
    rcases List.mem_pair.mp hc with rfl | rfl
    · exact absurd rfl hne
    · simp [h]
  | substring column first past target =>
    simp only [applies, Bool.and_eq_true, Bool.not_eq_true'] at h
    rcases List.mem_pair.mp hc with rfl | rfl
    · exact absurd rfl hne
    · simp [h]

theorem replacement_nodup (h : op.applies t) : op.replacement.Nodup := by
  cases op <;> simp [applies, replacement] at h ⊢ <;> grind

/-! ### Where a column comes from -/

/-- The column of the table before an operation that a column of the edited table comes from;
none for a column that the operation adds. -/
def origin? : Operation → String → Option String
  | rename column newName, c => if c = newName then some column else some c
  | op, c => if c ∈ op.added then none else some c

/-- A column in place of the source that is not added comes from the source. -/
theorem origin_eq_source (hc : c ∈ op.replacement) (hd : op.origin? c = some d) :
    d = op.source := by
  cases op with
  | drop column => exact absurd hc List.not_mem_nil
  | rename column newName =>
    simp only [origin?, if_pos (List.mem_singleton.mp hc), Option.some.injEq] at hd
    exact hd.symm
  | _ =>
    obtain ⟨hadded, rfl⟩ := by
      simpa only [origin?, Option.ite_none_left_eq_some, Option.some.injEq] using hd
    simp_all [replacement, added, source]

/-- A column out of the place of the source comes from itself. -/
theorem origin_eq_self (hc : c ∉ op.replacement) (hd : op.origin? c = some d) : d = c := by
  cases op with
  | rename column newName =>
    simp only [origin?, if_neg (mt List.mem_singleton.mpr hc), Option.some.injEq] at hd
    exact hd.symm
  | _ =>
    simp only [origin?, Option.ite_none_left_eq_some, Option.some.injEq] at hd
    exact hd.2.symm

/-! ### Maps by column -/

section

variable {α : Type} {m : Keyed α} {f : String → α}

/-- A map by columns after an operation. Entries are removed or moved with their columns or kept,
and `f` gives those of added columns. -/
def carry (f : String → α) (m : Keyed α) (op : Operation) : Keyed α :=
  match op with
  | drop column => m.erase column
  | rename column newName => m.move column newName
  | split .. | merge .. | substring .. => Keyed.insertAll f m op.added
  | recase .. => m

/-- The names in a carried map: the replacement and all others but the source. -/
theorem mem_keys_carry (h : op.source ∈ m.keys) :
    c ∈ (carry f m op).keys ↔ c ∈ op.replacement ∨ (c ≠ op.source ∧ c ∈ m.keys) := by
  cases op with
  | drop column => simp [carry, replacement, source]
  | rename column newName =>
    simpa [carry, replacement, source] using Keyed.mem_keys_move newName c h
  | recase style column =>
    simp only [carry, replacement, source] at h ⊢
    grind
  | _ =>
    simp only [carry, Keyed.mem_keys_insertAll, added, replacement, source] at h ⊢
    grind

/-- An added column has a new entry. -/
theorem get?_carry_of_added (hd : op.origin? c = none) : (carry f m op).get? c = some (f c) := by
  cases op with
  | rename column newName =>
    rw [origin?] at hd
    split at hd <;> simp at hd
  | drop column => simp [origin?, added] at hd
  | recase style column => simp [origin?, added] at hd
  | _ =>
    have hadded := by simpa [origin?] using hd
    rw [carry, Keyed.get?_insertAll, if_pos hadded]

/-- Any other column has the entry of its origin. -/
theorem get?_carry (h : op.source ∈ m.keys) (hc : c ∈ op.replacement ∨ c ≠ op.source)
    (hd : op.origin? c = some d) : (carry f m op).get? c = m.get? d := by
  cases op with
  | drop column =>
    obtain rfl : c = d := by simpa [origin?, added] using hd
    have hne : c ≠ column := hc.resolve_left List.not_mem_nil
    rw [carry, Keyed.get?_erase, if_neg hne]
  | rename column newName =>
    have hmove := Keyed.get?_move newName c h
    simp only [origin?] at hd
    split at hd
    next hn =>
      obtain rfl : column = d := by simpa using hd
      simpa [carry, source, hn] using hmove
    next hn =>
      obtain rfl : c = d := by simpa using hd
      have hne : c ≠ column := hc.resolve_left (by simpa [replacement] using hn)
      simpa [carry, source, hn, hne] using hmove
  | recase style column =>
    obtain rfl : c = d := by simpa [origin?, added] using hd
    rfl
  | _ =>
    obtain ⟨hadded, rfl⟩ := by
      simpa only [origin?, Option.ite_none_left_eq_some, Option.some.injEq] using hd
    rw [carry, Keyed.get?_insertAll, if_neg hadded]

end

/-! ### Rows -/

/-- What becomes of a cell of a column that is kept. -/
def retouch : Operation → String → Cell → Cell
  | recase style column, c => if c = column then Row.recaseCell style else id
  | _, _ => id

@[simp] theorem retouch_null (op : Operation) (c : String) : op.retouch c .null = .null := by
  unfold retouch
  split
  · split <;> rfl
  · rfl

/-- Only cells set in a case are touched. -/
theorem retouch_cases (op : Operation) (c : String) :
    op.retouch c = id ∨ ∃ style, op = recase style c ∧ op.retouch c = Row.recaseCell style := by
  cases op with
  | recase style column =>
    by_cases hc : c = column
    · exact .inr ⟨style, by rw [hc], if_pos hc⟩
    · exact .inl (if_neg hc)
  | _ => exact .inl rfl

/-- The cell that the operation puts into a row under a name it adds. -/
def newCell (row : Row) : Operation → String → Cell
  | split column delimiter _ second, c =>
    let (head, tail) := Text.splitFirst delimiter.toList (Row.textAt row column).toList
    .text (String.ofList (if c = second then tail else head))
  | merge column other joint _, _ =>
    .text (Row.textAt row column ++ joint ++ Row.textAt row other)
  | substring column first past _, _ =>
    .text <| String.ofList <|
      Text.substring (Row.textAt row column).toList (Row.position first) (Row.position past)
  | _, _ => .null

/-- The row with its cells retouched. -/
def retouchRow : Operation → Row → Row
  | recase style column, row => Row.recase style column row
  | _, row => row

theorem get?_retouchRow (op : Operation) (row : Row) (c : String) :
    (op.retouchRow row).get? c = (row.get? c).map (op.retouch c) := by
  cases op with
  | recase style column =>
    rw [retouchRow, Row.recase, Keyed.get?_adjust, retouch]
    split <;> simp
  | _ => simp [retouchRow, retouch]

theorem keys_retouchRow (op : Operation) (row : Row) : (op.retouchRow row).keys = row.keys := by
  cases op with
  | recase style column => exact Keyed.keys_eq_iff.mpr fun c => Keyed.mem_keys_adjust row column c _
  | _ => rfl

/-- **A row is edited as any map by columns is**: its cells are carried over, retouched, and new
cells are put under the names that are added. -/
theorem editRow_eq_carry (op : Operation) (row : Row) :
    op.editRow row = op.carry (op.newCell row) (op.retouchRow row) := by
  cases op with
  | split column delimiter first second =>
    refine Keyed.ext_get? fun c => ?_
    simp only [editRow, Row.split, carry, added, newCell, retouchRow, Keyed.get?_insertAll,
      Keyed.get?_insert, List.mem_pair]
    -- were both parts put under one name, the second would stay
    by_cases hc : c = second
    · simp only [hc, or_true, if_true]
    · simp only [hc, or_false, if_false]
  | _ => rfl

/-- The names of an edited row that had the source column. -/
theorem mem_keys_editRow (h : op.source ∈ row.keys) :
    c ∈ (op.editRow row).keys ↔ c ∈ op.replacement ∨ (c ≠ op.source ∧ c ∈ row.keys) := by
  have hs : op.source ∈ (op.retouchRow row).keys := by rwa [keys_retouchRow]
  rw [editRow_eq_carry, mem_keys_carry hs, keys_retouchRow]

/-- A column that is not added holds in every row what its origin held. -/
theorem get?_editRow (h : op.source ∈ row.keys) (hc : c ∈ op.replacement ∨ c ≠ op.source)
    (hd : op.origin? c = some d) : (op.editRow row).get? c = (row.get? d).map (op.retouch d) := by
  have hs : op.source ∈ (op.retouchRow row).keys := by rwa [keys_retouchRow]
  rw [editRow_eq_carry, get?_carry hs hc hd, get?_retouchRow]

/-- An added column holds the new cell in every row, whatever the row has. -/
theorem get?_editRow_of_added (row : Row) (hd : op.origin? c = none) :
    (op.editRow row).get? c = some (op.newCell row c) := by
  rw [editRow_eq_carry, get?_carry_of_added hd]

/-- All new cells are texts. -/
theorem exists_text_newCell (row : Row) (hd : op.origin? c = none) :
    ∃ s, op.newCell row c = .text s := by
  cases op with
  | rename column newName =>
    rw [origin?] at hd
    split at hd <;> cases hd
  | drop | recase => simp [origin?, added] at hd
  | split | merge | substring => exact ⟨_, rfl⟩

end Operation

/-! ### Edited tables -/

namespace Table

variable {op : Operation} {t t' : Table} {c d : String}

/-- The columns of an edited table: the replacement and all others. -/
theorem mem_columns_edit (h : op.edit? t = some t') :
    c ∈ t'.columns ↔ c ∈ op.replacement ∨ (c ≠ op.source ∧ c ∈ t.columns) := by
  obtain ⟨ha, rfl⟩ := Operation.edit?_eq_some_iff.mp h
  have hs := Operation.source_mem_columns ha
  obtain ⟨rows⟩ := t
  cases rows with
  | nil => exact absurd hs List.not_mem_nil
  | cons row rows => exact Operation.mem_keys_editRow hs

/-- An edit leaves the rows with a common set of columns. -/
theorem Uniform.edit (ht : t.Uniform) (h : op.edit? t = some t') : t'.Uniform := by
  have hcolumns := fun c => mem_columns_edit (c := c) h
  obtain ⟨ha, rfl⟩ := Operation.edit?_eq_some_iff.mp h
  obtain ⟨rows⟩ := t
  cases rows with
  | nil => exact List.forall_mem_nil _
  | cons first rows =>
    intro row' hrow'
    obtain ⟨row, hrow, rfl⟩ := List.mem_map.mp hrow'
    refine Keyed.keys_eq_iff.mpr fun c => ?_
    have hs : op.source ∈ row.keys := ht row hrow ▸ Operation.source_mem_columns ha
    rw [Operation.mem_keys_editRow hs, ht row hrow]
    exact (hcolumns c).symm

/-- The origin of a column of an edited table is a column of the table before. -/
theorem origin_mem_columns (h : op.edit? t = some t') (hc : c ∈ t'.columns)
    (hd : op.origin? c = some d) : d ∈ t.columns := by
  have hc := (mem_columns_edit h).mp hc
  by_cases hr : c ∈ op.replacement
  · rw [Operation.origin_eq_source hr hd]
    exact Operation.source_mem_columns (Operation.edit?_eq_some_iff.mp h).1
  · rw [Operation.origin_eq_self hr hd]
    exact (hc.resolve_left hr).2

/-- A column of an edited table that is not added holds the cells of its origin, retouched. -/
theorem column_edit (ht : t.Uniform) (h : op.edit? t = some t') (hc : c ∈ t'.columns)
    (hd : op.origin? c = some d) : t'.column c = (t.column d).map (op.retouch d) := by
  have hplace : c ∈ op.replacement ∨ c ≠ op.source :=
    ((mem_columns_edit h).mp hc).imp_right And.left
  obtain ⟨ha, rfl⟩ := Operation.edit?_eq_some_iff.mp h
  rw [column, column, mapRows, List.map_map, List.map_map]
  refine List.map_congr_left fun row hrow => ?_
  have hs : op.source ∈ row.keys := ht row hrow ▸ Operation.source_mem_columns ha
  simp only [Function.comp_apply, Operation.get?_editRow hs hplace hd]
  cases row.get? d <;> simp

/-- An edit neither adds rows nor removes any. -/
theorem size_edit (h : op.edit? t = some t') : t'.size = t.size := by
  obtain ⟨-, rfl⟩ := Operation.edit?_eq_some_iff.mp h
  exact List.length_map _

/-- A column that is added holds texts only. -/
theorem exists_text_of_mem_column_edit (h : op.edit? t = some t') (hd : op.origin? c = none)
    {cell : Cell} (hcell : cell ∈ t'.column c) : ∃ s, cell = .text s := by
  obtain ⟨-, rfl⟩ := Operation.edit?_eq_some_iff.mp h
  rw [column, mapRows, List.map_map] at hcell
  obtain ⟨row, -, rfl⟩ := List.mem_map.mp hcell
  rw [Function.comp_apply, Operation.get?_editRow_of_added row hd, Option.getD_some]
  exact Operation.exists_text_newCell row hd

end Table

end Tabular
