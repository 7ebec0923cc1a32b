import Mathlib.Data.List.DropRight
import Mathlib.Data.List.Forall2
import Tabular.Report.TextTable

/-!
# Tables of text keep their shape

Whatever its cells hold, a table is written in one line for the header, one for the rule and one for
each row: line breaks and tabs do not survive in a cell, and spaces at the end of a line are cut off.
If no cell has an escape sequence, the width of a text is the number of its characters, flattening
does not change it, and a column is wide enough for all of its cells (`TextTable.getElem?_widths`).
Then **every column stands in the same place of every line** (`TextTable.contents_keep_to_columns`).
-/

namespace Tabular

namespace TextTable

variable {t : TextTable} {s : List Char} {k : Nat}

/-! ### Characters of a line -/

/-- No character breaks the line or jumps ahead in it. -/
def Unbroken (s : List Char) : Prop := ∀ c ∈ s, c ≠ '\n' ∧ c ≠ '\r' ∧ c ≠ '\t'

instance : Decidable (Unbroken s) := List.decidableBAll _ s

theorem unbroken_append {s' : List Char} (h : Unbroken s) (h' : Unbroken s') : Unbroken (s ++ s') :=
  fun c hc => (List.mem_append.mp hc).elim (h c) (h' c)

theorem unbroken_replicate {c : Char} (h : Unbroken [c]) (n : Nat) : Unbroken (List.replicate n c) :=
  fun c' hc => h c' (List.mem_singleton.mpr (List.eq_of_mem_replicate hc))

theorem unbroken_flatten (cell : String) : Unbroken (flatten cell) := by
  intro c hc
  obtain ⟨c', -, rfl⟩ := List.mem_map.mp hc
  unfold flatChar
  split
  next => decide
  next h => simpa only [not_or] using h

theorem unbroken_padded (w : Nat) (side : Align) (h : Unbroken s) : Unbroken (padded w side s) := by
  have hspace : Unbroken (List.replicate (w - width s) ' ') := unbroken_replicate (by decide) _
  cases side with
  | left => exact unbroken_append h hspace
  | right => exact unbroken_append hspace h

theorem unbroken_joined : ∀ {xs : List (List Char)}, (∀ x ∈ xs, Unbroken x) → Unbroken (joined xs)
  | [], _ => by decide
  | [x], h => h x List.mem_cons_self
  | x :: y :: xs, h => by
    have ⟨hx, hxs⟩ := List.forall_mem_cons.mp h
    have hgap : Unbroken [' ', ' '] := by decide
    exact unbroken_append hx (unbroken_append hgap (unbroken_joined hxs))

theorem unbroken_filled (ws : List Nat) (sides : List Align) (cells : List String) :
    ∀ x ∈ filled ws sides cells, Unbroken x := by
  fun_induction filled ws sides cells with
  | case1 w ws side sides cell cells ih =>
    exact List.forall_mem_cons.mpr ⟨unbroken_padded w side (unbroken_flatten cell), ih⟩
  | case2 => exact List.forall_mem_nil _

theorem unbroken_trimEnd (h : Unbroken s) : Unbroken (trimEnd s) :=
  fun c hc => h c ((List.rdropWhile_prefix (· == ' ') s).subset hc)

theorem unbroken_line (ws : List Nat) (sides : List Align) (cells : List String) :
    Unbroken (line ws sides cells) :=
  unbroken_trimEnd (unbroken_joined (unbroken_filled ws sides cells))

theorem unbroken_rule (ws : List Nat) : Unbroken (rule ws) := by
  refine unbroken_joined fun x hx => ?_
  obtain ⟨w, -, rfl⟩ := List.mem_map.mp hx
  exact unbroken_replicate (by decide) _

/-! ### Ends of lines -/

theorem getLast?_trimEnd (s : List Char) : (trimEnd s).getLast? ≠ some ' ' := by
  rw [trimEnd, List.getLast?_reverse]
  intro h
  have hlast := List.head?_dropWhile_not (· == ' ') s.reverse
  rw [h] at hlast
  exact absurd hlast (by decide)

/-- A line lacks nothing but spaces at its end. -/
theorem exists_trimEnd_append (s : List Char) : ∃ n, trimEnd s ++ List.replicate n ' ' = s := by
  have hspaces : s.rtakeWhile (· == ' ') = List.replicate (s.rtakeWhile (· == ' ')).length ' ' :=
    List.eq_replicate_iff.mpr ⟨rfl, fun c hc => by simpa using List.mem_rtakeWhile_imp hc⟩
  exact ⟨_, (congrArg (trimEnd s ++ ·) hspaces.symm).trans List.rdropWhile_append_rtakeWhile⟩

theorem getLast?_rule_cons (w : Nat) : ∀ ws : List Nat, (rule (w :: ws)).getLast? = some '-'
  | [] => by
    have hw : max w 3 ≠ 0 := by omega
    simp [rule, joined, List.getLast?_replicate, hw]
  | w' :: ws => by
    have hrule : rule (w :: w' :: ws) =
        List.replicate (max w 3) '-' ++ ([' ', ' '] ++ rule (w' :: ws)) := rfl
    rw [hrule, List.getLast?_append, List.getLast?_append, getLast?_rule_cons w' ws]
    rfl

theorem getLast?_rule (ws : List Nat) : (rule ws).getLast? ≠ some ' ' := by
  cases ws with
  | nil => exact nofun
  | cons w ws =>
    rw [getLast?_rule_cons]
    decide

/-! ### Widths -/

/-- Without escape sequences the width of a text is the number of its characters. -/
theorem width_eq_length : ∀ {s : List Char}, '\x1b' ∉ s → width s = s.length
  | [], _ => rfl
  | c :: s, h => by
    have ⟨hc, hs⟩ := not_or.mp (mt List.mem_cons.mpr h)
    have hrest : shownFrom false s = s.length := width_eq_length hs
    rw [width, shownFrom, if_neg Bool.false_ne_true, if_neg (Ne.symm hc), hrest, List.length_cons]

theorem length_flatten (cell : String) : (flatten cell).length = cell.length := by
  rw [flatten, List.length_map, String.length_toList]

theorem escape_notMem_flatten {cell : String} (h : '\x1b' ∉ cell.toList) : '\x1b' ∉ flatten cell := by
  intro hmem
  obtain ⟨c, hc, hflat⟩ := List.mem_map.mp hmem
  unfold flatChar at hflat
  split at hflat
  · exact absurd hflat (by decide)
  · exact h (hflat ▸ hc)

/-- The width of a column: the number of characters of its longest cell, and at least one. -/
def columnWidth (t : TextTable) (k : Nat) : Nat :=
  (1 :: (t.headers :: t.rows).map fun cells => (cells.getD k "").length).max (List.cons_ne_nil _ _)

/-- No cell has an escape sequence. -/
def Plain (t : TextTable) : Prop :=
  ∀ cells ∈ t.headers :: t.rows, ∀ cell ∈ cells, '\x1b' ∉ cell.toList

theorem Plain.width_getD (h : t.Plain) {cells : List String} (hcells : cells ∈ t.headers :: t.rows)
    (k : Nat) : width (cells.getD k "").toList = (cells.getD k "").length := by
  rw [← String.length_toList]
  refine width_eq_length ?_
  rw [List.getD_eq_getElem?_getD]
  cases hk : cells[k]? with
  | none => decide
  | some cell => exact h cells hcells cell (List.mem_of_getElem? hk)

theorem getElem?_widen : ∀ (k : Nat) (ws : List Nat) (cells : List String),
    (widen ws cells)[k]? = ws[k]?.map fun w => max w (width (cells.getD k "").toList)
  | _, [], _ => rfl
  | k, w :: ws, [] => by simp [widen, width, shownFrom]
  | 0, w :: ws, cell :: cells => rfl
  | k + 1, w :: ws, cell :: cells => getElem?_widen k ws cells

theorem getElem?_foldl_widen (k : Nat) : ∀ (rows : List (List String)) (ws : List Nat),
    (rows.foldl widen ws)[k]? =
      ws[k]?.map fun w => rows.foldl (fun w cells => max w (width (cells.getD k "").toList)) w
  | [], ws => by simp
  | cells :: rows, ws => by
    rw [List.foldl_cons, getElem?_foldl_widen k rows, getElem?_widen, Option.map_map]
    rfl

/-- **A column is as wide as its longest cell.** -/
theorem getElem?_widths (h : t.Plain) (k : Nat) :
    t.widths[k]? = t.headers[k]?.map fun _ => t.columnWidth k := by
  have hrows (w : Nat) : t.rows.foldl (fun w cells => max w (width (cells.getD k "").toList)) w =
      (t.rows.map fun cells => (cells.getD k "").length).foldl max w := by
    rw [List.foldl_map]
    refine List.foldl_ext _ _ _ fun w cells hcells => ?_
    rw [h.width_getD (List.mem_cons_of_mem _ hcells)]
  rw [widths, getElem?_foldl_widen, List.getElem?_map, Option.map_map]
  cases hk : t.headers[k]? with
  | none => rfl
  | some header =>
    have hheader := h.width_getD List.mem_cons_self k
    rw [List.getD_eq_getElem?_getD, hk, Option.getD_some] at hheader
    have hwidth : t.columnWidth k =
        (t.rows.map fun cells => (cells.getD k "").length).foldl max (max header.length 1) := by
      rw [columnWidth, List.max, List.map_cons, List.foldl_cons, List.getD_eq_getElem?_getD, hk,
        Option.getD_some, Nat.max_comm]
    rw [Option.map_some, Option.map_some, Function.comp_apply, hrows, hheader, hwidth]

theorem le_columnWidth {cells : List String} (hcells : cells ∈ t.headers :: t.rows) (k : Nat) :
    (cells.getD k "").length ≤ t.columnWidth k := by
  have hmem : (cells.getD k "").length ∈
      (t.headers :: t.rows).map fun cells => (cells.getD k "").length :=
    List.mem_map.mpr ⟨cells, hcells, rfl⟩
  exact List.le_max_of_mem (List.mem_cons_of_mem 1 hmem)

/-! ### Columns -/

/-- A text that takes at least `w` characters, with spaces on the side of its end. -/
def aligned (w : Nat) : Align → List Char → List Char
  | .left, s => s.rightpad w ' '
  | .right, s => s.leftpad w ' '

theorem length_aligned (w : Nat) (side : Align) (s : List Char) :
    (aligned w side s).length = max w s.length := by
  cases side with
  | left => exact List.length_rightpad
  | right => exact List.length_leftpad

/-- The cells of a row as they stand in their columns; those beyond the columns are left out. -/
def columnTexts (t : TextTable) (cells : List String) : List (List Char) :=
  (cells.zip t.aligns).mapIdx fun k (cell, side) => aligned (t.columnWidth k) side (flatten cell)

/-- The place in a line where a column begins: two spaces behind the column before it. -/
def columnStart (t : TextTable) : Nat → Nat
  | 0 => 0
  | k + 1 => t.columnStart k + t.columnWidth k + 2

/-- A line shows the cells of a row in columns: up to spaces at its end it consists of their texts with
two spaces in between, and each text fills the place of its column. -/
structure InColumns (t : TextTable) (cells : List String) (line : List Char) : Prop where
  length_texts : (t.columnTexts cells).length = min cells.length t.headers.length
  length_text : ∀ k x, (t.columnTexts cells)[k]? = some x → x.length = t.columnWidth k
  line_eq : ∃ n, line ++ List.replicate n ' ' = [' ', ' '].intercalate (t.columnTexts cells) ∧
    ∀ k x, (t.columnTexts cells)[k]? = some x →
      ((line ++ List.replicate n ' ').drop (t.columnStart k)).take (t.columnWidth k) = x

/-- A table as it is put together: from a header, by aligning columns and adding rows. -/
inductive Built : TextTable → Prop where
  | ofHeaders (headers : List String) : Built (ofHeaders headers)
  | align {t : TextTable} (h : Built t) (column : Nat) (side : Align) : Built (t.align column side)
  | push {t : TextTable} (h : Built t) (row : List String) : Built (t.push row)

/-- Every column has a side. -/
theorem Built.length_aligns (h : t.Built) : t.aligns.length = t.headers.length := by
  induction h with
  | ofHeaders headers => exact List.length_map _
  | align _ column side ih => exact List.length_set.trans ih
  | push _ row ih => exact ih

theorem joined_eq_intercalate : ∀ xs : List (List Char), joined xs = [' ', ' '].intercalate xs
  | [] => rfl
  | [x] => List.intercalate_singleton.symm
  | x :: y :: xs => by
    rw [joined, joined_eq_intercalate (y :: xs), List.intercalate_cons_cons, List.append_assoc]
    rfl

theorem getElem?_filled : ∀ (k : Nat) (ws : List Nat) (sides : List Align) (cells : List String),
    (filled ws sides cells)[k]? = (cells.zip sides)[k]?.bind fun x =>
      ws[k]?.map fun w => padded w x.2 (flatten x.1)
  | k, [], sides, cells => by cases (cells.zip sides)[k]? <;> simp [filled]
  | _, _ :: _, [], cells => by simp [filled]
  | _, _ :: _, _ :: _, [] => by simp [filled]
  | 0, w :: ws, side :: sides, cell :: cells => rfl
  | k + 1, w :: ws, side :: sides, cell :: cells => getElem?_filled k ws sides cells

/-- Filling looks at the width of a text, which without escape sequences is its length. -/
theorem padded_eq_aligned (w : Nat) (side : Align) (h : '\x1b' ∉ s) :
    padded w side s = aligned w side s := by
  simp only [padded, width_eq_length h]
  cases side with
  | left => rfl
  | right => rfl

/-- The filled cells of a row are their texts in the columns. -/
theorem filled_eq_columnTexts (hb : t.Built) (h : t.Plain) {cells : List String}
    (hcells : cells ∈ t.headers :: t.rows) :
    filled t.widths t.aligns cells = t.columnTexts cells := by
  refine List.ext_getElem? fun k => ?_
  rw [getElem?_filled, columnTexts, List.getElem?_mapIdx]
  cases hk : (cells.zip t.aligns)[k]? with
  | none => rfl
  | some x =>
    obtain ⟨hcell, hside⟩ := List.getElem?_zip_eq_some.mp hk
    have hlt : k < t.headers.length := hb.length_aligns ▸ (List.getElem?_eq_some_iff.mp hside).1
    have hplain := h cells hcells x.1 (List.mem_of_getElem? hcell)
    rw [Option.bind_some, getElem?_widths h, List.getElem?_eq_getElem hlt, Option.map_some,
      Option.map_some, Option.map_some, padded_eq_aligned _ _ (escape_notMem_flatten hplain)]

theorem length_of_columnTexts {cells : List String} (hcells : cells ∈ t.headers :: t.rows)
    {x : List Char} (hx : (t.columnTexts cells)[k]? = some x) : x.length = t.columnWidth k := by
  rw [columnTexts, List.getElem?_mapIdx, Option.map_eq_some_iff] at hx
  obtain ⟨⟨cell, side⟩, hk, rfl⟩ := hx
  have hle := le_columnWidth hcells k
  rw [List.getD_eq_getElem?_getD, (List.getElem?_zip_eq_some.mp hk).1, Option.getD_some] at hle
  rw [length_aligned, length_flatten, Nat.max_eq_left hle]

theorem joined_append_cons (x : List Char) (after : List (List Char)) : ∀ before : List (List Char),
    joined (before ++ x :: after) = before.flatMap (· ++ [' ', ' ']) ++ joined (x :: after)
  | [] => rfl
  | [y] => by simp [joined]
  | y :: z :: before => by
    have ih := joined_append_cons x after (z :: before)
    rw [List.cons_append, List.cons_append, joined, ← List.cons_append, ih]
    simp

theorem exists_joined_cons (x : List Char) (after : List (List Char)) :
    ∃ rest, joined (x :: after) = x ++ rest := by
  cases after with
  | nil => exact ⟨[], (List.append_nil x).symm⟩
  | cons y after => exact ⟨_, rfl⟩

/-- Texts as wide as their columns end where the next column begins. -/
theorem length_before_column {xs : List (List Char)}
    (hxs : ∀ k x, xs[k]? = some x → x.length = t.columnWidth k) :
    ∀ {k : Nat}, k ≤ xs.length →
      ((xs.take k).flatMap (· ++ [' ', ' '])).length = t.columnStart k
  | 0, _ => rfl
  | k + 1, hk => by
    have hx := hxs k _ (List.getElem?_eq_getElem hk)
    rw [List.take_succ_eq_append_getElem hk, List.flatMap_append, List.length_append,
      length_before_column hxs (Nat.le_of_succ_le hk), columnStart, Nat.add_assoc]
    simp [hx]

/-- A text as wide as its column is found in the place of the column. -/
theorem take_drop_joined {xs : List (List Char)} {x : List Char}
    (hxs : ∀ k x, xs[k]? = some x → x.length = t.columnWidth k) (hx : xs[k]? = some x) :
    ((joined xs).drop (t.columnStart k)).take (t.columnWidth k) = x := by
  obtain ⟨hk, hget⟩ := List.getElem?_eq_some_iff.mp hx
  have hsplit : xs = xs.take k ++ x :: xs.drop (k + 1) := by
    rw [← hget, List.getElem_cons_drop, List.take_append_drop]
  obtain ⟨rest, hrest⟩ := exists_joined_cons x (xs.drop (k + 1))
  have hjoined : joined xs = (xs.take k).flatMap (· ++ [' ', ' ']) ++ (x ++ rest) := by
    rw [← hrest, ← joined_append_cons, ← hsplit]
  rw [hjoined, ← length_before_column hxs (Nat.le_of_lt hk), List.drop_left, ← hxs k x hx,
    List.take_left]

/-- A line shows its row in columns. -/
theorem inColumns_line (hb : t.Built) (h : t.Plain) {cells : List String}
    (hcells : cells ∈ t.headers :: t.rows) :
    t.InColumns cells (line t.widths t.aligns cells) := by
  have hwidths : ∀ k x, (t.columnTexts cells)[k]? = some x → x.length = t.columnWidth k :=
    fun k x hx => length_of_columnTexts hcells hx
  rw [line, filled_eq_columnTexts hb h hcells]
  refine ⟨?_, hwidths, ?_⟩
  · rw [columnTexts, List.length_mapIdx, List.length_zip, hb.length_aligns]
  · obtain ⟨n, hn⟩ := exists_trimEnd_append (joined (t.columnTexts cells))
    refine ⟨n, hn.trans (joined_eq_intercalate _), fun k x hx => ?_⟩
    rw [hn]
    exact take_drop_joined hwidths hx

/-- **Contents do not break a table.** Whatever the cells hold, a table is written in as many lines as
it has rows and two more, the header and the rule, each ended by a line feed; no line has another line
feed, a carriage return or a tab, and none ends in a space. If no cell has an escape sequence, the
header and the rows show their cells in columns, whose places are the same in all of these lines. -/
theorem contents_keep_to_columns (t : TextTable) :
    ∃ header rule body, t.render.toList = (header :: rule :: body).flatMap (· ++ ['\n']) ∧
      body.length = t.size ∧
      (∀ line ∈ header :: rule :: body, Unbroken line ∧ line.getLast? ≠ some ' ') ∧
      (t.Built → t.Plain → List.Forall₂ t.InColumns (t.headers :: t.rows) (header :: body)) := by
  have hline (cells : List String) : Unbroken (line t.widths t.aligns cells) ∧
      (line t.widths t.aligns cells).getLast? ≠ some ' ' :=
    ⟨unbroken_line _ _ cells, getLast?_trimEnd _⟩
  refine ⟨line t.widths t.aligns t.headers, rule t.widths, t.rows.map (line t.widths t.aligns), ?_, ?_,
    ?_, fun hb h => ?_⟩
  · rw [render, String.toList_ofList]
    rfl
  · exact List.length_map _
  · simp only [List.forall_mem_cons, List.forall_mem_map]
    exact ⟨hline _, ⟨unbroken_rule _, getLast?_rule _⟩, fun cells _ => hline cells⟩
  · rw [← List.map_cons (f := line t.widths t.aligns), List.forall₂_map_right_iff, List.forall₂_same]
    exact fun cells hcells => inColumns_line hb h hcells

/-- A tab in a header, a line break in a cell, a short row and a long one. -/
theorem ragged_rows_in_columns :
    let t := (((ofHeaders ["id", "na\tme"]).align 0 .right).push ["1"]).push ["22", "Bob\n", "x"]
    t.Built ∧ t.Plain ∧ t.render = "id  na me\n---  -----\n 1\n22  Bob\n" ∧
      ∃ header rule body, t.render.toList = (header :: rule :: body).flatMap (· ++ ['\n']) ∧
        List.Forall₂ t.InColumns (t.headers :: t.rows) (header :: body) := by
  intro t
  have hb : t.Built := (((Built.ofHeaders _).align _ _).push _).push _
  have h : t.Plain := by
    have hcells : (t.headers :: t.rows).all (·.all fun cell => !cell.toList.contains '\x1b') := by
      decide
    intro cells hmem cell hcell
    simpa using List.all_eq_true.mp (List.all_eq_true.mp hcells cells hmem) cell hcell
  obtain ⟨header, rule, body, hrender, -, -, hcolumns⟩ := contents_keep_to_columns t
  exact ⟨hb, h, by decide, header, rule, body, hrender, hcolumns hb h⟩

end TextTable

end Tabular
