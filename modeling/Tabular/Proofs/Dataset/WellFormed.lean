import Tabular.Proofs.CommandLine.Apply
import Tabular.Proofs.Dataset.Reading
import Tabular.Proofs.Encoding
import Tabular.Proofs.Json.Names
import Tabular.Proofs.Keyed

/-!
# What is read is well-formed

Headers are decoded one by one, so two of them may come out alike. Then the columns of a data set are
the headers without repetition, shown in their first places, while a row holds **the last field under
each header** (`Dataset.HoldsRecord`). All rows of delimited text share these columns, so no workspace
that operations lead to fails the check. Objects of a JSON array are free to differ in their names,
and then the loaded workspace fails the check from the start: **it passes exactly if they do not**.
-/

namespace Tabular

namespace Dataset

open Encoding

variable {o : SourceOptions} {bytes : List UInt8} {d : Dataset}

/-! ### Lists related item by item -/

private theorem forall_mem_congr {α β : Type} {R : α → β → Prop} {P : α → Prop} {Q : β → Prop}
    {xs : List α} {ys : List β} (h : List.Forall₂ R xs ys) (hR : ∀ x y, R x y → (P x ↔ Q y)) :
    (∀ x ∈ xs, P x) ↔ ∀ y ∈ ys, Q y := by
  induction h with
  | nil => simp
  | cons hxy _ ih => rw [List.forall_mem_cons, List.forall_mem_cons, hR _ _ hxy, ih]

private theorem exists_between {α β γ : Type} {R : α → β → Prop} {P : α → γ → Prop}
    {Q : γ → β → Prop} {xs : List α} {ys : List β} (h : List.Forall₂ R xs ys)
    (hR : ∀ x y, R x y → ∃ z, P x z ∧ Q z y) :
    ∃ zs, List.Forall₂ P xs zs ∧ List.Forall₂ Q zs ys := by
  induction h with
  | nil => exact ⟨[], .nil, .nil⟩
  | cons hxy _ ih =>
    obtain ⟨z, hP, hQ⟩ := hR _ _ hxy
    obtain ⟨zs, hPs, hQs⟩ := ih
    exact ⟨z :: zs, .cons hP hPs, .cons hQ hQs⟩

/-! ### Rows of delimited text -/

private theorem exists_last {c : String} : ∀ {l : List String}, c ∈ l →
    ∃ i, l[i]? = some c ∧ c ∉ l.drop (i + 1)
  | a :: l, hc => by
    by_cases hl : c ∈ l
    · obtain ⟨i, hi, hlast⟩ := exists_last hl
      exact ⟨i + 1, by rwa [List.getElem?_cons_succ], by rwa [List.drop_succ_cons]⟩
    · have ha : c = a := (List.mem_cons.mp hc).resolve_right hl
      exact ⟨0, by rw [ha, List.getElem?_cons_zero], by rwa [List.drop_succ_cons, List.drop_zero]⟩

/-- A row holds the fields of a record under headers: it has a cell for every header and no other,
and the cell is the text of the field in the last place of that header. -/
structure HoldsRecord (e : Encoding) (headers : List String) (record : List Delimited.Field)
    (row : Row) : Prop where
  keys : ∀ c, c ∈ row.keys ↔ c ∈ headers
  last : ∀ c ∈ headers, ∃ i f s, headers[i]? = some c ∧ c ∉ headers.drop (i + 1) ∧
    record[i]? = some f ∧ e.decode? f = some s ∧ row.get? c = some (.text s)

/-- The row of decoded fields holds their record. -/
theorem holdsRecord_ofList {e : Encoding} {headers : List String} {record : List Delimited.Field}
    {texts : List String} (h : RecordReadAs e headers.length record texts) :
    HoldsRecord e headers record (Keyed.ofList (headers.zip (texts.map Cell.text))) := by
  have htexts : texts.length = headers.length := h.decoded.length_eq.symm.trans h.length_eq
  have hlen : (texts.map Cell.text).length = headers.length := by rwa [List.length_map]
  constructor
  case keys => exact fun c => Keyed.mem_keys_ofList_zip c hlen
  case last =>
    intro c hc
    obtain ⟨i, hi, hlast⟩ := exists_last hc
    have hheader : i < headers.length := (List.getElem?_eq_some_iff.mp hi).1
    have hrecord : i < record.length := h.length_eq ▸ hheader
    have htext : i < texts.length := htexts ▸ hheader
    refine ⟨i, record[i], texts[i], hi, hlast, List.getElem?_eq_getElem hrecord,
      List.forall₂_iff_get.mp h.decoded |>.2 i hrecord htext,
      Keyed.get?_ofList_zip c hlen hi hlast ?_⟩
    rw [List.getElem?_map, List.getElem?_eq_getElem htext, Option.map_some]

/-- **The rows of delimited text**: each record within the limit gives one, under the decoded
headers. -/
theorem rows_of_readDelimited {delimiter : UInt8}
    (h : readDelimited delimiter o bytes = .ok d) (hrows : d.table.rows ≠ []) :
    ∃ header records, Delimited.records delimiter bytes = header :: records ∧
      List.Forall₂ (fun f s => o.encoding.decode? f = some s) header d.headers ∧
        List.Forall₂ (HoldsRecord o.encoding d.headers) (limited o.limit records) d.table.rows := by
  cases hrecords : Delimited.records delimiter bytes with
  | nil =>
    rw [readDelimited, hrecords] at h
    exact absurd (congrArg (·.table.rows) (Except.ok.inj h)).symm hrows
  | cons header records =>
    obtain ⟨hheaders, texts, htexts, htable⟩ := (readDelimited_eq_ok_iff hrecords).mp h
    refine ⟨header, records, rfl, hheaders, ?_⟩
    rw [htable, Table.ofRecords, List.map_map, List.forall₂_map_right_iff]
    exact htexts.imp fun _ _ hread => holdsRecord_ofList (hheaders.length_eq ▸ hread)

/-- The columns of delimited text are its headers, in every row. -/
theorem mem_keys_of_readDelimited {delimiter : UInt8} (h : readDelimited delimiter o bytes = .ok d) :
    ∀ row ∈ d.table.rows, ∀ c, c ∈ row.keys ↔ c ∈ d.headers := by
  intro row hrow
  obtain ⟨header, records, -, -, hholds⟩ := rows_of_readDelimited h (List.ne_nil_of_mem hrow)
  exact (forall_mem_congr hholds fun _ _ hrecord => iff_of_true trivial hrecord.keys).mp
    (fun _ _ => trivial) row hrow

/-! ### Rows of a JSON array -/

/-- **The rows of a JSON array**: each item within the limit is an object and gives one, with the
names that the object is written with. The headers are those of the first object. -/
theorem rows_of_readJson (h : readJson o bytes = .ok d) :
    ∃ text items namesOf, o.encoding.decode? bytes = some text ∧
      Source.read text.toList = some (.array items) ∧
        List.Forall₂ (fun item names => item.memberNames? = some names) (limited o.limit items)
          namesOf ∧
        d.headers = (namesOf.head?.getD []).eraseDups ∧
          List.Forall₂ (fun names row => ∀ c, c ∈ row.keys ↔ c ∈ names) namesOf d.table.rows := by
  obtain ⟨text, js, objects, htext, hjs, hobjects, rfl⟩ := readJson_eq_ok_iff.mp h
  obtain ⟨source, hsource, hdocument⟩ := Option.bind_eq_some_iff.mp hjs
  obtain ⟨items, rfl, hitems⟩ := Source.items_of_json? hdocument
  have hlimited : List.Forall₂ (fun item ms => item.json? (Source.maxNesting - 1) = some (.object ms))
      (limited o.limit items) objects := by
    have hwithin : List.Forall₂ (fun item j => Source.json? (Source.maxNesting - 1) item = some j)
        (limited o.limit items) (limited o.limit js) := forall₂_limited hitems
    rw [hobjects] at hwithin
    exact (List.forall₂_map_right_iff
      (R := fun item j => Source.json? (Source.maxNesting - 1) item = some j)).mp hwithin
  obtain ⟨namesOf, hnames, hmembers⟩ := exists_between hlimited fun _ _ => Source.names_of_json?
  refine ⟨text, items, namesOf, htext, hsource, hnames, ?_, ?_⟩
  · cases hmembers with
    | nil => rfl
    | cons hfirst _ => exact hfirst
  · rw [List.forall₂_map_right_iff]
    refine hmembers.imp fun names ms hms c => ?_
    have hkeys : (ms.map fun m => (m.1, Cell.ofJson m.2)).map (·.1) = names.eraseDups := by
      rw [List.map_map]
      exact hms
    rw [rowOfMembers, Keyed.mem_keys_ofList, hkeys, List.mem_eraseDups]

/-! ### Loaded workspaces -/

/-- Rows with a common set of names have these as the columns of their table. -/
theorem mem_columns_of_keys {t : Table} {names : List String} (hrows : t.rows ≠ [])
    (h : ∀ row ∈ t.rows, ∀ c, c ∈ row.keys ↔ c ∈ names) (c : String) :
    c ∈ t.columns ↔ c ∈ names := by
  obtain ⟨rows⟩ := t
  cases rows with
  | nil => exact absurd rfl hrows
  | cons row rows => exact h row List.mem_cons_self c

theorem uniform_of_keys {t : Table} {names : List String}
    (h : ∀ row ∈ t.rows, ∀ c, c ∈ row.keys ↔ c ∈ names) : t.Uniform :=
  Table.uniform_iff.mpr fun row hrow c =>
    (h row hrow c).trans (mem_columns_of_keys (List.ne_nil_of_mem hrow) h c).symm

/-- The columns of a table of objects are the names of the first one. -/
theorem mem_columns_of_names {t : Table} {first : List String} {rest : List (List String)}
    (h : List.Forall₂ (fun names row => ∀ c, c ∈ row.keys ↔ c ∈ names) (first :: rest) t.rows)
    (c : String) : c ∈ t.columns ↔ c ∈ first := by
  obtain ⟨row, rows, hfirst, -, htable⟩ := List.forall₂_cons_left_iff.mp h
  rw [Table.columns, htable]
  exact hfirst c

/-- The workspace of objects shows the names of the first one. -/
theorem order_of_names {p : Provider} {first : List String} {rest : List (List String)}
    (hheaders : d.headers = first.eraseDups)
    (hkeys : List.Forall₂ (fun names row => ∀ c, c ∈ row.keys ↔ c ∈ names) (first :: rest)
      d.table.rows) :
    (Workspace.load p d.table (some d.headers)).value.order = first.eraseDups := by
  have hcolumns := mem_columns_of_names hkeys
  have horder := Workspace.initialOrder_eq_eraseDups hcolumns
  rw [Workspace.load_value, hheaders]
  exact Workspace.initialOrder_eq_self (horder ▸ Workspace.initialOrder_nodup) fun c =>
    (hcolumns c).trans List.mem_eraseDups.symm

/-- The workspace of objects passes the check if they all have the names of the first one. -/
theorem check_of_names {p : Provider} {first : List String} {rest : List (List String)}
    (hkeys : List.Forall₂ (fun names row => ∀ c, c ∈ row.keys ↔ c ∈ names) (first :: rest)
      d.table.rows) :
    (Workspace.load p d.table (some d.headers)).value.check = .ok () ↔
      ∀ names ∈ rest, ∀ c, c ∈ names ↔ c ∈ first := by
  have hcolumns := mem_columns_of_names hkeys
  obtain ⟨row, rows, hfirst, hrest, htable⟩ := List.forall₂_cons_left_iff.mp hkeys
  have hsame : (∀ names ∈ rest, ∀ c, c ∈ names ↔ c ∈ first) ↔
      ∀ row ∈ rows, ∀ c, c ∈ row.keys ↔ c ∈ d.table.columns :=
    forall_mem_congr hrest fun names row hrow =>
      forall_congr' fun c => by rw [hrow c, hcolumns c]
  rw [Workspace.load_aligned.check_eq_ok_iff_uniform, Workspace.load_value, Table.uniform_iff,
    hsame, htable, List.forall_mem_cons]
  exact and_iff_right fun c => (hfirst c).trans (hcolumns c).symm

/-- **Data sets give well-formed workspaces in the order of their source.** Take delimited text, under
any delimiter, encoding and limit, from which at least one row is read: each row holds its record; the
order shows the headers without repetition; and after any operations the check succeeds, so that a
script never ends with an inconsistency on such an input, whatever libraries read the script and decode
the input. Take a JSON array from which at least one row is read: the order shows the names of the
first object as it is written, without repetition, and the check succeeds exactly if the objects within
the limit all have the same set of names. -/
theorem loaded_workspaces_well_formed (p q : Provider) (o : SourceOptions) (bytes : List UInt8) :
    (∀ delimiter d, readDelimited delimiter o bytes = .ok d → d.table.rows ≠ [] →
      (∃ header records, Delimited.records delimiter bytes = header :: records ∧
        List.Forall₂ (fun f s => o.encoding.decode? f = some s) header d.headers ∧
          List.Forall₂ (HoldsRecord o.encoding d.headers) (limited o.limit records) d.table.rows) ∧
      let w := (Workspace.load p d.table (some d.headers)).value
      w.order = d.headers.eraseDups ∧ ∀ ops, (Workspace.run q w ops).value.check = .ok ()) ∧
    (∀ s input script preview json cause, isJsonPath input.input = false →
      (CommandLine.runApply s input script preview json).result ≠ .error (.inconsistent cause)) ∧
    ∀ d, readJson o bytes = .ok d → d.table.rows ≠ [] →
      ∃ text items first rest, o.encoding.decode? bytes = some text ∧
        Source.read text.toList = some (.array items) ∧
        List.Forall₂ (fun item names => item.memberNames? = some names) (limited o.limit items)
          (first :: rest) ∧
        let w := (Workspace.load p d.table (some d.headers)).value
        w.order = first.eraseDups ∧
          (w.check = .ok () ↔ ∀ names ∈ rest, ∀ c, c ∈ names ↔ c ∈ first) := by
  refine ⟨fun delimiter d h hrows => ⟨rows_of_readDelimited h hrows, ?_, fun ops => ?_⟩,
    fun s input script preview json cause hpath => ?_, fun d h hrows => ?_⟩
  · -- the order
    rw [Workspace.load_value]
    exact Workspace.initialOrder_eq_eraseDups (mem_columns_of_keys hrows (mem_keys_of_readDelimited h))
  · -- the check after operations
    have hu := uniform_of_keys (mem_keys_of_readDelimited h)
    exact (Workspace.run_load_aligned p q _ _ ops).check (Workspace.run_load_uniform p q _ ops hu)
  · -- the command
    refine CommandLine.runApply_ne_inconsistent (fun encoding d hd => ?_) script preview json cause
    obtain ⟨bytes, -, h⟩ := readDelimited_of_load hpath hd
    exact uniform_of_keys (mem_keys_of_readDelimited h)
  · -- the array
    obtain ⟨text, items, namesOf, htext, hsource, hnames, hheaders, hkeys⟩ := rows_of_readJson h
    cases namesOf with
    | nil => exact absurd (List.forall₂_nil_left_iff.mp hkeys) hrows
    | cons first rest =>
      exact ⟨text, items, first, rest, htext, hsource, hnames, order_of_names hheaders hkeys,
        check_of_names hkeys⟩

/-- A repeated header, whose last field counts, in the bytes of a foreign encoding; a script that a
library reads; and an array of two objects with different names, the first of which repeats a name. -/
theorem repeated_names_loaded :
    let windows1250 (bytes : List UInt8) : Option String :=
      some (String.ofList (bytes.map fun b => if b = 0xF8 then 'ř' else Char.ofNat b.toNat))
    let o : SourceOptions := ⟨none, .foreign "windows-1250" windows1250, none⟩
    let lines : List UInt8 :=
      [0xF8, 0x2C, 0x61, 0x2C, 0x61, 0x0A, 0x78, 0x2C, 0x79, 0x2C, 0x7A, 0x0A]
    let d : Dataset :=
      ⟨["ř", "a", "a"], Table.ofRecords ["ř", "a", "a"] [[.text "x", .text "y", .text "z"]]⟩
    let script := utf8Bytes "- kind: drop\n  payload: \x7bcolumn: a\x7d\n"
    let libraries : CommandLine.Libraries :=
      ⟨fun _ => windows1250, fun _ => some [⟨"drop", .object [("column", .text "a")]⟩]⟩
    let s : CommandLine.Surroundings := ⟨libraries, fun _ => some script, lines, fun _ => default⟩
    let input : CommandLine.InputOptions := ⟨"-", none, some "windows-1250", none⟩
    let array := utf8Bytes "[\x7b\"b\":true,\"a\":null,\"b\":\"\"\x7d,\x7b\"a\":\"\"\x7d]"
    let d' : Dataset := ⟨["b", "a"],
      ⟨[rowOfMembers [("b", .text ""), ("a", .null)], rowOfMembers [("a", .text "")]]⟩⟩
    let w := (Workspace.load .standard d.table (some d.headers)).value
    let w' := (Workspace.load .standard d'.table (some d'.headers)).value
    (readDelimited 0x2C o lines = .ok d ∧ d.table.rows ≠ [] ∧ w.order = ["ř", "a"] ∧
      ∀ ops, (Workspace.run .standard w ops).value.check = .ok ()) ∧
    (isJsonPath input.input = false ∧ ∀ cause,
      (CommandLine.runApply s input "ops.yml" 10 true).result ≠ .error (.inconsistent cause)) ∧
    readJson {} array = .ok d' ∧ d'.table.rows ≠ [] ∧ w'.order = ["b", "a"] ∧ w'.check ≠ .ok () := by
  intro windows1250 o lines d script libraries s input array d' w w'
  have hd : readDelimited 0x2C o lines = .ok d := by
    have hrecords : Delimited.records 0x2C lines =
        [[[0xF8], [0x61], [0x61]], [[0x78], [0x79], [0x7A]]] := by decide
    refine (readDelimited_eq_ok_iff hrecords).mpr
      ⟨.cons rfl (.cons rfl (.cons rfl .nil)), [["x", "y", "z"]], ?_, rfl⟩
    exact .cons ⟨rfl, .cons rfl (.cons rfl (.cons rfl .nil))⟩ .nil
  have hwritten : Source.read "[\x7b\"b\":true,\"a\":null,\"b\":\"\"\x7d,\x7b\"a\":\"\"\x7d]".toList =
      some (.array [.object [([.char 'b'], .bool true), ([.char 'a'], .null),
        ([.char 'b'], .string [])], .object [([.char 'a'], .string [])]]) := by rfl
  have hd' : readJson {} array = .ok d' := by
    have hitems : Json.ofText? "[\x7b\"b\":true,\"a\":null,\"b\":\"\"\x7d,\x7b\"a\":\"\"\x7d]".toList =
        some (.array [.object [("b", .text ""), ("a", .null)], .object [("a", .text "")]]) := by
      rw [Json.ofText?, hwritten]
      rfl
    exact readJson_eq_ok_iff.mpr ⟨_, _, [[("b", .text ""), ("a", .null)], [("a", .text "")]],
      decode?_utf8Bytes (by decide), hitems, rfl, rfl⟩
  have hpath : isJsonPath "-" = false := by decide
  have hrows : d.table.rows ≠ [] := List.cons_ne_nil _ _
  have hrows' : d'.table.rows ≠ [] := List.cons_ne_nil _ _
  have hlines := loaded_workspaces_well_formed .standard .standard o lines
  obtain ⟨text, items, first, rest, htext, hread, hnames, horder, hcheck⟩ :=
    (loaded_workspaces_well_formed .standard .standard {} array).2.2 d' hd' hrows'
  obtain rfl := Option.some.inj (htext.symm.trans (decode?_utf8Bytes (by decide)))
  obtain rfl := Source.array.inj (Option.some.inj (hread.symm.trans hwritten))
  obtain ⟨hfirst, hrest⟩ := List.forall₂_cons.mp hnames
  have hfirst : first = ["b", "a", "b"] := (Option.some.inj hfirst).symm
  have hrest : rest = [["a"]] := by
    obtain ⟨names, others, hsecond, hnil, rfl⟩ := List.forall₂_cons_left_iff.mp hrest
    rw [← Option.some.inj hsecond, List.forall₂_nil_left_iff.mp hnil]
    rfl
  have hnew : ["b", "a", "b"].eraseDups = ["b", "a"] := by decide
  have hlast : ["ř", "a", "a"].eraseDups = ["ř", "a"] := by decide
  have ⟨hrecords, horder', hruns⟩ := hlines.1 0x2C d hd hrows
  refine ⟨⟨hd, hrows, horder'.trans hlast, hruns⟩,
    ⟨hpath, fun cause => hlines.2.1 s input "ops.yml" 10 true cause hpath⟩, hd', hrows',
    horder.trans (hfirst ▸ hnew), fun h => ?_⟩
  have hb := hcheck.mp h ["a"] (hrest ▸ List.mem_singleton_self _) "b"
  rw [hfirst] at hb
  exact absurd hb (by decide)

end Dataset

end Tabular
