import Tabular.Proofs.Json.Names
import Tabular.Proofs.Json.Scanning

/-!
# Written documents are read back

**A document that is written can be read, and what is read stands for it**, provided that it is
`Json.Plain`: without doubles, whose digits are another matter; with whole numbers that fit in 64 bits;
with distinct names in every object; and nested to no more levels than the reader allows.

The two written forms differ only in the gaps between their parts, which is what `Json.Layout` says, so
there is one proof for both (`Json.Layout.read_write`). It goes by way of the tree of what is written,
`Json.source`. Reading the text gives this tree whatever follows the text, by induction on the document;
and the tree stands for the document (`Json.json?_source`).
-/

namespace Tabular

namespace Json

variable {level levels : Nat} {j : Json}

/-! ### What is written in a text -/

mutual

/-- The tree of what is written for a document. Doubles are left out. -/
def source : Json → Source
  | null | float _ => .null
  | bool b => .bool b
  | int n => .number (Numeral.ofInt n)
  | text s => .string (Source.pieces s)
  | array items => .array (itemSources items)
  | object members => .object (memberSources members)

/-- The trees of items. -/
def itemSources : List Json → List Source
  | [] => []
  | x :: xs => source x :: itemSources xs

/-- The trees of members. -/
def memberSources : List (String × Json) → List (List Piece × Source)
  | [] => []
  | (k, x) :: ms => (Source.pieces k, source x) :: memberSources ms

end

theorem itemSources_eq : ∀ items : List Json, itemSources items = items.map source
  | [] => rfl
  | x :: xs => by rw [itemSources, List.map_cons, itemSources_eq xs]

theorem memberSources_eq : ∀ members : List (String × Json),
    memberSources members = members.map fun m => (Source.pieces m.1, m.2.source)
  | [] => rfl
  | (k, x) :: ms => by rw [memberSources, List.map_cons, memberSources_eq ms]

/-- A document without doubles that is nested to at most so many levels, whose whole numbers have 64
bits with or without a sign, and in which no object repeats a name. -/
inductive Plain : (levels : Nat) → Json → Prop where
  | null {levels : Nat} : Plain levels null
  | bool {levels : Nat} {b : Bool} : Plain levels (bool b)
  | int {levels : Nat} {n : Int} (hlow : -2 ^ 63 ≤ n) (hhigh : n < 2 ^ 64) : Plain levels (int n)
  | text {levels : Nat} {s : String} : Plain levels (text s)
  | array {levels : Nat} {items : List Json} (h : ∀ x ∈ items, Plain levels x) :
    Plain (levels + 1) (array items)
  | object {levels : Nat} {members : List (String × Json)} (hn : (members.map (·.1)).Nodup)
    (h : ∀ m ∈ members, Plain levels m.2) : Plain (levels + 1) (object members)

/-- The members of an object stand for themselves if their values do. -/
theorem jsonMembers?_sources : ∀ {members : List (String × Json)},
    (∀ m ∈ members, m.2.source.json? levels = some m.2) →
      Source.jsonMembers? levels (members.map fun m => (Source.pieces m.1, m.2.source)) =
        some members
  | [], _ => rfl
  | m :: ms, h => by
    have ⟨hm, hms⟩ := List.forall_mem_cons.mp h
    simp [Source.jsonMembers?, hm, jsonMembers?_sources hms]

/-- **The tree of a document stands for the document.** -/
theorem json?_source (h : Plain levels j) : j.source.json? levels = some j := by
  induction h with
  | null | bool => rfl
  | int hlow hhigh =>
    rw [source, Source.json?, Numeral.json?, Source.layer?_ofInt hlow hhigh]
  | text => rw [source, Source.json?, Source.text?_pieces, Option.map_some]
  | @array levels items _ ih =>
    have hitems : Source.jsonItems? levels (items.map source) = some items := by
      rw [Source.jsonItems?_eq_some_iff, List.forall₂_map_left_iff, List.forall₂_same]
      exact ih
    rw [source, itemSources_eq, Source.json?, if_neg (Nat.succ_ne_zero levels),
      Nat.add_sub_cancel, hitems, Option.map_some]
  | @object levels members hn _ ih =>
    rw [source, memberSources_eq, Source.json?, if_neg (Nat.succ_ne_zero levels),
      Nat.add_sub_cancel, jsonMembers?_sources ih, Option.map_some, ofMembers_of_nodup hn]

/-! ### Layouts -/

/-- Parts between brackets, with a gap after the opening bracket and each comma, and another before the
closing bracket. -/
def enclosed (opening closing : Char) (inner outer : List Char) (parts : List (List Char)) :
    List Char :=
  opening :: (inner ++ (separated (',' :: inner) parts ++ (outer ++ [closing])))

/-- A way to write documents: with a gap, which depends on the level, after each opening bracket, after
each comma and before each closing bracket, and another after each colon. Empty arrays and objects have
no gap in them. -/
structure Layout (write : (level : Nat) → Json → List Char) (gap : Nat → List Char)
    (colon : List Char) : Prop where
  gap_blank : ∀ level, ∀ c ∈ gap level, Source.isGap c
  colon_blank : ∀ c ∈ colon, Source.isGap c
  null : ∀ level, write level null = ['n', 'u', 'l', 'l']
  bool : ∀ level b, write level (bool b) =
    if b then ['t', 'r', 'u', 'e'] else ['f', 'a', 'l', 's', 'e']
  int : ∀ level n, write level (int n) = Decimal.intChars n
  text : ∀ level s, write level (text s) = stringText s
  empty_array : ∀ level, write level (array []) = ['[', ']']
  array : ∀ level items, items ≠ [] → write level (array items) =
    enclosed '[' ']' (gap (level + 1)) (gap level) (items.map (write (level + 1)))
  empty_object : ∀ level, write level (object []) = ['\x7b', '\x7d']
  object : ∀ level members, members ≠ [] → write level (object members) =
    enclosed '\x7b' '\x7d' (gap (level + 1)) (gap level)
      (members.map (Source.memberText colon (write (level + 1))))

theorem compactItems_eq : ∀ items : List Json, compactItems items = items.map compact
  | [] => rfl
  | x :: xs => by rw [compactItems, List.map_cons, compactItems_eq xs]

theorem compactMembers_eq : ∀ members : List (String × Json),
    compactMembers members = members.map (Source.memberText [] compact)
  | [] => rfl
  | (k, x) :: ms => by
    rw [compactMembers, List.map_cons, compactMembers_eq ms]
    rfl

/-- The compact form has no gaps. -/
theorem compact_layout : Layout (fun _ => compact) (fun _ => []) [] where
  gap_blank := nofun
  colon_blank := nofun
  null _ := rfl
  bool _ b := by cases b <;> rfl
  int _ _ := rfl
  text _ _ := rfl
  empty_array _ := rfl
  array _ items _ := by rw [compact, compactItems_eq]; rfl
  empty_object _ := rfl
  object _ members _ := by rw [compact, compactMembers_eq]; rfl

theorem indentedItems_eq (level : Nat) : ∀ items : List Json,
    indentedItems level items = items.map (indented level)
  | [] => rfl
  | x :: xs => by rw [indentedItems, List.map_cons, indentedItems_eq level xs]

theorem indentedMembers_eq (level : Nat) : ∀ members : List (String × Json),
    indentedMembers level members = members.map (Source.memberText [' '] (indented level))
  | [] => rfl
  | (k, x) :: ms => by
    rw [indentedMembers, List.map_cons, indentedMembers_eq level ms]
    rfl

/-- The indented form has new lines for gaps. -/
theorem indented_layout : Layout indented newLine [' '] where
  gap_blank level c hc := by
    rcases List.mem_cons.mp hc with rfl | hc
    · rfl
    · rw [List.eq_of_mem_replicate hc]
      rfl
  colon_blank := by simp [Source.isGap]
  null _ := rfl
  bool _ b := by cases b <;> rfl
  int _ _ := rfl
  text _ _ := rfl
  empty_array _ := rfl
  array level items hne := by
    obtain ⟨x, xs, rfl⟩ := List.exists_cons_of_ne_nil hne
    rw [indented, indentedItems_eq]
    simp [enclosed]
  empty_object _ := rfl
  object level members hne := by
    obtain ⟨m, ms, rfl⟩ := List.exists_cons_of_ne_nil hne
    rw [indented, indentedMembers_eq]
    simp [enclosed, Source.memberText]

/-! ### Reading -/

section Enclosed

variable {opening closing : Char} {inner outer part : List Char} {parts : List (List Char)}

theorem enclosed_append (rest : List Char) : enclosed opening closing inner outer parts ++ rest =
    opening :: (inner ++ (separated (',' :: inner) parts ++ (outer ++ closing :: rest))) := by
  simp [enclosed]

/-- Each part is shorter than the whole by the brackets at least. -/
theorem length_lt_enclosed (h : part ∈ parts) :
    part.length + 2 ≤ (enclosed opening closing inner outer parts).length := by
  have hle : part.length ≤ (separated (',' :: inner) parts).length := Source.length_le_separated h
  simp only [enclosed, List.length_cons, List.length_append]
  omega

end Enclosed

end Json

namespace Source

variable {c : Char} {s rest gap : List Char}

theorem readValue_append (hgap : ∀ c ∈ gap, isGap c) (depth : Nat) (s : List Char) :
    readValue depth (gap ++ s) = readValue depth s := by
  cases depth with
  | zero => rfl
  | succ depth => rw [readValue, readValue, skipGap_append hgap]

/-- An array is read item by item, unless it is closed at once. -/
theorem readValue_array {depth : Nat} {body : List Char} (hgap : ∀ c ∈ gap, isGap c)
    (hbody : Opens ']' body) : readValue (depth + 1) ('[' :: (gap ++ body)) =
      (readItems (readValue depth) body.length body).map fun (xs, s) => (array xs, s) := by
  obtain ⟨c, s, rfl, hc, hclose⟩ := hbody
  rw [readValue, skipGap_cons (by decide)]
  simp only [skipGap_append hgap, skipGap_cons hc]
  split
  next h => exact absurd (List.cons.inj h).1 hclose
  next => rfl

/-- An object is read member by member, unless it is closed at once. -/
theorem readValue_object {depth : Nat} {body : List Char} (hgap : ∀ c ∈ gap, isGap c)
    (hbody : Opens '\x7d' body) : readValue (depth + 1) ('\x7b' :: (gap ++ body)) =
      (readMembers (readValue depth) body.length body).map fun (ms, s) => (object ms, s) := by
  obtain ⟨c, s, rfl, hc, hclose⟩ := hbody
  rw [readValue, skipGap_cons (by decide)]
  simp only [skipGap_append hgap, skipGap_cons hc]
  split
  next h => exact absurd (List.cons.inj h).1 hclose
  next => rfl

/-- A written whole number is read as a value. -/
theorem readValue_intChars (n : Int) (depth : Nat) (h : Ends rest) :
    readValue (depth + 1) (Decimal.intChars n ++ rest) = some (number (Numeral.ofInt n), rest) := by
  have hread := readNumeral_intChars n h
  obtain ⟨c, s, hn, hgap, hc⟩ := intChars_eq_cons n
  rw [hn, List.cons_append] at hread
  rw [hn, List.cons_append, readValue, skipGap_cons hgap]
  -- none of the forms of other values begins like a number
  split
  iterate 6
    next h => exact absurd ((List.cons.inj h).1 ▸ hc) (by decide)
  next => rw [hread, Option.map_some]

end Source

namespace Json

namespace Layout

variable {write : Nat → Json → List Char} {gap : Nat → List Char} {colon rest : List Char}

/-- No value begins like the end of an array. -/
theorem opens (hw : Layout write gap colon) (hj : Plain levels j) (level : Nat) :
    Source.Opens ']' (write level j) := by
  cases hj with
  | null => exact ⟨'n', _, hw.null level, by decide, by decide⟩
  | @bool _ b =>
    cases b
    · exact ⟨'f', _, hw.bool level false, by decide, by decide⟩
    · exact ⟨'t', _, hw.bool level true, by decide, by decide⟩
  | @int _ n =>
    obtain ⟨c, s, hn, hgap, hc⟩ := Source.intChars_eq_cons n
    refine ⟨c, s, (hw.int level n).trans hn, hgap, ?_⟩
    rintro rfl
    exact hc (by decide)
  | @text _ s => exact ⟨'"', _, hw.text level s, by decide, by decide⟩
  | @array _ items =>
    by_cases hne : items = []
    · exact ⟨'[', _, hne ▸ hw.empty_array level, by decide, by decide⟩
    · exact ⟨'[', _, hw.array level items hne, by decide, by decide⟩
  | @object _ members =>
    by_cases hne : members = []
    · exact ⟨'\x7b', _, hne ▸ hw.empty_object level, by decide, by decide⟩
    · exact ⟨'\x7b', _, hw.object level members hne, by decide, by decide⟩

/-- A closing bracket is found behind the gap before it. -/
theorem skipGap_close (hw : Layout write gap colon) {c : Char} (hc : c ∈ [']', '\x7d'])
    (level : Nat) (rest : List Char) : Source.skipGap (gap level ++ c :: rest) = c :: rest := by
  have hbrackets : ∀ c ∈ [']', '\x7d'], Source.isGap c = false := by simp [Source.isGap]
  rw [Source.skipGap_append (hw.gap_blank level), Source.skipGap_cons (hbrackets c hc)]

/-- A value may end before a closing bracket and the gap before it. -/
theorem ends_close (hw : Layout write gap colon) {c : Char} (hc : c ∈ [']', '\x7d'])
    (level : Nat) (rest : List Char) : Source.Ends (gap level ++ c :: rest) :=
  Source.ends_append (hw.gap_blank level)
    (Source.ends_cons (List.mem_append_right [' ', '\n', '\t', '\r', ','] hc) rest)

/-- An array is read back if each of its items is. -/
theorem readValue_items (hw : Layout write gap colon) {items : List Json}
    (hitems : ∀ x ∈ items, Plain levels x) (hne : items ≠ []) {level depth : Nat}
    (hlen : (write level (.array items)).length ≤ depth)
    (ih : ∀ x ∈ items, ∀ level depth rest, (write level x).length ≤ depth → Source.Ends rest →
      Source.readValue (depth + 1) (write level x ++ rest) = some (x.source, rest)) :
    Source.readValue (depth + 1) (write level (.array items) ++ rest) =
      some (.array (items.map source), rest) := by
  rw [hw.array level items hne] at hlen ⊢
  have hparts : ∀ part ∈ items.map (write (level + 1)), Source.Opens ']' part :=
    List.forall_mem_map.mpr fun x hx => hw.opens (hitems x hx) (level + 1)
  have hshort : ∀ x ∈ items, (write (level + 1) x).length + 2 ≤ depth := fun x hx =>
    Nat.le_trans (length_lt_enclosed (List.mem_map_of_mem hx)) hlen
  -- there is an item, so one step is left for what is between the brackets
  obtain ⟨depth, rfl⟩ : ∃ d, depth = d + 1 := by
    obtain ⟨x, hx⟩ := List.exists_mem_of_ne_nil items hne
    exact ⟨depth - 1, by have := hshort x hx; omega⟩
  have hread : ∀ x ∈ items, ∀ s, Source.Ends s →
      Source.readValue (depth + 1) (write (level + 1) x ++ s) = some (x.source, s) :=
    fun x hx s hs => ih x hx (level + 1) depth s (by have := hshort x hx; omega) hs
  have hgap := Source.readValue_append (hw.gap_blank (level + 1)) (depth + 1)
  have hopens : Source.Opens ']' (separated (',' :: gap (level + 1))
      (items.map (write (level + 1)))) :=
    Source.opens_separated (mt List.map_eq_nil_iff.mp hne) hparts
  rw [enclosed_append, Source.readValue_array (hw.gap_blank (level + 1)) (hopens.append _),
    Source.readItems_separated hgap (hw.skipGap_close (by decide) level rest)
      (hw.ends_close (by decide) level rest) hne (Source.length_le_length_separated hparts _) hread,
    Option.map_some]

/-- An object is read back if each of its values is. -/
theorem readValue_members (hw : Layout write gap colon) {members : List (String × Json)}
    (hne : members ≠ []) {level depth : Nat}
    (hlen : (write level (.object members)).length ≤ depth)
    (ih : ∀ m ∈ members, ∀ level depth rest, (write level m.2).length ≤ depth → Source.Ends rest →
      Source.readValue (depth + 1) (write level m.2 ++ rest) = some (m.2.source, rest)) :
    Source.readValue (depth + 1) (write level (.object members) ++ rest) =
      some (.object (members.map fun m => (Source.pieces m.1, m.2.source)), rest) := by
  rw [hw.object level members hne] at hlen ⊢
  have hparts : ∀ part ∈ members.map (Source.memberText colon (write (level + 1))),
      Source.Opens '\x7d' part :=
    List.forall_mem_map.mpr fun m _ => Source.opens_memberText colon _ m
  have hshort : ∀ m ∈ members, (write (level + 1) m.2).length + 2 ≤ depth := fun m hm =>
    Nat.le_trans (Nat.add_le_add_right (Source.length_le_memberText m) 2)
      (Nat.le_trans (length_lt_enclosed (List.mem_map_of_mem hm)) hlen)
  obtain ⟨depth, rfl⟩ : ∃ d, depth = d + 1 := by
    obtain ⟨m, hm⟩ := List.exists_mem_of_ne_nil members hne
    exact ⟨depth - 1, by have := hshort m hm; omega⟩
  have hread : ∀ m ∈ members, ∀ s, Source.Ends s →
      Source.readValue (depth + 1) (write (level + 1) m.2 ++ s) = some (m.2.source, s) :=
    fun m hm s hs => ih m hm (level + 1) depth s (by have := hshort m hm; omega) hs
  have hcolon := Source.readValue_append hw.colon_blank (depth + 1)
  have hopens : Source.Opens '\x7d' (separated (',' :: gap (level + 1))
      (members.map (Source.memberText colon (write (level + 1))))) :=
    Source.opens_separated (mt List.map_eq_nil_iff.mp hne) hparts
  rw [enclosed_append, Source.readValue_object (hw.gap_blank (level + 1)) (hopens.append _),
    Source.readMembers_separated (hw.gap_blank (level + 1)) hcolon
      (hw.skipGap_close (by decide) level rest) (hw.ends_close (by decide) level rest) hne
      (Source.length_le_length_separated hparts _) hread,
    Option.map_some]

/-- **What is written for a plain document is read back** as its tree, and nothing after it is
touched. -/
theorem readValue_write (hw : Layout write gap colon) (hj : Plain levels j) :
    ∀ {level depth : Nat} {rest : List Char}, (write level j).length ≤ depth → Source.Ends rest →
      Source.readValue (depth + 1) (write level j ++ rest) = some (j.source, rest) := by
  induction hj with
  | null =>
    intro level depth rest _ _
    rw [hw.null]
    rfl
  | @bool _ b =>
    intro level depth rest _ _
    rw [hw.bool]
    cases b <;> rfl
  | @int _ n =>
    intro level depth rest _ hrest
    rw [hw.int]
    exact Source.readValue_intChars n depth hrest
  | @text _ s =>
    intro level depth rest _ _
    rw [hw.text, Source.stringText_append, Source.readValue, Source.skipGap_cons (by decide)]
    simp only [Source.readPieces_flatMap_charText]
    rfl
  | @array levels items hitems ih =>
    intro level depth rest hlen hrest
    by_cases hne : items = []
    · rw [hne, hw.empty_array]
      rfl
    · rw [source, itemSources_eq]
      exact hw.readValue_items hitems hne hlen fun x hx level depth rest => ih x hx
  | @object levels members hn hmembers ih =>
    intro level depth rest hlen hrest
    by_cases hne : members = []
    · rw [hne, hw.empty_object]
      rfl
    · rw [source, memberSources_eq]
      exact hw.readValue_members hne hlen fun m hm level depth rest => ih m hm

/-- A whole text is read back as the tree of the document. -/
theorem read_write (hw : Layout write gap colon) (hj : Plain levels j) (level : Nat) :
    Source.read (write level j) = some j.source := by
  have hread := hw.readValue_write hj (Nat.le_refl (write level j).length) Source.ends_nil
  rw [List.append_nil] at hread
  rw [Source.read, hread]
  rfl

/-- **A written document is read back**, if it is not nested too deeply to be read at all. -/
theorem ofText?_write (hw : Layout write gap colon) (hj : Plain Source.maxNesting j) (level : Nat) :
    ofText? (write level j) = some j := by
  rw [ofText?, hw.read_write hj level, Option.bind_some, json?_source hj]

end Layout

end Json

end Tabular
