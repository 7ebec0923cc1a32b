import Mathlib.Data.List.Forall2
import Mathlib.Data.List.Nodup
import Tabular.Proofs.Script

/-!
# The grammar of operations

A payload fits a kind if it gives each declared field a value of its type: an array lists just these
values, in order, and an object has each field once, among any other members (`OperationKind.Fits`).
The decoder asks for the fields first and for their types afterwards, and both questions are
answered here by what the payload looks like. So **an operation is accepted exactly if its kind is
named and the payload fits it**, and it is then the one with these values
(`Operation.wire_grammar`).

The strict decoder has its own way to find kind and payload among the members of an object, and no
payload of its own for an object without one. **It agrees with the listed form wherever the kind is
spelled exactly** (`Operation.strict_iff_listed`): null, which stands for a missing payload in a
list, fits no kind.
-/

namespace Tabular

open Layered

/-! ### Fields of a payload -/

/-- What a field of a payload holds. -/
inductive FieldType where
  | text
  | index
deriving Repr, DecidableEq

/-- The document is a value of the type: a text, or an integer of 64 bits with sign. -/
def FieldType.Accepts : FieldType → Json → Prop
  | text, .text _ => True
  | index, .int n => -2 ^ 63 ≤ n ∧ n < 2 ^ 63
  | _, _ => False

theorem FieldType.accepts_text_iff {x : Json} : text.Accepts x ↔ ∃ s, x = .text s := by
  cases x <;> simp [Accepts]

theorem FieldType.accepts_index_iff {x : Json} :
    index.Accepts x ↔ ∃ i : Int64, x = .int i.toInt := by
  constructor
  · intro h
    cases x with
    | int n => exact ⟨Int64.ofInt n, congrArg Json.int (Int64.toInt_ofInt_of_le h.1 h.2).symm⟩
    | _ => exact absurd h id
  · rintro ⟨i, rfl⟩
    exact ⟨i.le_toInt, i.toInt_lt⟩

namespace Json

/-- The members have exactly one of the name, with the value `x`. -/
def HoldsOnly (ms : List (String × Json)) (name : String) (x : Json) : Prop :=
  ms.filter (·.1 == name) = [(name, x)]

theorem member?_eq_some_iff {ms : List (String × Json)} {name : String} {x : Json} :
    member? name ms = some (some x) ↔ HoldsOnly ms name x := by
  rw [member?, HoldsOnly]
  constructor
  · intro h
    split at h
    next => cases h
    next m hm =>
      have hmem : m ∈ ms.filter (·.1 == name) := hm ▸ List.mem_cons_self
      obtain rfl : m.1 = name := by simpa using (List.mem_filter.mp hmem).2
      rw [hm, ← Option.some.inj (Option.some.inj h)]
    next => cases h
  · intro h
    rw [h]

private theorem filter_name_eq_nil {ms : List (String × Json)} {name : String}
    (h : name ∉ ms.map (·.1)) : ms.filter (·.1 == name) = [] :=
  List.filter_eq_nil_iff.mpr fun m hm hname =>
    h (List.mem_map.mpr ⟨m, hm, beq_iff_eq.mp hname⟩)

theorem member?_of_notMem {ms : List (String × Json)} {name : String}
    (h : name ∉ ms.map (·.1)) : member? name ms = some none := by
  rw [member?, filter_name_eq_nil h]

/-- Where no name is repeated, each member is the only one of its name. -/
theorem HoldsOnly.of_mem {ms : List (String × Json)} {name : String} {x : Json}
    (hn : (ms.map (·.1)).Nodup) (h : (name, x) ∈ ms) : HoldsOnly ms name x := by
  obtain ⟨before, after, rfl⟩ := List.append_of_mem h
  rw [List.map_append, List.map_cons, List.nodup_middle, List.nodup_cons, List.mem_append,
    not_or] at hn
  have hself : ((name, x) :: after).filter (·.1 == name) =
      (name, x) :: after.filter (·.1 == name) :=
    List.filter_cons_of_pos (beq_self_eq_true name)
  rw [HoldsOnly, List.filter_append, filter_name_eq_nil hn.1.1, List.nil_append, hself,
    filter_name_eq_nil hn.1.2]

theorem layer_eq (x : Json) : Layered.layer x = some x.layer := rfl

theorem text?_eq_some_iff {x : Json} {s : String} : text? x = some s ↔ x = .text s := by
  cases x <;> simp [text?, layer_eq, layer]

theorem int64?_eq_some_iff {x : Json} {i : Int64} : int64? x = some i ↔ x = .int i.toInt := by
  constructor
  · intro h
    cases x with
    | int n =>
      obtain ⟨hrange, hi⟩ := Option.ite_none_right_eq_some.mp h
      rw [← Option.some.inj hi, Int64.toInt_ofInt_of_le hrange.1 hrange.2]
    | _ => cases h
  · rintro rfl
    show Number.toInt64? i.toInt = some i
    rw [Number.toInt64?, if_pos ⟨i.le_toInt, i.toInt_lt⟩, Int64.ofInt_toInt]

theorem fieldsOfMembers?_eq_some_iff {ms : List (String × Json)} :
    ∀ {names : List String} {values : List Json},
      fieldsOfMembers? names ms = some (values.map some) ↔
        List.Forall₂ (HoldsOnly ms) names values
  | [], values => by cases values <;> simp [fieldsOfMembers?]
  | name :: names, values => by
    rw [fieldsOfMembers?, List.mapM_cons]
    cases values with
    | nil => simp [Option.bind_eq_some_iff]
    | cons x values =>
      have ih : names.mapM (member? · ms) = some (values.map some) ↔
        List.Forall₂ (HoldsOnly ms) names values := fieldsOfMembers?_eq_some_iff
      simp [Option.bind_eq_some_iff, member?_eq_some_iff, ih]

/-- The values of all fields are found in an array of just them, or in an object that has them. -/
theorem fields?_eq_some_iff {names : List String} {values : List Json} {payload : Json} :
    fields? names payload = some (values.map some) ↔
      values.length = names.length ∧ (payload = .array values ∨
        ∃ ms, payload = .object ms ∧ List.Forall₂ (HoldsOnly ms) names values) := by
  cases payload with
  | array xs =>
    -- a field that is not listed has no value
    have hlisted : ∀ missing, xs.map some ++ List.replicate missing none = values.map some ↔
        xs = values ∧ missing = 0 := by
      intro missing
      cases missing with
      | zero => simp [List.map_inj_right fun _ _ => Option.some.inj]
      | succ missing =>
        refine iff_of_false (fun h => ?_) fun h => Nat.succ_ne_zero missing h.2
        have hnone : none ∈ values.map some := h ▸ by simp
        simp at hnone
    simp only [fields?, layer_eq, layer, fieldsOfItems?, Option.ite_none_right_eq_some,
      Option.some_inj, hlisted, Json.array.injEq, reduceCtorEq, false_and, exists_false, or_false]
    constructor
    · rintro ⟨hle, rfl, hmissing⟩
      exact ⟨by omega, rfl⟩
    · rintro ⟨hlength, rfl⟩
      exact ⟨by omega, rfl, by omega⟩
  | object ms =>
    have hlength : List.Forall₂ (HoldsOnly ms) names values → values.length = names.length :=
      fun h => h.length_eq.symm
    simpa [fields?, layer_eq, layer, fieldsOfMembers?_eq_some_iff] using hlength
  | _ => simp [fields?, layer_eq, layer]

end Json

namespace OperationKind

/-- The types of the fields of a kind, in their declared order. -/
def fieldTypes : OperationKind → List FieldType
  | substring => [.text, .index, .index, .text]
  | kind => kind.fields.map fun _ => .text

theorem length_fieldTypes (kind : OperationKind) :
    kind.fieldTypes.length = kind.fields.length := by
  cases kind <;> rfl

/-- The text is the name of the kind, apart from the blanks around it and the case of ASCII
letters. -/
def IsNamedBy (kind : OperationKind) (text : String) : Prop :=
  Text.toAsciiSmall (Text.trim text.toList) = kind.name.toList

instance (kind : OperationKind) (text : String) : Decidable (kind.IsNamedBy text) :=
  inferInstanceAs (Decidable (_ = _))

/-- The payload gives values of the right types to the fields of the kind: as an array of just them,
in their declared order, or as an object in which each field is one of the members. -/
def Fits (kind : OperationKind) (values : List Json) (payload : Json) : Prop :=
  List.Forall₂ FieldType.Accepts kind.fieldTypes values ∧
    (payload = .array values ∨
      ∃ ms, payload = .object ms ∧ List.Forall₂ (Json.HoldsOnly ms) kind.fields values)

theorem ofName?_eq_some_iff {kind : OperationKind} {name : String} :
    ofName? name = some kind ↔ kind.name = name := by
  constructor
  · intro h
    simpa using List.find?_some h
  · rintro rfl
    exact ofName?_name kind

theorem ofText?_eq_some_iff {kind : OperationKind} {text : String} :
    ofText? text = some kind ↔ kind.IsNamedBy text := by
  rw [ofText?, ofName?_eq_some_iff, IsNamedBy, eq_comm, ← String.toList_inj, String.toList_ofList]

theorem isNamedBy_name (kind : OperationKind) : kind.IsNamedBy kind.name :=
  ofText?_eq_some_iff.mp (ofText?_name kind)

theorem IsNamedBy.unique {kind kind' : OperationKind} {text : String} (h : kind.IsNamedBy text)
    (h' : kind'.IsNamedBy text) : kind = kind' :=
  Option.some.inj ((ofText?_eq_some_iff.mpr h).symm.trans (ofText?_eq_some_iff.mpr h'))

end OperationKind

namespace Operation

theorem ofFields?_eq_some_iff {kind : OperationKind} {fields : List (Option Json)}
    {op : Operation} : ofFields? kind fields = some op ↔
      ∃ values, fields = values.map some ∧
        List.Forall₂ FieldType.Accepts kind.fieldTypes values ∧ op.kind = kind ∧
          op.payload = .object (kind.fields.zip values) := by
  constructor
  · intro h
    unfold ofFields? at h
    split at h
    case h_9 => cases h
    all_goals
      simp only [Option.bind_eq_bind, Option.bind_eq_some_iff, Option.pure_def, Option.some_inj,
        Json.text?_eq_some_iff, Json.int64?_eq_some_iff] at h
    case h_1 | h_5 | h_6 | h_7 =>
      obtain ⟨column, rfl, rfl⟩ := h
      exact ⟨[_], rfl, by simp [OperationKind.fieldTypes, OperationKind.fields,
        FieldType.accepts_text_iff], rfl, rfl⟩
    case h_2 =>
      obtain ⟨column, rfl, newName, rfl, rfl⟩ := h
      exact ⟨[_, _], rfl, by simp [OperationKind.fieldTypes, OperationKind.fields,
        FieldType.accepts_text_iff], rfl, rfl⟩
    case h_3 | h_4 =>
      obtain ⟨column, rfl, middle, rfl, middle', rfl, last, rfl, rfl⟩ := h
      exact ⟨[_, _, _, _], rfl, by simp [OperationKind.fieldTypes, OperationKind.fields,
        FieldType.accepts_text_iff], rfl, rfl⟩
    case h_8 =>
      obtain ⟨column, rfl, first, rfl, past, rfl, target, rfl, rfl⟩ := h
      exact ⟨[_, _, _, _], rfl, by simp [OperationKind.fieldTypes,
        FieldType.accepts_text_iff, FieldType.accepts_index_iff, Int64.toInt_inj], rfl, rfl⟩
  · rintro ⟨values, rfl, htypes, rfl, hpayload⟩
    -- the fields of the payload are those that its decoder finds
    obtain ⟨members, hmembers, hfields⟩ := fields?_payload (n := 0) Json.view op
    have hdecoded := ofPayload?_see (n := 0) Json.view op
    rw [ofPayload?, hfields, Option.bind_some] at hdecoded
    obtain rfl := Json.object.inj (hmembers.symm.trans hpayload)
    have hlength : values.length = op.kind.fields.length :=
      htypes.length_eq.symm.trans (OperationKind.length_fieldTypes op.kind)
    have hvalues : (op.kind.fields.zip values).map (fun m => some m.2) = values.map some := by
      conv_rhs => rw [← List.map_snd_zip (Nat.le_of_eq hlength), List.map_map]
      rfl
    rwa [hvalues] at hdecoded

/-- Values of the right types make up an operation. -/
theorem exists_of_accepts {kind : OperationKind} {values : List Json}
    (h : List.Forall₂ FieldType.Accepts kind.fieldTypes values) :
    ∃ op : Operation, op.kind = kind ∧ op.payload = .object (kind.fields.zip values) := by
  suffices hsome : ∃ op, ofFields? kind (values.map some) = some op by
    obtain ⟨op, hop⟩ := hsome
    obtain ⟨values', hvalues, -, hkind, hpayload⟩ := ofFields?_eq_some_iff.mp hop
    obtain rfl := (List.map_inj_right fun _ _ => Option.some.inj).mp hvalues
    exact ⟨op, hkind, hpayload⟩
  cases kind <;>
    simp only [OperationKind.fieldTypes, OperationKind.fields, List.map_cons, List.map_nil,
      List.forall₂_cons_left_iff, List.forall₂_nil_left_iff, FieldType.accepts_text_iff,
      FieldType.accepts_index_iff] at h
  case drop | uppercase | lowercase | titlecase =>
    obtain ⟨_, _, ⟨column, rfl⟩, rfl, rfl⟩ := h
    exact ⟨_, rfl⟩
  case rename =>
    obtain ⟨_, _, ⟨column, rfl⟩, ⟨_, _, ⟨newName, rfl⟩, rfl, rfl⟩, rfl⟩ := h
    exact ⟨_, rfl⟩
  case split | merge =>
    obtain ⟨_, _, ⟨column, rfl⟩, ⟨_, _, ⟨middle, rfl⟩, ⟨_, _, ⟨middle', rfl⟩,
      ⟨_, _, ⟨last, rfl⟩, rfl, rfl⟩, rfl⟩, rfl⟩, rfl⟩ := h
    exact ⟨_, rfl⟩
  case substring =>
    obtain ⟨_, _, ⟨column, rfl⟩, ⟨_, _, ⟨first, rfl⟩, ⟨_, _, ⟨past, rfl⟩,
      ⟨_, _, ⟨target, rfl⟩, rfl, rfl⟩, rfl⟩, rfl⟩, rfl⟩ := h
    simp [ofFields?, Json.int64?_eq_some_iff.mpr rfl, Json.text?_eq_some_iff.mpr rfl]

variable {kind : OperationKind} {payload : Json} {op : Operation}

/-- A payload that fits a kind is decoded as the operation of its values. -/
theorem ofPayload?_eq_some_iff : ofPayload? kind payload = some op ↔ op.kind = kind ∧
    ∃ values, kind.Fits values payload ∧ op.payload = .object (kind.fields.zip values) := by
  rw [ofPayload?, Option.bind_eq_some_iff]
  constructor
  · rintro ⟨fields, hfields, hop⟩
    obtain ⟨values, rfl, htypes, hkind, hpayload⟩ := ofFields?_eq_some_iff.mp hop
    have hfound := (Json.fields?_eq_some_iff.mp hfields).2
    exact ⟨hkind, values, ⟨htypes, hfound⟩, hpayload⟩
  · rintro ⟨hkind, values, ⟨htypes, hfound⟩, hpayload⟩
    have hlength : values.length = kind.fields.length :=
      htypes.length_eq.symm.trans kind.length_fieldTypes
    exact ⟨_, Json.fields?_eq_some_iff.mpr ⟨hlength, hfound⟩,
      ofFields?_eq_some_iff.mpr ⟨values, rfl, htypes, hkind, hpayload⟩⟩

theorem ofPayload?_eq_none_iff :
    ofPayload? kind payload = none ↔ ∀ values, ¬ kind.Fits values payload := by
  rw [Option.eq_none_iff_forall_ne_some]
  constructor
  · intro h values hfits
    obtain ⟨op, hkind, hpayload⟩ := exists_of_accepts hfits.1
    exact h op (ofPayload?_eq_some_iff.mpr ⟨hkind, values, hfits, hpayload⟩)
  · intro h op hop
    obtain ⟨-, values, hfits, -⟩ := ofPayload?_eq_some_iff.mp hop
    exact h values hfits

theorem ofWire_eq_ok_iff {text : String} : ofWire text payload = .ok op ↔
    op.kind.IsNamedBy text ∧ ofPayload? op.kind payload = some op := by
  rw [ofWire]
  cases htext : OperationKind.ofText? text with
  | none =>
    refine iff_of_false (by simp) fun h => ?_
    have hnamed := OperationKind.ofText?_eq_some_iff.mpr h.1
    exact Option.some_ne_none _ (hnamed.symm.trans htext)
  | some kind =>
    have hkind : op.kind.IsNamedBy text ↔ kind = op.kind := by
      rw [← OperationKind.ofText?_eq_some_iff, htext, Option.some_inj]
    dsimp only
    rw [hkind]
    cases hop : ofPayload? kind payload with
    | none =>
      refine iff_of_false (by simp) ?_
      rintro ⟨rfl, hsome⟩
      exact Option.some_ne_none _ (hsome.symm.trans hop)
    | some op' =>
      have hkind' := (ofPayload?_eq_some_iff.mp hop).1
      constructor
      · intro h
        obtain rfl := Except.ok.inj h
        exact ⟨hkind'.symm, hkind' ▸ hop⟩
      · rintro ⟨rfl, hsome⟩
        rw [Option.some.inj (hop.symm.trans hsome)]

/-- **What is accepted as an operation.** For any text and any payload: an operation is given
exactly if the text names a kind, apart from the blanks around it and the case of ASCII letters, and
the payload fits the kind, as an array of just its fields or as an object that has them all, each
with a value of the right type. A text that names no kind is refused as it is, whatever the payload,
and a payload that does not fit is refused under the name of its kind. The operation given has the
declared fields with these values for a payload, and its own kind and payload give it again. -/
theorem wire_grammar (text : String) (payload : Json) :
    ((∃ op, ofWire text payload = .ok op) ↔
      ∃ kind : OperationKind, kind.IsNamedBy text ∧ ∃ values, kind.Fits values payload) ∧
    ((∀ kind : OperationKind, ¬ kind.IsNamedBy text) →
      ofWire text payload = .error (.unknownOperation text)) ∧
    (∀ kind : OperationKind, kind.IsNamedBy text → (∀ values, ¬ kind.Fits values payload) →
      ofWire text payload = .error (.invalidPayload kind)) ∧
    ∀ op, ofWire text payload = .ok op → op.kind.IsNamedBy text ∧
      (∃ values, op.kind.Fits values payload ∧
        op.payload = .object (op.kind.fields.zip values)) ∧
      ofWire op.kind.name op.payload = .ok op := by
  refine ⟨?_, fun hunknown => ?_, fun kind hkind hunfit => ?_, fun op hop => ?_⟩
  · constructor
    · rintro ⟨op, hop⟩
      obtain ⟨hname, hpayload⟩ := ofWire_eq_ok_iff.mp hop
      obtain ⟨-, values, hfits, -⟩ := ofPayload?_eq_some_iff.mp hpayload
      exact ⟨op.kind, hname, values, hfits⟩
    · rintro ⟨kind, hname, values, hfits⟩
      obtain ⟨op, rfl, hpayload⟩ := exists_of_accepts hfits.1
      have hop := ofPayload?_eq_some_iff.mpr ⟨rfl, values, hfits, hpayload⟩
      exact ⟨op, ofWire_eq_ok_iff.mpr ⟨hname, hop⟩⟩
  · have htext : OperationKind.ofText? text = none :=
      Option.eq_none_iff_forall_ne_some.mpr fun kind hkind =>
        hunknown kind (OperationKind.ofText?_eq_some_iff.mp hkind)
    rw [ofWire, htext]
  · rw [ofWire, OperationKind.ofText?_eq_some_iff.mpr hkind]
    simp only [ofPayload?_eq_none_iff.mpr hunfit]
  · obtain ⟨hname, hpayload⟩ := ofWire_eq_ok_iff.mp hop
    exact ⟨hname, (ofPayload?_eq_some_iff.mp hpayload).2, WireOperation.operation_ofOperation op⟩

/-- The name of a kind with capitals and blanks, and two indices of which one has 65 bits with its
sign. -/
theorem padded_kind_and_wide_index :
    let payload := fun past : Int => Json.array [.text "c", .int (-1), .int past, .text "d"]
    OperationKind.substring.IsNamedBy " SubString\n" ∧
    (∃ op, ofWire " SubString\n" (payload (2 ^ 63 - 1)) = .ok op ∧ op.kind = .substring ∧
      ofWire "substring" op.payload = .ok op) ∧
    ofWire " SubString\n" (payload (2 ^ 63)) = .error (.invalidPayload .substring) := by
  intro payload
  have hname : OperationKind.substring.IsNamedBy " SubString\n" := by decide
  refine ⟨hname, ?_, ?_⟩
  · obtain ⟨haccepted, -, -, hgiven⟩ := wire_grammar " SubString\n" (payload (2 ^ 63 - 1))
    have hfits : OperationKind.substring.Fits _ (payload (2 ^ 63 - 1)) :=
      ⟨by simp [OperationKind.fieldTypes, FieldType.Accepts], .inl rfl⟩
    obtain ⟨op, hop⟩ := haccepted.mpr ⟨_, hname, _, hfits⟩
    obtain ⟨hkind, -, hagain⟩ := hgiven op hop
    have hsame : op.kind = .substring := hkind.unique hname
    rw [hsame] at hagain
    exact ⟨op, hop, hsame, hagain⟩
  · refine (wire_grammar " SubString\n" (payload (2 ^ 63))).2.2.1 .substring hname ?_
    rintro values ⟨htypes, hfound⟩
    obtain rfl : [.text "c", .int (-1), .int (2 ^ 63), .text "d"] = values := by
      simpa [payload] using hfound
    simp [OperationKind.fieldTypes, FieldType.Accepts] at htypes

/-! ### Strict and listed operations -/

/-- **A strictly decoded operation is the one that is listed.** Take any object without repeated
names, in any order and with any further members, whose kind is a text. It is decoded strictly as an
operation exactly if the kind is spelled as the name of a kind and the object is listed as that
operation. -/
theorem strict_iff_listed {ms : List (String × Json)} (hn : (ms.map (·.1)).Nodup) {name : String}
    (hkind : ("kind", .text name) ∈ ms) (op : Operation) :
    decode? (Json.object ms) = some op ↔
      (∃ kind : OperationKind, kind.name = name) ∧
        ∃ w, WireOperation.decode? (Json.object ms) = some w ∧ w.operation = .ok op := by
  have hname : member? "kind" ms = some (some (.text name)) :=
    Json.member?_eq_some_iff.mpr (.of_mem hn hkind)
  by_cases hpayload : "payload" ∈ ms.map (·.1)
  · obtain ⟨⟨_, payload⟩, hm, rfl⟩ := List.mem_map.mp hpayload
    have hmember : member? "payload" ms = some (some payload) :=
      Json.member?_eq_some_iff.mpr (.of_mem hn hm)
    have hstrict : decode? (Json.object ms) =
        (OperationKind.ofName? name).bind (ofPayload? · payload) := by
      simp [decode?, Json.layer_eq, Json.layer, hname, hmember, ofParts?, caseName?, caseNameBy?,
        isReadable, json?]
    have hlisted : WireOperation.decode? (Json.object ms) = some ⟨name, payload⟩ := by
      simp [WireOperation.decode?, fields?, Json.layer_eq, Json.layer, fieldsOfMembers?, hname,
        hmember, text?, json?]
    simp only [hstrict, hlisted, Option.bind_eq_some_iff, OperationKind.ofName?_eq_some_iff,
      Option.some_inj, exists_eq_left', WireOperation.operation, ofWire_eq_ok_iff]
    constructor
    · rintro ⟨kind, rfl, hop⟩
      obtain rfl := (ofPayload?_eq_some_iff.mp hop).1
      exact ⟨⟨op.kind, rfl⟩, op.kind.isNamedBy_name, hop⟩
    · rintro ⟨⟨kind, rfl⟩, hnamed, hop⟩
      exact ⟨op.kind, congrArg _ (hnamed.unique kind.isNamedBy_name), hop⟩
  · have hmember := Json.member?_of_notMem hpayload
    have hstrict : decode? (Json.object ms) = none := by
      simp [decode?, Json.layer_eq, Json.layer, hname, hmember]
    have hlisted : WireOperation.decode? (Json.object ms) = some ⟨name, .null⟩ := by
      simp [WireOperation.decode?, fields?, Json.layer_eq, Json.layer, fieldsOfMembers?, hname,
        hmember, text?]
    -- null fits no kind
    have hnull : ofPayload? op.kind Json.null = none := by
      simp [ofPayload?, fields?, Json.layer_eq, Json.layer]
    simp [hstrict, hlisted, WireOperation.operation, ofWire_eq_ok_iff, hnull]

/-- A payload in the form of an array, before its kind and behind a member that is not looked at. -/
theorem array_payload_before_kind :
    let ms : List (String × Json) :=
      [("note", .int 1), ("payload", .array [.text "c"]), ("kind", .text "drop")]
    (ms.map (·.1)).Nodup ∧ ("kind", .text "drop") ∈ ms ∧
      decode? (Json.object ms) = some (.drop "c") := by
  intro ms
  have hn : (ms.map (·.1)).Nodup := by decide
  have hkind : ("kind", .text "drop") ∈ ms := by simp [ms]
  exact ⟨hn, hkind, (strict_iff_listed hn hkind (.drop "c")).mpr ⟨⟨.drop, rfl⟩, _, rfl, rfl⟩⟩

end Operation

end Tabular
