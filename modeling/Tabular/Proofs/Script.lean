import Tabular.Proofs.Encoding
import Tabular.Proofs.Json.View
import Tabular.Script

/-!
# Scripts are read back

An operation is decoded in two ways: strictly, with its kind spelled exactly, and as listed in a script,
where the payload is kept as a document until the kind is known. **Both give back the operation that was
written**, because the payload of each kind has the fields that its decoder asks for
(`Operation.fields?_payload`). This is proved on any view of a document, so it holds of documents and of
texts alike; that written texts are such views is the matter of `Proofs/Json`.
-/

namespace Tabular

open Layered
open Json (Plain)

variable {δ : Type} [Layered δ] {see : Nat → Json → δ} {n : Nat}

/-! ### Kinds -/

namespace OperationKind

theorem ofName?_name (kind : OperationKind) : ofName? kind.name = some kind := by
  cases kind <;> decide

/-- The name of a kind has no blanks around it and no capitals. -/
theorem ofText?_name (kind : OperationKind) : ofText? kind.name = some kind := by
  cases kind <;> decide

end OperationKind

/-! ### Operations -/

namespace Operation

/-- The fields of a payload are seen in their declared order. -/
theorem fields?_payload (h : View see) (op : Operation) :
    ∃ members : List (String × Json), op.payload = .object members ∧
      fields? op.kind.fields (see (n + 1) op.payload) =
        some (members.map fun m => some (see n m.2)) := by
  cases op with
  | recase style column =>
    cases style <;> exact ⟨_, rfl, by simp [fields?, payload, h.object, kind, CaseStyle.kind,
      OperationKind.fields, fieldsOfMembers?, member?]⟩
  | drop | rename | split | merge | substring =>
    exact ⟨_, rfl, by simp [fields?, payload, h.object, kind, OperationKind.fields,
      fieldsOfMembers?, member?]⟩

/-- **A payload is decoded as the operation it was written for.** -/
theorem ofPayload?_see (h : View see) (op : Operation) :
    ofPayload? op.kind (see (n + 1) op.payload) = some op := by
  obtain ⟨members, hmembers, hfields⟩ := fields?_payload (n := n) h op
  rw [ofPayload?, hfields]
  cases op with
  | recase style column =>
    obtain rfl := Json.object.inj hmembers
    cases style <;> simp [kind, CaseStyle.kind, ofFields?, h.text?_see]
  | drop | rename | split | merge | substring =>
    obtain rfl := Json.object.inj hmembers
    simp [kind, ofFields?, h.text?_see, h.int64?_see]

/-- Payloads are made of texts and integers of 64 bits under distinct names. -/
theorem plain_payload (op : Operation) : Plain (n + 1) op.payload := by
  have hrange (i : Int64) : Plain n (.int i.toInt) :=
    .int i.le_toInt (Int.lt_trans i.toInt_lt (by decide))
  cases op <;> exact .object (by simp) (by simp [Plain.text, hrange])

theorem plain_toJson (op : Operation) : Plain (n + 2) op.toJson :=
  .object (by simp) (by simp [Plain.text, plain_payload])

/-- **A written operation is decoded strictly as itself.** -/
theorem decode?_see (h : View see) (op : Operation) :
    decode? (see (n + 2) op.toJson) = some op := by
  have hkind : caseName? (see (n + 1) (.text op.kind.name)) = some op.kind.name := by
    rw [caseName?, caseNameBy?, h.text]
  simp [decode?, toJson, h.object, member?, payloadFirst, ofParts?, hkind,
    OperationKind.ofName?_name, ofPayload?_see h]

end Operation

/-! ### Listed operations -/

namespace WireOperation

/-- The operation as it is listed in a script. -/
def ofOperation (op : Operation) : WireOperation := ⟨op.kind.name, op.payload⟩

/-- A listed operation means the one it was written for. -/
theorem operation_ofOperation (op : Operation) : (ofOperation op).operation = .ok op := by
  have hpayload : Operation.ofPayload? op.kind op.payload = some op :=
    Operation.ofPayload?_see (n := 0) Json.view op
  simp only [operation, ofOperation, Operation.ofWire, OperationKind.ofText?_name, hpayload]

/-- A written operation is decoded as it is listed. -/
theorem decode?_see (h : View see) (op : Operation) :
    decode? (see (n + 2) op.toJson) = some (ofOperation op) := by
  have hpayload := h.whole (n + 1) op.payload op.plain_payload
  have hfields : fields? ["kind", "payload"] (see (n + 2) op.toJson) =
      some [some (see (n + 1) (.text op.kind.name)), some (see (n + 1) op.payload)] := by
    simp [Operation.toJson, fields?, h.object, fieldsOfMembers?, member?]
  simp [decode?, hfields, h.text?_see, hpayload, ofOperation]

end WireOperation

/-! ### Scripts -/

namespace Script

/-- Operations that can all be decoded are all resolved. -/
theorem resolve_ofOperation (path : String) : ∀ (ops : List Operation) (number : Nat),
    resolve path number (ops.map WireOperation.ofOperation) = .ok ops
  | [], _ => rfl
  | op :: ops, number => by
    rw [List.map_cons, resolve, WireOperation.operation_ofOperation, resolve_ofOperation path ops]
    rfl

/-- The operations of a script that was written as a JSON text are listed one by one. -/
theorem list?_see (h : View see) (ops : List Operation) :
    list? WireOperation.decode? (see (n + 3) (.array (ops.map (·.toJson)))) =
      some (ops.map WireOperation.ofOperation) := by
  rw [h.list?_see, List.mapM_map]
  simp only [Function.comp_def, WireOperation.decode?_see h]
  exact List.mapM_pure (m := Option)

/-- A script that was written in any layout is loaded as the operations it was written for. -/
theorem load_write (yaml? : YamlReader) {write : Nat → Json → List Char} {gap : Nat → List Char} {colon : List Char}
    (hw : Json.Layout write gap colon) {path : String} (hjson : FilePath.hasExtension path "json")
    {ops : List Operation} (hne : ops ≠ []) (level : Nat) :
    load yaml? path (some (Encoding.utf8Bytes
      (String.ofList (write level (.array (ops.map (·.toJson))))))) = .ok ops := by
  have hplain : Plain Source.maxNesting (.array (ops.map (·.toJson))) :=
    .array (List.forall_mem_map.mpr fun op _ => op.plain_toJson)
  have hlisted : listed yaml? path (write level (.array (ops.map (·.toJson)))) =
      .ok (ops.map WireOperation.ofOperation) := by
    have hread : ofJsonText? (write level (.array (ops.map (·.toJson)))) =
        some (ops.map WireOperation.ofOperation) := by
      rw [ofJsonText?, Excerpt.ofText?, hw.read_write hplain level]
      exact list?_see (n := 124) Excerpt.view ops
    rw [listed, if_pos hjson, hread]
  have hsome : ¬ (ops.map WireOperation.ofOperation).isEmpty := by simpa using hne
  rw [load, Option.bind_some, Encoding.fromUTF8?_utf8Bytes]
  simp only [String.toList_ofList, hlisted]
  exact (if_neg hsome).trans (resolve_ofOperation path ops 1)

/-- An operation that was written in any layout is decoded as itself. -/
theorem decode?_write {write : Nat → Json → List Char} {gap : Nat → List Char} {colon : List Char}
    (hw : Json.Layout write gap colon) (op : Operation) (level : Nat) :
    (Excerpt.ofText? (write level op.toJson)).bind Operation.decode? = some op := by
  rw [Excerpt.ofText?, hw.read_write (op.plain_toJson : Plain 2 op.toJson) level, Option.map_some,
    Option.bind_some]
  exact Operation.decode?_see (n := 125) Excerpt.view op

/-- **Scripts are read back.** Any operations, at least one, with any texts and any indices, written as
a JSON text without blanks or over several lines, are loaded from a file with the extension of JSON as
the same operations, whatever reads YAML. And each operation is decoded strictly as itself, from either
form of its text and from its document. -/
theorem written_script_loads (yaml? : YamlReader) (path : String) (ops : List Operation)
    (hjson : FilePath.hasExtension path "json") (hne : ops ≠ []) :
    (∀ text ∈ [toText ops, (Json.array (ops.map (·.toJson))).toLines],
      load yaml? path (some (Encoding.utf8Bytes text)) = .ok ops) ∧
    ∀ op ∈ ops, Operation.decode? op.toJson = some op ∧
      ∀ text ∈ [op.toJson.toText, op.toJson.toLines],
        (Excerpt.ofText? text.toList).bind Operation.decode? = some op := by
  constructor
  · simp only [List.forall_mem_cons]
    exact ⟨load_write yaml? Json.compact_layout hjson hne 0,
      load_write yaml? Json.indented_layout hjson hne 0, List.forall_mem_nil _⟩
  · intro op _
    refine ⟨Operation.decode?_see (n := 0) Json.view op, ?_⟩
    simp only [List.forall_mem_cons, Json.toText, Json.toLines, String.toList_ofList]
    exact ⟨decode?_write Json.compact_layout op 0, decode?_write Json.indented_layout op 0,
      List.forall_mem_nil _⟩

/-- Texts of quotes, backslashes and controls, and the least and the greatest index. The text is no
YAML, which has no control characters. -/
theorem escaped_script_loads :
    let ops : List Operation := [.split "\"\\" "\n\x01" "😀" "\x7f",
      .substring "é" Int64.minValue Int64.maxValue ""]
    let yaml? : YamlReader := fun _ => none
    FilePath.hasExtension "a.JSON" "json" ∧ ops ≠ [] ∧
      load yaml? "a.JSON" (some (Encoding.utf8Bytes (toText ops))) = .ok ops ∧
        ∀ op ∈ ops, Operation.decode? op.toJson = some op := by
  intro ops yaml?
  have hjson : FilePath.hasExtension "a.JSON" "json" := by decide
  have hne : ops ≠ [] := List.cons_ne_nil _ _
  have ⟨hload, hdecode⟩ := written_script_loads yaml? "a.JSON" ops hjson hne
  exact ⟨hjson, hne, hload _ List.mem_cons_self, fun op hop => (hdecode op hop).1⟩

end Script

end Tabular
