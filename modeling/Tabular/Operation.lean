import Tabular.Json.Decoding
import Tabular.Text.Casing

/-!
# Operations on columns

What a user can ask of a table: to drop, rename, split or merge columns, to set one in another case,
or to copy a part of its texts. **An operation is written as its kind and a payload** that holds the
fields of the kind. This module also names the columns an operation reads and adds.
-/

namespace Tabular

/-- The kinds of operation. -/
inductive OperationKind where
  | drop
  | rename
  | split
  | merge
  | uppercase
  | lowercase
  | titlecase
  | substring
deriving Repr, DecidableEq, Inhabited

namespace OperationKind

/-- All kinds. -/
def all : List OperationKind :=
  [drop, rename, split, merge, uppercase, lowercase, titlecase, substring]

/-- The name of a kind. -/
def name : OperationKind → String
  | drop => "drop"
  | rename => "rename"
  | split => "split"
  | merge => "merge"
  | uppercase => "uppercase"
  | lowercase => "lowercase"
  | titlecase => "titlecase"
  | substring => "substring"

/-- The kind of a name. -/
def ofName? (s : String) : Option OperationKind := all.find? (·.name == s)

/-- The kind that a text names, apart from the blanks around it and the case of its letters. -/
def ofText? (s : String) : Option OperationKind :=
  ofName? (String.ofList (Text.toAsciiSmall (Text.trim s.toList)))

/-- The fields of the payload of a kind, in their declared order. -/
def fields : OperationKind → List String
  | drop | uppercase | lowercase | titlecase => ["column"]
  | rename => ["column", "new_name"]
  | split => ["column", "delimiter", "first_split", "second_split"]
  | merge => ["column", "merge_with", "join_by", "merged_column_name"]
  | substring => ["column", "begin_index", "end_index", "column_name"]

end OperationKind

/-- The kind of operation that sets a column in a case. -/
def CaseStyle.kind : CaseStyle → OperationKind
  | upper => .uppercase
  | lower => .lowercase
  | title => .titlecase

/-- An operation on the columns of a table. -/
inductive Operation where
  | drop (column : String)
  | rename (column newName : String)
  | split (column delimiter first second : String)
  | merge (column other joint target : String)
  | recase (style : CaseStyle) (column : String)
  | substring (column : String) (first past : Int64) (target : String)
deriving DecidableEq

namespace Operation

instance : Inhabited Operation := ⟨drop ""⟩

/-- The kind of an operation. -/
def kind : Operation → OperationKind
  | drop _ => .drop
  | rename _ _ => .rename
  | split _ _ _ _ => .split
  | merge _ _ _ _ => .merge
  | recase style _ => style.kind
  | substring _ _ _ _ => .substring

/-- The column an operation starts from. -/
def source : Operation → String
  | drop column => column
  | rename column _ => column
  | split column _ _ _ => column
  | merge column _ _ _ => column
  | recase _ column => column
  | substring column _ _ _ => column

/-- The columns an operation adds to a table, in order. -/
def added : Operation → List String
  | split _ _ first second => [first, second]
  | merge _ _ _ target => [target]
  | substring _ _ _ target => [target]
  | _ => []

/-! ### Written form -/

/-- The payload of an operation: the fields of its kind. -/
def payload : Operation → Json
  | drop column => .object [("column", .text column)]
  | rename column newName => .object [("column", .text column), ("new_name", .text newName)]
  | split column delimiter first second =>
    .object [("column", .text column), ("delimiter", .text delimiter),
      ("first_split", .text first), ("second_split", .text second)]
  | merge column other joint target =>
    .object [("column", .text column), ("merge_with", .text other), ("join_by", .text joint),
      ("merged_column_name", .text target)]
  | recase _ column => .object [("column", .text column)]
  | substring column first past target =>
    .object [("column", .text column), ("begin_index", .int first.toInt),
      ("end_index", .int past.toInt), ("column_name", .text target)]

/-- The operation as a document. -/
def toJson (op : Operation) : Json :=
  .object [("kind", .text op.kind.name), ("payload", op.payload)]

/-! ### Decoding -/

section Decoding

variable {δ : Type} [Layered δ]

open Layered

/-- The operation of a kind with the given fields. -/
def ofFields? (kind : OperationKind) (fields : List (Option δ)) : Option Operation :=
  match kind, fields with
  | .drop, [some column] => return drop (← text? column)
  | .rename, [some column, some newName] => return rename (← text? column) (← text? newName)
  | .split, [some column, some delimiter, some first, some second] =>
    return split (← text? column) (← text? delimiter) (← text? first) (← text? second)
  | .merge, [some column, some other, some joint, some target] =>
    return merge (← text? column) (← text? other) (← text? joint) (← text? target)
  | .uppercase, [some column] => return recase .upper (← text? column)
  | .lowercase, [some column] => return recase .lower (← text? column)
  | .titlecase, [some column] => return recase .title (← text? column)
  | .substring, [some column, some first, some past, some target] =>
    return substring (← text? column) (← int64? first) (← int64? past) (← text? target)
  | _, _ => none

/-- The operation of a kind with a payload. -/
def ofPayload? (kind : OperationKind) (payload : δ) : Option Operation :=
  (fields? kind.fields payload).bind (ofFields? kind)

/-- The operation with a kind, whose name must be written exactly, and a payload. -/
def ofParts? (kind payload : δ) : Option Operation :=
  ((caseName? kind).bind OperationKind.ofName?).bind fun kind => ofPayload? kind payload

/-- Whether the payload comes before the kind among members. -/
def payloadFirst (ms : List (String × δ)) : Bool :=
  match ms.find? fun m => m.1 == "kind" || m.1 == "payload" with
  | some m => m.1 == "payload"
  | none => false

/-- The operation that a record is, with kind and payload in either order and further members
ignored, or an array of the two. A payload that comes before its kind must be readable. -/
def decode? (d : δ) : Option Operation :=
  match layer d with
  | some (.object ms) =>
    match member? "kind" ms, member? "payload" ms with
    | some (some kind), some (some payload) =>
      if payloadFirst ms && !isReadable payload then none else ofParts? kind payload
    | _, _ => none
  | some (.array [kind, payload]) => ofParts? kind payload
  | _ => none

end Decoding

/-- Why a written operation is refused: its kind is unknown, or the payload does not fit. -/
inductive Refusal where
  | unknownOperation (kind : String)
  | invalidPayload (kind : OperationKind)
deriving Repr, DecidableEq

namespace Refusal

/-- The message of a refusal. -/
def message : Refusal → String
  | unknownOperation kind => "unknown operation `" ++ kind ++ "`"
  | invalidPayload kind => "invalid payload for operation `" ++ kind.name ++ "`"

end Refusal

/-- The operation of a kind given by its name in any case, with a payload. -/
def ofWire (kind : String) (payload : Json) : Except Refusal Operation :=
  match OperationKind.ofText? kind with
  | none => .error (.unknownOperation kind)
  | some k =>
    match ofPayload? k payload with
    | none => .error (.invalidPayload k)
    | some op => .ok op

end Operation

/-- An operation as listed in a script: the name of a kind and a payload, neither looked at. -/
structure WireOperation where
  kind : String
  payload : Json

namespace WireOperation

/-- The operation that is meant. -/
def operation (w : WireOperation) : Except Operation.Refusal Operation :=
  Operation.ofWire w.kind w.payload

/-- The listed operation that a record is; a missing payload is null. -/
def decode? {δ : Type} [Layered δ] (d : δ) : Option WireOperation := do
  match ← Layered.fields? ["kind", "payload"] d with
  | [some kind, some payload] => return ⟨← Layered.text? kind, ← Layered.json? payload⟩
  | [some kind, none] => return ⟨← Layered.text? kind, .null⟩
  | _ => none

end WireOperation

end Tabular
