import Tabular.History.Identifier
import Tabular.History.Instant
import Tabular.Operation

/-!
# History

The operations that were applied, in order. **An entry is stamped** with an identifier and a point in
time, both of which are given from outside; nothing else depends on them.
-/

namespace Tabular

/-- What is given to an entry from outside. -/
structure Stamp where
  id : Identifier
  time : Instant
deriving Repr, DecidableEq, Inhabited

/-- An operation that was applied, with the identifier and time of its application. -/
structure Entry where
  id : Identifier
  operation : Operation
  time : Instant
deriving DecidableEq, Inhabited

namespace Entry

/-- The entry of an operation applied under a stamp. -/
def ofStamp (stamp : Stamp) (op : Operation) : Entry := ⟨stamp.id, op, stamp.time⟩

/-- The entry as a record. -/
def toJson (e : Entry) : Json :=
  .object [("id", .text e.id.toText), ("operation", e.operation.toJson),
    ("applied_at", .text e.time.toText)]

/-- The entry that a record is. -/
def decode? {δ : Type} [Layered δ] (d : δ) : Option Entry := do
  match ← Layered.fields? ["id", "operation", "applied_at"] d with
  | [some id, some operation, some time] =>
    return ⟨← (Layered.text? id).bind Identifier.ofText?, ← Operation.decode? operation,
      ← (Layered.text? time).bind Instant.ofText?⟩
  | _ => none

end Entry

/-- Entries in the order of their application. -/
abbrev History := List Entry

namespace History

/-- The applied operations in order. -/
def operations (h : History) : List Operation := h.map (·.operation)

/-- The history as a list of records. -/
def toJson (h : History) : Json := .array (h.map Entry.toJson)

/-- The history that a list of records is. -/
def decode? {δ : Type} [Layered δ] (d : δ) : Option History := Layered.list? Entry.decode? d

end History

end Tabular
