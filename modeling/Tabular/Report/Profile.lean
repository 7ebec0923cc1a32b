import Tabular.Report.TextTable
import Tabular.Workspace

/-!
# Reports on a workspace

The views of a workspace: the **profile** of its columns, with their types, gaps and distributions,
a **preview** of its first rows, and its **history**. Each is a table of text; the profile is a list
of records too.
-/

namespace Tabular

/-- What a report says about a column. -/
structure ColumnProfile where
  position : Nat
  name : String
  type : Option ColumnType
  gapCount : Nat
  distribution : Option Distribution
deriving DecidableEq

namespace ColumnProfile

/-- The profile as a record. -/
def toJson (c : ColumnProfile) : Json :=
  .object [("position", .ofNat c.position), ("name", .text c.name),
    ("column_type", c.type.elim .null fun type => .text type.name),
    ("null_count", .ofNat c.gapCount),
    ("histogram", c.distribution.elim .null Distribution.toJson)]

end ColumnProfile

/-- A distribution on one line: every bin with its number of values. -/
def Distribution.summary : Distribution → String
  | binned h =>
    String.intercalate " " <|
      (h.labels.zip h.counts).map fun (label, count) => "[" ++ label ++ "]=" ++ toString count
  | unsupported type => "n/a (" ++ type.name ++ ")"

namespace Workspace

/-- The profiles of columns, the first of which has the position `start`. -/
def profilesFrom (w : Workspace) (start : Nat) : List String → List ColumnProfile
  | [] => []
  | name :: names =>
    ⟨start, name, w.types.get? name, ((w.gaps.get? name).map (·.count)).getD 0,
      w.distributions.get? name⟩ :: profilesFrom w (start + 1) names

/-- The profiles of the columns in their order. -/
def profiles (w : Workspace) : List ColumnProfile := w.profilesFrom 1 w.order

/-- The profiles as a list of records. -/
def profilesJson (w : Workspace) : Json := .array (w.profiles.map ColumnProfile.toJson)

/-- The profiles as a table of text. -/
def profileTable (w : Workspace) : TextTable :=
  let t := TextTable.ofHeaders ["#", "column", "type", "nulls", "histogram"]
  let t := (t.align 0 .right).align 3 .right
  { t with
    rows := w.profiles.map fun c =>
      [toString c.position, c.name, (c.type.map (·.name)).getD "", toString c.gapCount,
        (c.distribution.map (·.summary)).getD ""] }

/-- The first rows, with the columns in their order, as a table of text. -/
def previewTable (w : Workspace) (limit : Nat) : TextTable :=
  { TextTable.ofHeaders w.order with
    rows := (w.table.rows.take limit).map fun row => w.order.map (Row.textAt row) }

/-- The lines of a history, the first of which has the number `start`. -/
def historyLines (start : Nat) : List Entry → List (List String)
  | [] => []
  | e :: es =>
    [toString start, e.id.toText, e.operation.kind.name, e.operation.payload.toText] ::
      historyLines (start + 1) es

/-- The history as a table of text. -/
def historyTable (w : Workspace) : TextTable :=
  let t := (TextTable.ofHeaders ["#", "id", "operation", "payload"]).align 0 .right
  { t with rows := historyLines 1 w.history }

end Workspace

end Tabular
