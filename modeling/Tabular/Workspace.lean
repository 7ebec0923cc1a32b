import Tabular.Edit
import Tabular.History
import Tabular.Metadata
import Tabular.Text.Quoted

/-!
# Workspaces

A workspace is a table on which operations are carried out, with the order in which its columns are
shown, what is known about each of them, and the history of the applied operations. **Metadata is
computed for columns whose cells are new and carried over for all others**: loading describes every
column, an operation only the columns it adds, and setting a column in another case keeps what was
known about it. An operation without a target leaves the workspace as it is.
-/

namespace Tabular

/-- A table with the display order, the metadata and the history of its columns. -/
structure Workspace where
  table : Table
  order : List String
  types : Keyed ColumnType
  distributions : Keyed Distribution
  gaps : Keyed Gaps
  history : History
deriving Inhabited

namespace Workspace

/-! ### Columns -/

/-- The workspace of a table before any of its columns is described. -/
def undescribed (t : Table) : Workspace := ⟨t, [], ∅, ∅, ∅, []⟩

/-- The workspace with a column and its metadata at a position of the order; at the end if the
position lies beyond. -/
def insertColumn (w : Workspace) (index : Nat) (column : String) (m : Metadata) : Workspace :=
  { w with
    order := w.order.insertIdx (min index w.order.length) column
    types := w.types.insert column m.type
    distributions := w.distributions.insert column m.distribution
    gaps := w.gaps.insert column m.gaps }

/-- The workspace without a column. -/
def removeColumn (w : Workspace) (column : String) : Workspace :=
  { w with
    order := w.order.filter (· != column)
    types := w.types.erase column
    distributions := w.distributions.erase column
    gaps := w.gaps.erase column }

/-- The workspace with a column under a new name, in its place and with its metadata. -/
def renameColumn (w : Workspace) (column newName : String) : Workspace :=
  { w with
    order := w.order.replace column newName
    types := w.types.move column newName
    distributions := w.distributions.move column newName
    gaps := w.gaps.move column newName }

/-- The position of a column in the order. -/
def index? (w : Workspace) (column : String) : Option Nat := w.order.idxOf? column

/-- The workspace with columns of its table, each described when its turn comes, from a position
of the order on. -/
def addColumns (p : Provider) (w : Workspace) (index : Nat) : List String → Traced Workspace
  | [] => return w
  | column :: columns => do
    let m ← p.describe w.table column
    addColumns p (w.insertColumn index column m) (index + 1) columns

/-- The position after a column; the end of the order if there is no such column. -/
def positionAfter (w : Workspace) (column : String) : Nat :=
  match w.index? column with
  | some i => i + 1
  | none => w.order.length

/-! ### Loading -/

/-- The names of `requested` that occur in `present`, each at its first occurrence. -/
def requestedOrder (present : List String) : (seen requested : List String) → List String
  | _, [] => []
  | seen, name :: names =>
    if present.contains name && !seen.contains name then
      name :: requestedOrder present (name :: seen) names
    else requestedOrder present seen names

/-- The order of the columns of a table: those requested first, as requested, then all others. -/
def initialOrder (t : Table) : Option (List String) → List String
  | none => t.columns
  | some requested =>
    let first := requestedOrder t.columns [] requested
    first ++ t.columns.filter (!first.contains ·)

/-- The workspace of a table, with every column described. -/
def load (p : Provider) (t : Table) (order : Option (List String)) : Traced Workspace := do
  let w ← addColumns p (undescribed t) 0 (initialOrder t order)
  Traced.note .info <|
    "Loaded " ++ toString w.table.size ++ " row(s) across " ++ toString w.order.length ++
      " column(s)"
  return w

/-! ### Applying operations -/

/-- The order and metadata of the workspace, whose table is edited already, after an operation. -/
def updateColumns (p : Provider) (w : Workspace) (op : Operation) : Traced Workspace :=
  match op with
  | .drop column => return w.removeColumn column
  | .rename column newName => return w.renameColumn column newName
  | .split .. | .merge .. | .substring .. =>
    addColumns p w (w.positionAfter op.source) op.added
  | .recase .. => return w

/-- The workspace with an operation entered into its history. -/
def record (w : Workspace) (stamp : Stamp) (op : Operation) : Workspace :=
  { w with history := w.history ++ [Entry.ofStamp stamp op] }

/-- The workspace after an operation; the same workspace if the operation has no target. -/
def apply (p : Provider) (stamp : Stamp) (op : Operation) (w : Workspace) : Traced Workspace :=
  match op.edit? w.table with
  | none => do
    Traced.note .warn <|
      "Skipping " ++ op.kind.name ++ " on column '" ++ op.source ++ "': no applicable target"
    return w
  | some t => do
    let w ← updateColumns p { w with table := t } op
    Traced.note .debug <|
      "Applied " ++ op.kind.name ++ " to column '" ++ op.source ++ "' as history entry " ++
        stamp.id.toText ++ " (recomputed: " ++ Text.quotedList op.added ++ ")"
    return w.record stamp op

/-- The workspace after a list of operations, each under its stamp. -/
def run (p : Provider) (w : Workspace) : List (Stamp × Operation) → Traced Workspace
  | [] => return w
  | (stamp, op) :: ops => do
    let w ← w.apply p stamp op
    run p w ops

/-- The workspace of a table after a list of operations. -/
def replay (p : Provider) (t : Table) (order : Option (List String))
    (ops : List (Stamp × Operation)) : Traced Workspace := do
  let w ← load p t order
  run p w ops

/-! ### Workspaces and JSON -/

/-- A map as an object. -/
def keyedJson {α : Type} (f : α → Json) (m : Keyed α) : Json :=
  .object (m.entries.map fun e => (e.1, f e.2))

/-- The workspace as a record. -/
def toJson (w : Workspace) : Json :=
  .object [("table", w.table.toJson), ("column_order", .array (w.order.map .text)),
    ("column_types", keyedJson (fun type => .text type.name) w.types),
    ("histograms", keyedJson Distribution.toJson w.distributions),
    ("null_errors", keyedJson Gaps.toJson w.gaps), ("history", w.history.toJson)]

end Workspace

end Tabular
