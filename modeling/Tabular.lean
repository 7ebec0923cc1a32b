import Tabular.Main
import Tabular.Proofs.Number.Reading
import Tabular.Proofs.Workspace.Replay
import Tabular.Proofs.Text.Casing
import Tabular.Proofs.Metadata
import Tabular.Proofs.Workspace.Freshness
import Tabular.Proofs.Histogram
import Tabular.Proofs.Workspace.Lockstep
import Tabular.Proofs.Workspace.Recomputation
import Tabular.Proofs.Workspace.Accounting
import Tabular.Proofs.Footprint
import Tabular.Proofs.Workspace.Commutation
import Tabular.Proofs.Workspace.Selection
import Tabular.Proofs.Workspace.Undo
import Tabular.Proofs.Dataset.Quoted
import Tabular.Proofs.Dataset.WellFormed
import Tabular.Proofs.Script
import Tabular.Proofs.Dataset.Reported
import Tabular.Proofs.Edit.Frame
import Tabular.Proofs.Edit.Rejoining
import Tabular.Proofs.Workspace.Display
import Tabular.Proofs.Text.Settled
import Tabular.Proofs.Text.Title
import Tabular.Proofs.Text.Quoted
import Tabular.Proofs.Edit.Recasing
import Tabular.Proofs.Text.Substring
import Tabular.Proofs.Edit.Excerpt
import Tabular.Proofs.ColumnType
import Tabular.Proofs.Histogram.OuterBins
import Tabular.Proofs.Workspace.KeptType
import Tabular.Proofs.Operation
import Tabular.Proofs.Dataset.Finite
import Tabular.Proofs.Dataset.Limit
import Tabular.Proofs.Workspace.LoadedOrder
import Tabular.Proofs.Dataset.SingleByte
import Tabular.Proofs.Report.TextTable
import Tabular.Proofs.Workspace.Inconsistency
