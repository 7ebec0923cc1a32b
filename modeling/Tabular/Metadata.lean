import Tabular.Gaps
import Tabular.Histogram
import Tabular.Note

/-!
# Metadata of columns

What is known about a column beside its cells: its type, its distribution and its gaps. The three
are computed by a `Provider`, which may be any three functions. **Every use of a provider leaves a
call in the trace** of the computation, so that what was computed, in which order and on which
table, can be stated and compared.
-/

namespace Tabular

/-- What is known about a column. -/
structure Metadata where
  type : ColumnType
  distribution : Distribution
  gaps : Gaps
deriving DecidableEq, Inhabited

/-- A request for one piece of metadata of a column of a table. -/
inductive Call where
  | inferType (t : Table) (column : String)
  | distribution (t : Table) (column : String) (type : ColumnType)
  | gaps (t : Table) (column : String)

/-! ### Traced computations -/

/-- A value together with the calls and notes made on the way to it. -/
structure Traced (α : Type) where
  value : α
  calls : List Call
  notes : List Note

namespace Traced

variable {α β : Type}

/-- A value that took no call. -/
def pure (x : α) : Traced α := ⟨x, [], []⟩

/-- One computation after another, with the traces of both in order. -/
def bind (x : Traced α) (f : α → Traced β) : Traced β :=
  let y := f x.value
  ⟨y.value, x.calls ++ y.calls, x.notes ++ y.notes⟩

instance : Monad Traced where
  pure := pure
  bind := bind

/-- A single note. -/
def note (level : Level) (text : String) : Traced Unit := ⟨(), [], [⟨level, text⟩]⟩

@[simp] theorem value_pure (x : α) : (Pure.pure x : Traced α).value = x := rfl

@[simp] theorem calls_pure (x : α) : (Pure.pure x : Traced α).calls = [] := rfl

@[simp] theorem value_bind (x : Traced α) (f : α → Traced β) :
    (x >>= f).value = (f x.value).value := rfl

@[simp] theorem calls_bind (x : Traced α) (f : α → Traced β) :
    (x >>= f).calls = x.calls ++ (f x.value).calls := rfl

end Traced

/-! ### Providers -/

/-- A way to compute the metadata of a column. -/
structure Provider where
  inferType : Table → String → ColumnType
  distribution : Table → String → ColumnType → Distribution
  gaps : Table → String → Gaps

namespace Provider

/-- The provider that looks at the cells. -/
def standard : Provider := ⟨Table.inferType, Table.distribution, Table.gaps⟩

variable (p : Provider) (t : Table) (column : String)

/-- The type of a column, as a call. -/
def askType : Traced ColumnType := ⟨p.inferType t column, [.inferType t column], []⟩

/-- The distribution of a column of a type, as a call. -/
def askDistribution (type : ColumnType) : Traced Distribution :=
  ⟨p.distribution t column type, [.distribution t column type], []⟩

/-- The gaps of a column, as a call. -/
def askGaps : Traced Gaps := ⟨p.gaps t column, [.gaps t column], []⟩

/-- The metadata of a column: its type, then its distribution as of that type, then its gaps. -/
def describe : Traced Metadata := do
  let type ← p.askType t column
  let distribution ← p.askDistribution t column type
  let gaps ← p.askGaps t column
  return ⟨type, distribution, gaps⟩

end Provider

end Tabular
