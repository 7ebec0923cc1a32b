import Tabular.Workspace

/-!
# Consistent workspaces

A workspace is consistent if no column is shown twice and **the columns of the metadata and of every
row are those of the order**. A check names the first of these conditions that fails, and, if names
differ, which of them are missing and which should not be there.
-/

namespace Tabular

/-- A place where the names of all columns are expected. -/
inductive NameSet where
  | types
  | distributions
  | gaps
  | row (index : Nat)
deriving Repr, DecidableEq

/-- What a set of names is called. -/
def NameSet.label : NameSet → String
  | types => "column types"
  | distributions => "histograms"
  | gaps => "null errors"
  | row index => "row " ++ toString index

/-- Why a workspace is not consistent. -/
inductive Inconsistency where
  | duplicateColumns (order : List String)
  | differingNames (place : NameSet) (missing orphaned : List String)
deriving Repr, DecidableEq

namespace Inconsistency

/-- What is said about an inconsistent workspace. -/
def detail : Inconsistency → String
  | duplicateColumns order => "column order contains duplicates: " ++ Text.quotedList order
  | differingNames place missing orphaned =>
    place.label ++ " keys differ from column order (missing: " ++ Text.quotedList missing ++
      ", orphaned: " ++ Text.quotedList orphaned ++ ")"

/-- The message of an inconsistency. -/
def message (i : Inconsistency) : String := "wrangler state is inconsistent: " ++ i.detail

end Inconsistency

namespace Workspace

/-- Whether a list has no name twice. -/
def distinct : List String → Bool
  | [] => true
  | name :: names => !names.contains name && distinct names

/-- The names of a list, sorted. -/
def sortedNames (names : List String) : List String := names.mergeSort fun a b => decide (a ≤ b)

/-- Compares the names found in a place, given in order, with the expected ones. -/
def checkNames (order : List String) (place : NameSet) (found : List String) :
    Except Inconsistency Unit :=
  let missing := (sortedNames order).filter (!found.contains ·)
  let orphaned := found.filter (!order.contains ·)
  if missing.isEmpty && orphaned.isEmpty then .ok ()
  else .error (.differingNames place missing orphaned)

/-- Compares the names of rows, the first of which has the number `start`, with the expected
ones. -/
def checkRows (order : List String) (start : Nat) : List Row → Except Inconsistency Unit
  | [] => .ok ()
  | row :: rows => do
    checkNames order (.row start) row.keys
    checkRows order (start + 1) rows

/-- The first condition of consistency that fails, if any does. -/
def check (w : Workspace) : Except Inconsistency Unit := do
  if !distinct w.order then throw (.duplicateColumns w.order)
  checkNames w.order .types w.types.keys
  checkNames w.order .distributions w.distributions.keys
  checkNames w.order .gaps w.gaps.keys
  checkRows w.order 0 w.table.rows

end Workspace

end Tabular
