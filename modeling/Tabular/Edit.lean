import Tabular.Operation
import Tabular.Table
import Tabular.Text.Cut

/-!
# Editing tables

What an operation makes of a table. An operation **has no target** if the column it starts from does
not exist or a column it would add already does, and then there is no edited table. Otherwise every
row is edited by itself, and a row that lacks the column counts as having an empty text there.
-/

namespace Tabular

namespace Row

/-- The text under a name; empty if there is none. -/
def textAt (row : Row) (column : String) : String :=
  match row.get? column with
  | some c => c.toText
  | none => ""

/-- The row with the two parts of a column's text at the first delimiter under two names. -/
def split (column delimiter first second : String) (row : Row) : Row :=
  let (head, tail) := Text.splitFirst delimiter.toList (Row.textAt row column).toList
  (row.insert first (.text (String.ofList head))).insert second (.text (String.ofList tail))

/-- The row with the texts of two columns, joined by a third text, under a name. -/
def merge (column other joint target : String) (row : Row) : Row :=
  row.insert target (.text (Row.textAt row column ++ joint ++ Row.textAt row other))

/-- A cell set in a case; null stays null, and any other cell becomes a text. -/
def recaseCell (style : CaseStyle) : Cell → Cell
  | .null => .null
  | c => .text (style.set c.toText)

/-- The row with a column, if it has it, set in a case. -/
def recase (style : CaseStyle) (column : String) (row : Row) : Row :=
  row.adjust column (recaseCell style)

/-- A position in a text; negative ones stand for its beginning. -/
def position (n : Int64) : Nat := n.toInt.toNat

/-- The row with a part of a column's text under a name. -/
def substring (column : String) (first past : Int64) (target : String) (row : Row) : Row :=
  row.insert target <| .text <| String.ofList <|
    Text.substring (Row.textAt row column).toList (position first) (position past)

end Row

namespace Operation

/-- Whether the operation has a target in a table. -/
def applies (t : Table) : Operation → Bool
  | drop column => t.hasColumn column
  | rename column newName =>
    column != newName && t.hasColumn column && !t.hasColumn newName
  | split column _ first second =>
    t.hasColumn column && first != second && !t.hasColumn first && !t.hasColumn second
  | merge column other _ target =>
    t.hasColumn column && t.hasColumn other && !t.hasColumn target
  | recase _ column => t.hasColumn column
  | substring column _ _ target => t.hasColumn column && !t.hasColumn target

/-- What the operation makes of a row. -/
def editRow : Operation → Row → Row
  | drop column => fun row => row.erase column
  | rename column newName => fun row => row.move column newName
  | split column delimiter first second => Row.split column delimiter first second
  | merge column other joint target => Row.merge column other joint target
  | recase style column => Row.recase style column
  | substring column first past target => Row.substring column first past target

/-- The edited table, if the operation has a target. -/
def edit? (op : Operation) (t : Table) : Option Table :=
  if op.applies t then some (t.mapRows op.editRow) else none

end Operation

end Tabular
