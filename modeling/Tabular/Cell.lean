import Tabular.Json.Decoding
import Tabular.Number.Text

/-!
# Cells

What a table holds under a column in a row: nothing, a truth value, an integer of 64 bits, a double
or a text. Every cell has a text, which is what the text operations work on, and **a cell is missing
if it is null or the empty text**; zero and false are values.
-/

namespace Tabular

/-- A value of a table. -/
inductive Cell where
  | null
  | bool (b : Bool)
  | int (n : Int64)
  | float (x : Float)
  | text (s : String)

namespace Cell

instance : Inhabited Cell := ⟨null⟩

/-- Whether two cells hold the same value. Doubles compare as numbers, so the undefined value
differs from itself. -/
def same : Cell → Cell → Bool
  | null, null => true
  | bool a, bool b => a == b
  | int a, int b => a == b
  | float a, float b => a == b
  | text a, text b => a == b
  | _, _ => false

instance : BEq Cell := ⟨same⟩

/-- The text of a cell; that of null is empty. -/
def toText : Cell → String
  | null => ""
  | bool true => "true"
  | bool false => "false"
  | int n => String.ofList (Decimal.intChars n.toInt)
  | float x => Double.cellText x
  | text s => s

/-- Whether the cell holds no data: null or the empty text. -/
def isMissing : Cell → Bool
  | null => true
  | text s => s.isEmpty
  | _ => false

/-- The text that the cell is, if it is one. -/
def asText? : Cell → Option String
  | text s => some s
  | _ => none

/-! ### Cells and JSON -/

/-- The cell as a document. -/
def toJson : Cell → Json
  | null => .null
  | bool b => .bool b
  | int n => .int n.toInt
  | float x => .float x
  | text s => .text s

/-- The cell of an integer: a double if 64 bits with sign do not hold it. -/
def ofInt (n : Int) : Cell :=
  match Number.toInt64? n with
  | some i => int i
  | none => float (Double.nearestInt n)

/-- The cell of any document; arrays and objects are kept as their compact text. -/
def ofJson : Json → Cell
  | .null => null
  | .bool b => bool b
  | .int n => ofInt n
  | .float x => float x
  | .text s => text s
  | .array items => text (Json.array items).toText
  | .object members => text (Json.object members).toText

/-- The cell that a document is, if it is a plain value. -/
def decode? {δ : Type} [Layered δ] (d : δ) : Option Cell :=
  match Layered.layer d with
  | some .null => some null
  | some (.bool b) => some (bool b)
  | some (.int n) => some (ofInt n)
  | some (.float x) => some (float x)
  | some (.text s) => some (text s)
  | _ => none

end Cell

end Tabular
