/-!
# Tables of text

Columns of text for a terminal: a header, a dashed rule and one line for each row, with two spaces
between the columns. **A column is as wide as its widest cell**, where escape sequences that only
set a colour take no width. Line breaks and tabs in a cell become spaces, and no line ends in one.
-/

namespace Tabular

/-- The side of its column that a cell stands on. -/
inductive Align where
  | left
  | right
deriving Repr, DecidableEq, Inhabited

/-- A header, the alignment of each of its columns, and rows of any length. -/
structure TextTable where
  headers : List String
  aligns : List Align
  rows : List (List String)
deriving Repr, DecidableEq, Inhabited

namespace TextTable

/-- The table with a header and no rows; all columns are aligned left. -/
def ofHeaders (headers : List String) : TextTable :=
  ⟨headers, headers.map fun _ => .left, []⟩

/-- The table with a column, if it has that many, aligned to a side. -/
def align (t : TextTable) (column : Nat) (side : Align) : TextTable :=
  { t with aligns := t.aligns.set column side }

/-- The table with one more row. -/
def push (t : TextTable) (row : List String) : TextTable := { t with rows := t.rows ++ [row] }

/-- The number of rows. -/
def size (t : TextTable) : Nat := t.rows.length

/-! ### Cells -/

/-- The number of characters that are shown, where `hidden` tells whether an escape sequence is
open. A sequence begins with the escape character and ends with the letter m. -/
def shownFrom (hidden : Bool) : List Char → Nat
  | [] => 0
  | c :: s =>
    if hidden then shownFrom (c != 'm') s
    else if c = '\x1b' then shownFrom true s
    else shownFrom false s + 1

/-- The width of a text. -/
def width (s : List Char) : Nat := shownFrom false s

/-- A character of a cell; line breaks and tabs become spaces. -/
def flatChar (c : Char) : Char := if c = '\n' ∨ c = '\r' ∨ c = '\t' then ' ' else c

/-- The text of a cell on one line. -/
def flatten (s : String) : List Char := s.toList.map flatChar

/-- A cell filled with spaces to a width. -/
def padded (w : Nat) (side : Align) (s : List Char) : List Char :=
  let space := List.replicate (w - width s) ' '
  match side with
  | .left => s ++ space
  | .right => space ++ s

/-! ### Lines -/

/-- The widths of columns that also have room for a row. -/
def widen : List Nat → List String → List Nat
  | w :: ws, cell :: cells => max w (width cell.toList) :: widen ws cells
  | ws, _ => ws

/-- The widths of the columns of a table, each at least one. -/
def widths (t : TextTable) : List Nat :=
  t.rows.foldl widen (t.headers.map fun h => max (width h.toList) 1)

/-- Parts with two spaces between them. -/
def joined : List (List Char) → List Char
  | [] => []
  | [x] => x
  | x :: y :: xs => x ++ ' ' :: ' ' :: joined (y :: xs)

/-- The text without the spaces at its end. -/
def trimEnd (s : List Char) : List Char := (s.reverse.dropWhile (· == ' ')).reverse

/-- The cells of a row, flattened and filled; those beyond the columns are left out. -/
def filled : List Nat → List Align → List String → List (List Char)
  | w :: ws, side :: sides, cell :: cells =>
    padded w side (flatten cell) :: filled ws sides cells
  | _, _, _ => []

/-- The line of a row. -/
def line (ws : List Nat) (sides : List Align) (cells : List String) : List Char :=
  trimEnd (joined (filled ws sides cells))

/-- The rule under the header: at least three dashes for a column. -/
def rule (ws : List Nat) : List Char := joined (ws.map fun w => List.replicate (max w 3) '-')

/-- The lines of a table. -/
def lines (t : TextTable) : List (List Char) :=
  let ws := t.widths
  line ws t.aligns t.headers :: rule ws :: t.rows.map (line ws t.aligns)

/-- The table as text, each line ended by a line feed. -/
def render (t : TextTable) : String := String.ofList (t.lines.flatMap (· ++ ['\n']))

end TextTable

end Tabular
