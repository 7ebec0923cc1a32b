/-!
# Notes

What a program says about its work while it works: a level and a text. Notes are **values that a
computation returns**; the outermost layer decides which of them are shown.
-/

namespace Tabular

/-- How much a note matters. -/
inductive Level where
  | debug
  | info
  | warn
deriving Repr, DecidableEq

/-- The name of a level. -/
def Level.name : Level → String
  | debug => "DEBUG"
  | info => "INFO"
  | warn => "WARN"

/-- A remark on the course of a computation. -/
structure Note where
  level : Level
  text : String
deriving Repr, DecidableEq

/-- The note as a line: its level and its text. -/
def Note.line (n : Note) : String := n.level.name ++ " " ++ n.text

end Tabular
