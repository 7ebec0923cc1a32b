import Tabular.Text.Blank

/-!
# Paths

What a path tells about its file by its spelling alone. A path is taken apart at its slashes;
**empty parts and single dots do not count**, except for a dot at the beginning. The extension of a
file is what follows the last dot of its name, if something precedes that dot.
-/

namespace Tabular

namespace FilePath

/-- The parts between the slashes of a text. -/
def pieces (s : List Char) : List (List Char) :=
  match s with
  | [] => [[]]
  | c :: s =>
    if c = '/' then [] :: pieces s
    else
      match pieces s with
      | [] => [[c]]
      | p :: ps => (c :: p) :: ps

/-- The parts of a path that count. A path that begins with a slash has an empty first part. -/
def components (path : String) : List (List Char) :=
  match path.toList with
  | [] => []
  | s =>
    match pieces s with
    | [] => []
    | p :: ps => p :: ps.filter fun p => p ≠ [] ∧ p ≠ ['.']

/-- The name of the file, if the path ends in a name. -/
def fileName? (path : String) : Option (List Char) :=
  match (components path).getLast? with
  | some p => if p = [] ∨ p = ['.'] ∨ p = ['.', '.'] then none else some p
  | none => none

/-- The extension of the file. -/
def extension? (path : String) : Option (List Char) :=
  (fileName? path).bind fun name =>
    let after := (name.reverse.takeWhile (· != '.')).reverse
    let before := name.take (name.length - after.length)
    if before.length ≤ 1 then none else some after

/-- Whether the file has an extension, in any case. -/
def hasExtension (path : String) (ext : String) : Bool :=
  match extension? path with
  | some e => Text.toAsciiSmall e == ext.toList
  | none => false

/-- Whether the path stands for the standard input. -/
def isDash (path : String) : Bool := components path == [['-']]

end FilePath

end Tabular
