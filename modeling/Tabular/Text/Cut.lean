/-!
# Parts of a text

Taking characters by position and dividing a text at a delimiter. Positions count characters, while
a text is kept in bytes, of which a character takes up to four. A part is therefore found by **the
byte offsets at which two of its characters begin**, in one pass, and then cut out by bytes. Positions
run over the end without harm. A text in which the delimiter does not occur is divided too: its first
part is then all but the last character and its second part is empty.
-/

namespace Tabular

namespace Text

/-! ### Bytes -/

/-- The number of bytes that the characters take up. -/
def byteLength : List Char → Nat
  | [] => 0
  | c :: s => c.utf8Size + byteLength s

/-- The characters in the first `n` bytes of `s`; none if the last one reaches further. -/
def takeBytes? : Nat → List Char → Option (List Char)
  | 0, _ => some []
  | _ + 1, [] => none
  | n + 1, c :: s =>
    if c.utf8Size ≤ n + 1 then (takeBytes? (n + 1 - c.utf8Size) s).map (c :: ·) else none

/-- The characters behind the first `n` bytes of `s`; none if a character reaches across. -/
def dropBytes? : Nat → List Char → Option (List Char)
  | 0, s => some s
  | _ + 1, [] => none
  | n + 1, c :: s => if c.utf8Size ≤ n + 1 then dropBytes? (n + 1 - c.utf8Size) s else none

/-- The characters of `s` from one byte offset up to another; none unless both are between two
characters, or at an end. -/
def slice? (s : List Char) (start stop : Nat) : Option (List Char) :=
  (dropBytes? start s).bind (takeBytes? (stop - start))

/-! ### Positions -/

/-- The byte offsets at which the characters at the positions `first` and `past` begin, if there are
such characters. The next character is at `position` and begins at `offset`, and `start` is what was
found for `first`; the search ends at `past`. -/
def findOffsets (first past position offset : Nat) (start : Option Nat) :
    List Char → Option Nat × Option Nat
  | [] => (start, none)
  | c :: s =>
    let start := if position = first then some offset else start
    if position = past then (start, some offset)
    else findOffsets first past (position + 1) (offset + c.utf8Size) start s

/-- The characters of `s` at the positions from `first` up to but not including `past`. -/
def substring (s : List Char) (first past : Nat) : List Char :=
  if past ≤ first then []
  else
    match findOffsets first past 0 0 none s with
    | (none, _) => []
    | (some start, stop) =>
      let stop := stop.getD (byteLength s)
      if start = 0 ∧ stop = byteLength s then s
      -- offsets that were found are never within a character
      else (slice? s start stop).getD []

/-! ### Delimiters -/

/-- What precedes and what follows the first occurrence of `delimiter` in `s`. -/
def cutAt (delimiter : List Char) : List Char → Option (List Char × List Char)
  | [] => if delimiter.isEmpty then some ([], []) else none
  | c :: s =>
    if delimiter.isPrefixOf (c :: s) then some ([], (c :: s).drop delimiter.length)
    else (cutAt delimiter s).map fun (head, tail) => (c :: head, tail)

/-- The two parts of `s` at the first `delimiter`; without one, all but the last character and
nothing. -/
def splitFirst (delimiter s : List Char) : List Char × List Char :=
  (cutAt delimiter s).getD (s.dropLast, [])

end Text

end Tabular
