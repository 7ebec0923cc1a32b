/-!
# Blank characters

The **white space of Unicode**: what separates the words of a title and what is cut from both ends
of a text before it is read as a number or a name. Zero-width characters and the information
separators of ASCII are not blank.
-/

namespace Tabular

namespace Text

/-- Whether `c` is white space. -/
def isBlank (c : Char) : Bool :=
  let n := c.toNat
  (9 ≤ n && n ≤ 13) || n == 0x20 || n == 0x85 || n == 0xA0 || n == 0x1680 ||
    (0x2000 ≤ n && n ≤ 0x200A) || n == 0x2028 || n == 0x2029 || n == 0x202F || n == 0x205F ||
    n == 0x3000

/-- The characters of `s` from the first to the last one that does not satisfy `p`. -/
def strip (p : Char → Bool) (s : List Char) : List Char :=
  ((s.dropWhile p).reverse.dropWhile p).reverse

/-- The characters of `s` without the blanks at both ends. -/
def trim (s : List Char) : List Char := strip isBlank s

/-- A capital of the ASCII alphabet as a small letter; every other character as it is. -/
def asciiSmall (c : Char) : Char :=
  if 'A' ≤ c ∧ c ≤ 'Z' then Char.ofNat (c.toNat + 32) else c

/-- The text `s` with the capitals of the ASCII alphabet made small. -/
def toAsciiSmall (s : List Char) : List Char := s.map asciiSmall

end Text

end Tabular
