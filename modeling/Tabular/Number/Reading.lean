import Tabular.Number.Binary
import Tabular.Text.Blank

/-!
# Reading numbers

What counts as a whole number and as a decimal number in a text. A whole number is **an optional
sign and digits, within 64 bits**; a decimal number also takes a point, an exponent and the names
of infinity and of the undefined value, and is rounded to the nearest double. Only the digits of
ASCII count, and blanks are the caller's concern.
-/

namespace Tabular

namespace Number

/-- Whether `c` is a decimal digit of ASCII. -/
def isDigit (c : Char) : Bool := '0' ≤ c && c ≤ '9'

/-- The number written by a list of digits. -/
def ofDigits (cs : List Char) : Nat :=
  cs.foldl (fun n c => 10 * n + (c.toNat - '0'.toNat)) 0

/-- An optional sign, true for minus, and what follows it. -/
def takeSign : List Char → Bool × List Char
  | '-' :: cs => (true, cs)
  | '+' :: cs => (false, cs)
  | cs => (false, cs)

/-- The digits at the beginning of a text and what follows them. -/
def takeDigits (cs : List Char) : List Char × List Char :=
  (cs.takeWhile isDigit, cs.dropWhile isDigit)

/-! ### Whole numbers -/

/-- The natural number written by a nonempty text of digits. -/
def readNat? (cs : List Char) : Option Nat :=
  if cs.isEmpty || !cs.all isDigit then none else some (ofDigits cs)

/-- The whole number written by a sign and digits. -/
def readInt? (cs : List Char) : Option Int :=
  let (negative, cs) := takeSign cs
  (readNat? cs).map fun n => if negative then -(n : Int) else n

/-- The whole number `n`, if it has 64 bits with its sign. -/
def toInt64? (n : Int) : Option Int64 :=
  if -2 ^ 63 ≤ n ∧ n < 2 ^ 63 then some (Int64.ofInt n) else none

/-- The integer of 64 bits written by a text. -/
def readInt64? (cs : List Char) : Option Int64 := (readInt? cs).bind toInt64?

/-! ### Decimal numbers -/

/-- The double nearest to `n · 10 ^ e`. Exponents far outside the range of doubles are decided
before any power is computed. -/
def ofScientific (negative : Bool) (n : Nat) (e : Int) : Float :=
  if n = 0 then Binary.nearest negative 0 1
  else if 400 < e then Binary.nearest negative (2 ^ 1100) 1
  else if e + (n.log2 + 1) < -400 then Binary.nearest negative 0 1
  else if 0 ≤ e then Binary.nearest negative (n * Nat.pow 10 e.toNat) 1
  else Binary.nearest negative n (Nat.pow 10 (-e).toNat)

/-- The exponent part of a decimal number, which takes the rest of the text. -/
def readExponent? : List Char → Option Int
  | [] => some 0
  | c :: cs => if c = 'e' ∨ c = 'E' then readInt? cs else none

/-- The fraction digits after an optional point, and what follows them. -/
def takeFraction : List Char → List Char × List Char
  | '.' :: cs => takeDigits cs
  | cs => ([], cs)

/-- The double written by digits with an optional point and exponent. -/
def readDecimal? (negative : Bool) (cs : List Char) : Option Float :=
  let (whole, cs) := takeDigits cs
  let (fraction, cs) := takeFraction cs
  if whole.isEmpty && fraction.isEmpty then none
  else
    (readExponent? cs).map fun e =>
      ofScientific negative (ofDigits (whole ++ fraction)) (e - fraction.length)

/-- The double written by a text: a decimal number, or the name of infinity or of the undefined
value in any case. -/
def readFloat? (cs : List Char) : Option Float :=
  let (negative, cs) := takeSign cs
  let name := Text.toAsciiSmall cs
  if name = "inf".toList ∨ name = "infinity".toList then
    some (Binary.nearest negative (2 ^ 1100) 1)
  else if name = "nan".toList then some (0 / 0)
  else readDecimal? negative cs

end Number

end Tabular
