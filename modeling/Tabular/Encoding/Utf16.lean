/-!
# Sixteen-bit code units

Characters beyond the first 65536 are written as **a pair of code units from two reserved ranges**,
a high one followed by a low one. A unit from these ranges that is not part of such a pair stands
for nothing.
-/

namespace Tabular

namespace Utf16

/-- Whether a unit is the first half of a pair. -/
def isHigh (n : Nat) : Bool := 0xD800 ≤ n && n < 0xDC00

/-- Whether a unit is the second half of a pair. -/
def isLow (n : Nat) : Bool := 0xDC00 ≤ n && n < 0xE000

/-- The character of a pair. -/
def paired (high low : Nat) : Char :=
  Char.ofNat (0x10000 + (high - 0xD800) * 0x400 + (low - 0xDC00))

/-- The characters of a list of units, if every half of a pair has its other half. -/
def characters? : List Nat → Option (List Char)
  | [] => some []
  | n :: ns =>
    if isHigh n then
      match ns with
      | m :: ns => if isLow m then (characters? ns).map (paired n m :: ·) else none
      | [] => none
    else if isLow n then none
    else (characters? ns).map (Char.ofNat n :: ·)

/-- The text of a list of units. -/
def text? (ns : List Nat) : Option String := (characters? ns).map String.ofList

/-- The units of a list of bytes, two bytes each, of which the first counts more if `bigEndian`. -/
def units? (bigEndian : Bool) : List UInt8 → Option (List Nat)
  | [] => some []
  | [_] => none
  | a :: b :: bytes =>
    let n := if bigEndian then a.toNat * 256 + b.toNat else b.toNat * 256 + a.toNat
    (units? bigEndian bytes).map (n :: ·)

end Utf16

end Tabular
