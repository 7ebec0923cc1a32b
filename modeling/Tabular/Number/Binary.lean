/-!
# Doubles as exact numbers

Every finite double is **a whole number times a power of two**, up to its sign. Printing, rounding
down and sorting work on that exact value, which `Binary.ofFloat` reads off the bits. In the other
direction `nearest` gives the double closest to a quotient of whole numbers, and between two
equally close ones the double with an even last bit.
-/

namespace Tabular

-- a power of numerals is one of numbers, also where a library has other powers in sight
attribute [default_instance 20000] instPowNat

/-- What a double stands for: `finite negative m q` is `m · 2 ^ q`, negated if `negative`. -/
inductive Binary where
  | finite (negative : Bool) (significand : Nat) (exponent : Int)
  | infinite (negative : Bool)
  | undefined
deriving Repr, DecidableEq

namespace Binary

/-- The value of a double, read off its sign bit, eleven exponent bits and 52 fraction bits. -/
def ofFloat (x : Float) : Binary :=
  let bits := x.toBits.toNat
  let negative := bits / 2 ^ 63 == 1
  let exponent : Nat := bits / 2 ^ 52 % 2 ^ 11
  let fraction : Nat := bits % 2 ^ 52
  if exponent = 2047 then
    if fraction = 0 then infinite negative else undefined
  else if exponent = 0 then finite negative fraction (-1074)
  else finite negative (2 ^ 52 + fraction) ((exponent : Int) - 1075)

/-! ### Whole parts -/

/-- The whole part of `m · 2 ^ q`. -/
def wholePart (m : Nat) (q : Int) : Nat :=
  if 0 ≤ q then m * Nat.pow 2 q.toNat else m / Nat.pow 2 (-q).toNat

/-- Whether `m · 2 ^ q` is a whole number. -/
def isWhole (m : Nat) (q : Int) : Bool :=
  0 ≤ q || m % Nat.pow 2 (-q).toNat == 0

/-! ### Rounding -/

/-- The whole number nearest to `a / b`, the even one if two are equally near. -/
def roundDiv (a b : Nat) : Nat :=
  let n := a / b
  let twice := 2 * (a % b)
  if b < twice || (twice == b && n % 2 == 1) then n + 1 else n

/-- The two whole numbers whose quotient is `a / b / 2 ^ q`. -/
def descale (a b : Nat) (q : Int) : Nat × Nat :=
  if 0 ≤ q then (a, b * Nat.pow 2 q.toNat) else (a * Nat.pow 2 (-q).toNat, b)

/-- The exponent `q` for which `a / b` lies between `2 ^ 52` and `2 ^ 53` times `2 ^ q`; never
below that of the smallest double. -/
def exponentOf (a b : Nat) : Int :=
  let q : Int := (a.log2 : Int) - b.log2 - 52
  let (n, d) := descale a b q
  max (-1074) (if n < 2 ^ 52 * d then q - 1 else q)

/-- The bits, without the sign, of the double nearest to `a / b`. A number too large for a finite
double gives those of infinity. -/
def nearestBits (a b : Nat) : Nat :=
  if a = 0 then 0
  else
    let q := exponentOf a b
    let (n, d) := descale a b q
    min ((q + 1074).toNat * 2 ^ 52 + roundDiv n d) (2047 * 2 ^ 52)

/-- The double nearest to `a / b`, negated if `negative`. -/
def nearest (negative : Bool) (a b : Nat) : Float :=
  Float.ofBits (UInt64.ofNat ((if negative then 2 ^ 63 else 0) + nearestBits a b))

end Binary

namespace Double

/-- The double nearest to a whole number. -/
def nearestInt (n : Int) : Float := Binary.nearest (n < 0) n.natAbs 1

/-- Whether the double is a finite whole number. -/
def isWhole (x : Float) : Bool :=
  match Binary.ofFloat x with
  | .finite _ m q => Binary.isWhole m q
  | _ => false

/-- The double without its fraction; infinities are kept. -/
def truncated (x : Float) : Float :=
  match Binary.ofFloat x with
  | .finite negative m q => Binary.nearest negative (Binary.wholePart m q) 1
  | _ => x

/-- The place of a number among all doubles, in which negative zero comes before zero. -/
def rank (x : Float) : Int :=
  let bits := x.toBits.toNat
  if bits < 2 ^ 63 then bits else -((bits - 2 ^ 63 : Nat) : Int) - 1

end Double

end Tabular
