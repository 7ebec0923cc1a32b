import Tabular.Number.Binary

/-!
# Decimals

A decimal is **a whole number of digits times a power of ten**. This module writes decimals out:
positionally, in scientific form, and with a fixed number of places. It also finds the shortest
decimal of a double: on the coarsest grid of powers of ten that meets the interval of numbers
rounding to the double, the grid point closest to it. Coarser grids have fewer digits, so no
shorter decimal reads back as the same double.
-/

namespace Tabular

/-- The number `digits · 10 ^ exponent`. -/
structure Decimal where
  digits : Nat
  exponent : Int
deriving Repr, DecidableEq

namespace Decimal

/-! ### The shortest decimal of a double -/

/-- Which of two equally close grid points is taken: the greater one, or the even multiple. -/
inductive Tie where
  | greater
  | even
deriving Repr, DecidableEq

/-- Whether the point `below`, which lies `rest` under a value, is taken rather than the next one,
which lies one `unit` higher. -/
def Tie.takesBelow (tie : Tie) (below rest unit : Nat) : Bool :=
  2 * rest < unit || (tie == .even && 2 * rest == unit && below % 2 == 0)

/-- The multiple of a grid that is closest to `value` among its two neighbours within the
interval. All three numbers are given over the common denominator `unit`, and the grid is that of
the whole numbers. -/
def gridPoint (tie : Tie) (closed : Bool) (low value high unit : Nat) : Option Nat :=
  let below := value / unit
  let above := below + 1
  let belowMeets := if closed then low ≤ below * unit else low < below * unit
  let aboveMeets := if closed then above * unit ≤ high else above * unit < high
  match decide belowMeets, decide aboveMeets with
  | true, true => if tie.takesBelow below (value % unit) unit then some below else some above
  | true, false => some below
  | false, true => some above
  | false, false => none

/-- The first grid point found from the grid of `10 ^ exponent` towards finer ones, in at most
`tries` further steps. -/
def coarsest (tie : Tie) (closed : Bool) (low value high unit : Nat) (exponent : Int) :
    Nat → Decimal
  | 0 => ⟨0, 0⟩
  | tries + 1 =>
    let up := Nat.pow 10 exponent.toNat
    let down := Nat.pow 10 (-exponent).toNat
    match gridPoint tie closed (low * down) (value * down) (high * down) (unit * up) with
    | some n => ⟨n, exponent⟩
    | none => coarsest tie closed low value high unit (exponent - 1) tries

/-- A power of ten above every number below `2 ^ (q + 55)`, by its exponent. -/
def topExponent (q : Int) : Int := (q + 55) * 302 / 1000 + 1

/-- The shortest decimal that reads back as the double `m · 2 ^ q`. A double at the lower end of
its binade has a neighbour below at half the distance, and an even double owns the ends of its
interval. -/
def shortest (tie : Tie) (m : Nat) (q : Int) : Decimal :=
  if m = 0 then ⟨0, 0⟩
  else
    let lowStep := if m = 2 ^ 52 ∧ q ≠ -1074 then 1 else 2
    let (value, unit) :=
      if 0 ≤ q then (4 * m * Nat.pow 2 q.toNat, 4) else (4 * m, 4 * Nat.pow 2 (-q).toNat)
    let step := if 0 ≤ q then Nat.pow 2 q.toNat else 1
    coarsest tie (m % 2 == 0) (value - lowStep * step) value (value + 2 * step) unit
      (topExponent q) 1400

/-! ### Layouts -/

/-- The digits of a decimal, first digit first. -/
def digitChars (d : Decimal) : List Char := Nat.toDigits 10 d.digits

/-- A decimal written without an exponent. -/
def positional (d : Decimal) : List Char :=
  let ds := d.digitChars
  if d.digits = 0 then ['0']
  else if 0 ≤ d.exponent then ds ++ List.replicate d.exponent.toNat '0'
  else
    let point := (ds.length : Int) + d.exponent
    if 0 < point then ds.take point.toNat ++ '.' :: ds.drop point.toNat
    else '0' :: '.' :: List.replicate (-point).toNat '0' ++ ds

/-- The exponent of the first digit of a decimal; zero for zero. -/
def leading (d : Decimal) : Int :=
  if d.digits = 0 then 0 else (d.digitChars.length : Int) - 1 + d.exponent

/-- The digits of a decimal with a point after the first one. -/
def pointed (d : Decimal) : List Char :=
  match d.digitChars with
  | [] => []
  | [c] => [c]
  | c :: cs => c :: '.' :: cs

/-- A whole number in decimal digits, with a minus sign if it is negative. -/
def intChars (n : Int) : List Char :=
  if n < 0 then '-' :: Nat.toDigits 10 n.natAbs else Nat.toDigits 10 n.natAbs

/-- The number `m · 2 ^ q` rounded to a fixed number of places, a half to the even neighbour. -/
def fixed (places m : Nat) (q : Int) : List Char :=
  let (a, b) := if 0 ≤ q then (m * Nat.pow 2 q.toNat, 1) else (m, Nat.pow 2 (-q).toNat)
  let ds := Nat.toDigits 10 (Binary.roundDiv (a * Nat.pow 10 places) b)
  let ds := List.replicate (places + 1 - ds.length) '0' ++ ds
  if places = 0 then ds
  else ds.take (ds.length - places) ++ '.' :: ds.drop (ds.length - places)

end Decimal

end Tabular
