/-!
# Runs of characters

A property of characters, or a mapping that moves them by a fixed distance, is **a list of runs**:
the code points from a first to a last one in steps of one or two. Alternating capitals and small
letters, which fill long stretches of the code space, are then one run each.
-/

namespace Tabular

/-- The code points `first`, `first + step`, … up to `last`. -/
structure CharRun where
  first : Nat
  last : Nat
  step : Nat
deriving Repr, DecidableEq

namespace CharRun

/-- Whether the run has the code point `n`. -/
def has (r : CharRun) (n : Nat) : Bool :=
  r.first ≤ n && n ≤ r.last && (n - r.first) % r.step == 0

/-- Whether one of the runs has the character `c`. -/
def covers (rs : List CharRun) (c : Char) : Bool :=
  rs.any fun r => r.has c.toNat

end CharRun

/-- A run whose characters are all moved by one distance. -/
structure ShiftedRun where
  run : CharRun
  shift : Int
deriving Repr, DecidableEq

namespace ShiftedRun

/-- The character `c` moved by the first run that has it; `c` itself if none has. -/
def move (rs : List ShiftedRun) (c : Char) : Char :=
  match rs.find? fun r => r.run.has c.toNat with
  | some r => Char.ofNat ((c.toNat : Int) + r.shift).toNat
  | none => c

end ShiftedRun

end Tabular
