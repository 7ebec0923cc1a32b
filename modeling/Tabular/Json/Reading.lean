import Tabular.Encoding.Utf16
import Tabular.Json.Basic
import Tabular.Json.Source

/-!
# What a JSON text stands for

A written text is given its meaning level by level. `Layer` is **one level of a document**, whose
parts may be documents or may still be text; a reader written over `Layered` works on both. Strings
must spell out characters, numbers must be read without overflow, and a text may be nested to
`maxNesting` levels at most.

A number that is no integer of 64 bits is **not read as the double nearest to it**: its digits are cut
off where they exceed 64 bits, and what they make up is rounded before it is multiplied or divided by
a power of ten (`Numeral.float?`). The product may overflow although the number is in the range of
doubles.
-/

namespace Tabular

/-- One level of a JSON document with parts of type `δ`. -/
inductive Layer (δ : Type) where
  | null
  | bool (b : Bool)
  | int (n : Int)
  | float (x : Float)
  | text (s : String)
  | array (items : List δ)
  | object (members : List (String × δ))

/-- What can be read as JSON, level by level or as a whole. -/
class Layered (δ : Type) where
  layer : δ → Option (Layer δ)
  json? : δ → Option Json

/-- Whether `d` can be read as a whole. -/
def Layered.isReadable {δ : Type} [Layered δ] (d : δ) : Bool := (json? d).isSome

namespace Json

/-- The top level of a document. -/
def layer : Json → Layer Json
  | null => .null
  | bool b => .bool b
  | int n => .int n
  | float x => .float x
  | text s => .text s
  | array items => .array items
  | object members => .object members

instance : Layered Json := ⟨fun j => some j.layer, some⟩

end Json

namespace Source

/-! ### Strings and numbers -/

/-- The characters that pieces spell out; the two halves of a surrogate pair make up one. -/
def characters? : List Piece → Option (List Char)
  | [] => some []
  | .char c :: ps => (characters? ps).map (c :: ·)
  | .unit n :: ps =>
    if Utf16.isHigh n then
      match ps with
      | .unit m :: ps =>
        if Utf16.isLow m then (characters? ps).map (Utf16.paired n m :: ·) else none
      | _ => none
    else if Utf16.isLow n then none
    else (characters? ps).map (Char.ofNat n :: ·)

/-- The text that pieces spell out. -/
def text? (ps : List Piece) : Option String := (characters? ps).map String.ofList

end Source

namespace Numeral

/-- The number `n` with digits written behind it as long as it has 64 bits, and the digits from the
first one on that would exceed them. -/
def appended (n : Nat) : List Char → Nat × List Char
  | [] => (n, [])
  | c :: cs =>
    let m := 10 * n + (c.toNat - '0'.toNat)
    if m < 2 ^ 64 then appended m cs else (n, c :: cs)

/-- The double nearest to `10 ^ k`. -/
def power (k : Nat) : Float := Binary.nearest false (Nat.pow 10 k) 1

/-- The double `x` divided by `10 ^ k`, if need be in several `rounds`: the greatest power of ten that
is a double is divided by as long as more is asked for and anything is left. -/
def divided (x : Float) (k : Nat) : (rounds : Nat) → Float
  | 0 => x / power k
  | rounds + 1 =>
    if k ≤ 308 then x / power k
    else if x == 0 then x
    else divided (x / power 308) (k - 308) rounds

/-- The double `x` multiplied or divided by a power of ten, unless it becomes infinite. -/
def scaled? (x : Float) (e : Int) : Option Float :=
  if e < 0 then
    let k := (-e).toNat
    some (divided x k (k / 308))
  else if e ≤ 308 then
    let product := x * power e.toNat
    if product.isInf then none else some product
  else if x == 0 then some x
  else none

/-- The double that a number is read as. Whole digits that exceed 64 bits still count as places,
while digits of the fraction that do are passed over. -/
def float? (n : Numeral) : Option Float :=
  let fraction := n.fraction.getD []
  let (whole, places) := appended 0 n.whole
  let (significand, passed) := appended whole fraction
  let e : Int := places.length - (fraction.length - passed.length) + n.exponent.getD 0
  (scaled? (Binary.nearest false significand 1) e).map fun x => if n.negative then -x else x

/-- The number as one level of a document: an integer if it is written as one and has 64 bits,
with or without a sign; else a double. Zero with a minus sign is a double. -/
def layer? (δ : Type) (n : Numeral) : Option (Layer δ) :=
  let value := Number.ofDigits n.whole
  if n.fraction.isNone && n.exponent.isNone then
    if n.negative then
      if value ≠ 0 ∧ value ≤ 2 ^ 63 then some (.int (-(value : Int))) else n.float?.map .float
    else if value < 2 ^ 64 then some (.int value) else n.float?.map .float
  else n.float?.map .float

/-- The number as a document. -/
def json? (n : Numeral) : Option Json :=
  match n.layer? Json with
  | some (.int i) => some (.int i)
  | some (.float x) => some (.float x)
  | _ => none

end Numeral

namespace Source

/-! ### Whole texts -/

/-- The number of arrays and objects that may be open at once. -/
def maxNesting : Nat := 127

mutual

/-- The document that a text stands for, if it is nested to at most `levels` levels. -/
def json? (levels : Nat) : Source → Option Json
  | null => some .null
  | bool b => some (.bool b)
  | number n => n.json?
  | string ps => (text? ps).map .text
  | array items => if levels = 0 then none else (jsonItems? (levels - 1) items).map .array
  | object members =>
    if levels = 0 then none else (jsonMembers? (levels - 1) members).map Json.ofMembers

/-- The documents of a list of items. -/
def jsonItems? (levels : Nat) : List Source → Option (List Json)
  | [] => some []
  | x :: xs => do return (← json? levels x) :: (← jsonItems? levels xs)

/-- The names and documents of a list of members. -/
def jsonMembers? (levels : Nat) : List (List Piece × Source) → Option (List (String × Json))
  | [] => some []
  | (k, x) :: ms => do return (← text? k, ← json? levels x) :: (← jsonMembers? levels ms)

end

end Source

/-- A part of a text together with the levels it may still be nested. -/
structure Excerpt where
  levels : Nat
  source : Source

namespace Excerpt

/-- The names of members with their values, which are one level further down. -/
def members? (levels : Nat) (ms : List (List Piece × Source)) : Option (List (String × Excerpt)) :=
  ms.mapM fun m => (Source.text? m.1).map fun k => (k, ⟨levels, m.2⟩)

/-- The top level of an excerpt. -/
def layer (e : Excerpt) : Option (Layer Excerpt) :=
  match e.source with
  | .null => some .null
  | .bool b => some (.bool b)
  | .number n => n.layer? Excerpt
  | .string ps => (Source.text? ps).map .text
  | .array items => if e.levels = 0 then none else some (.array (items.map (⟨e.levels - 1, ·⟩)))
  | .object ms => if e.levels = 0 then none else (members? (e.levels - 1) ms).map .object

instance : Layered Excerpt := ⟨layer, fun e => e.source.json? e.levels⟩

/-- The whole of a text. -/
def ofText? (s : List Char) : Option Excerpt := (Source.read s).map (⟨Source.maxNesting, ·⟩)

end Excerpt

namespace Json

/-- The document that a text stands for. -/
def ofText? (s : List Char) : Option Json :=
  (Source.read s).bind (Source.json? Source.maxNesting)

end Json

end Tabular
