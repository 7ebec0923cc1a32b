import Tabular.Inference

/-!
# Histograms

The distribution of a column over **five bins of equal width** between its least and its greatest
measure. The measure of a text is its length, that of a number its value; missing cells have none.
A column of truth values has no measure and therefore no histogram, but keeps a slot that says so.
The extremes are found in the total order of doubles, so they do not hang on the order of the rows.
-/

namespace Tabular

/-- The number of values in each bin, and the bins' bounds as text. -/
structure Histogram where
  counts : List Nat
  labels : List String
deriving Repr, DecidableEq, Inhabited

/-- What is kept of the distribution of a column. -/
inductive Distribution where
  | binned (h : Histogram)
  | unsupported (type : ColumnType)
deriving Repr, DecidableEq, Inhabited

namespace Histogram

/-- The number of bins. -/
def bins : Nat := 5

/-- The number of values in all bins. -/
def total (h : Histogram) : Nat := h.counts.foldr (· + ·) 0

/-! ### Measures -/

/-- The measure of a value as an integer; doubles lose their fraction. -/
def integerMeasure? : Cell → Option Float
  | .int n => some (Double.nearestInt n.toInt)
  | .float x => if x.isFinite then some (Double.truncated x) else none
  | .text s => (Number.readInt64? (Text.trim s.toList)).map fun n => Double.nearestInt n.toInt
  | _ => none

/-- The measure of a value as a decimal number. -/
def decimalMeasure? : Cell → Option Float
  | .int n => some (Double.nearestInt n.toInt)
  | .float x => if x.isFinite then some x else none
  | .text s => Kind.finite? (Text.trim s.toList)
  | _ => none

/-- The measure of a value as a text: the number of its characters. -/
def textMeasure? (c : Cell) : Option Float :=
  if c.isMissing then none else some (Double.nearestInt c.toText.length)

/-- The measures of the cells of a column of some type, if the type has any. -/
def measures? (type : ColumnType) (cells : List Cell) : Option (List Float) :=
  match type with
  | .text => some (cells.filterMap textMeasure?)
  | .int => some (cells.filterMap integerMeasure?)
  | .float => some (cells.filterMap decimalMeasure?)
  | .boolean => none

/-! ### Bins -/

/-- The least and the greatest of a list of measures; zero if there is none. -/
def extent : List Float → Float × Float
  | [] => (0, 0)
  | x :: xs =>
    xs.foldl (fun (low, high) x =>
      (if Double.rank x < Double.rank low then x else low,
        if Double.rank high < Double.rank x then x else high)) (x, x)

/-- The width of a bin; one if all measures are equal. -/
def binWidth (low high : Float) : Float :=
  if 0 < high - low then (high - low) / 5 else 1

/-- The bin that the whole part of an offset, counted in bins, falls into. The last bin takes all
that lies beyond, and the first what is below it or no number. -/
def binOf (offset : Float) : Nat :=
  match Binary.ofFloat offset with
  | .finite false m q => min (bins - 1) (Binary.wholePart m q)
  | _ => 0

/-- The bounds of a bin as text. The last bin ends at the greatest measure itself. -/
def label (low high : Float) (bin : Nat) : String :=
  let width := binWidth low high
  let lower := low + width * Double.nearestInt bin
  let upper :=
    if bin + 1 = bins ∧ 0 < high - low then high else low + width * Double.nearestInt (bin + 1)
  Double.boundText lower ++ " - " ++ Double.boundText upper

/-- The histogram of a list of measures. -/
def ofMeasures (xs : List Float) : Histogram :=
  let (low, high) := extent xs
  let places := xs.map fun x => binOf ((x - low) / binWidth low high)
  ⟨(List.range bins).map places.count, (List.range bins).map (label low high)⟩

/-! ### Histograms and JSON -/

/-- The fields of a histogram as members. -/
def toMembers (h : Histogram) : List (String × Json) :=
  [("counts", .array (h.counts.map .ofNat)), ("labels", .array (h.labels.map .text))]

/-- The histogram as a record. -/
def toJson (h : Histogram) : Json := .object h.toMembers

/-- The histogram with the given fields. -/
def ofFields? {δ : Type} [Layered δ] : List (Option δ) → Option Histogram
  | [some counts, some labels] => do
    return ⟨← Layered.list? Layered.nat64? counts, ← Layered.list? Layered.text? labels⟩
  | _ => none

/-- The histogram that a record is. -/
def decode? {δ : Type} [Layered δ] (d : δ) : Option Histogram :=
  (Layered.fields? ["counts", "labels"] d).bind ofFields?

end Histogram

namespace Distribution

/-- The histogram, if there is one. -/
def binned? : Distribution → Option Histogram
  | binned h => some h
  | unsupported _ => none

/-- The distribution as a record tagged by its status. -/
def toJson : Distribution → Json
  | binned h => .object (("status", .text "binned") :: h.toMembers)
  | unsupported type =>
    .object [("status", .text "unsupported"), ("column_type", .text type.name)]

/-- The distribution with a status and the remaining fields, which `fields?` finds by name. The
type of a column may here also be the name of an empty object. -/
def ofStatus? {δ : Type} [Layered δ] (status : String)
    (fields? : List String → Option (List (Option δ))) : Option Distribution :=
  if status = "binned" then
    (fields? ["counts", "labels"]).bind fun fs => (Histogram.ofFields? fs).map binned
  else if status = "unsupported" then
    (fields? ["column_type"]).bind fun
      | [some type] =>
        ((Layered.caseNameBy? Layered.isVoid type).bind ColumnType.ofName?).map unsupported
      | _ => none
  else none

/-- The distribution that a record is, either an object with its status among the members or an
array that begins with the status. What comes beside the status must be readable. -/
def decode? {δ : Type} [Layered δ] (d : δ) : Option Distribution :=
  match Layered.layer d with
  | some (.object ms) =>
    let others := ms.filter (·.1 != "status")
    match Layered.member? "status" ms with
    | some (some status) =>
      if others.all fun m => Layered.isReadable m.2 then
        (Layered.text? status).bind fun s => ofStatus? s (Layered.fieldsOfMembers? · others)
      else none
    | _ => none
  | some (.array (status :: items)) =>
    if items.all Layered.isReadable then
      (Layered.text? status).bind fun s => ofStatus? s (Layered.fieldsOfItems? · items)
    else none
  | _ => none

end Distribution

/-- The refusal to draw the histogram of a column whose type has no measure. -/
structure Unmeasured where
  type : ColumnType
deriving Repr, DecidableEq

/-- The message of the refusal. -/
def Unmeasured.message (u : Unmeasured) : String :=
  "histogram bucketing is not supported for " ++ u.type.name ++ " columns"

namespace Table

/-- The histogram of a column by its measures as a type. -/
def histogram (t : Table) (column : String) (type : ColumnType) : Except Unmeasured Histogram :=
  match Histogram.measures? type (t.column column) with
  | some xs => .ok (Histogram.ofMeasures xs)
  | none => .error ⟨type⟩

/-- The distribution of a column by its measures as a type. -/
def distribution (t : Table) (column : String) (type : ColumnType) : Distribution :=
  match Histogram.measures? type (t.column column) with
  | some xs => .binned (Histogram.ofMeasures xs)
  | none => .unsupported type

end Table

end Tabular
