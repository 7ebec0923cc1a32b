import Tabular.Number.Reading
import Tabular.Number.Decimal

/-!
# Points in time

An instant is counted in **seconds and nanoseconds from the beginning of 1970**, without an offset.
It is written as a date and a time of day in the usual form, with three, six or nine places of the
second if it has any. Reading is more generous: it takes any offset from the meridian, and blanks
around the parts.
-/

namespace Tabular

/-- A point in time. A leap second is the second before it with a thousand million nanoseconds
more. -/
structure Instant where
  seconds : Int
  nanoseconds : Nat
deriving Repr, DecidableEq, Inhabited

namespace Instant

/-! ### Dates -/

/-- The number of a day, counted from the beginning of 1970, in the Gregorian calendar. -/
def dayNumber (year : Int) (month day : Nat) : Int :=
  let y := if month ≤ 2 then year - 1 else year
  let era := y / 400
  let yearOfEra := y % 400
  let monthFromMarch : Int := if month ≤ 2 then month + 9 else month - 3
  let dayOfYear := (153 * monthFromMarch + 2) / 5 + day - 1
  era * 146097 + (yearOfEra * 365 + yearOfEra / 4 - yearOfEra / 100 + dayOfYear) - 719468

/-- The year, month and day of the day with a number. -/
def date (number : Int) : Int × Int × Int :=
  let z := number + 719468
  let era := z / 146097
  let dayOfEra := z % 146097
  let yearOfEra := (dayOfEra - dayOfEra / 1460 + dayOfEra / 36524 - dayOfEra / 146096) / 365
  let dayOfYear := dayOfEra - (365 * yearOfEra + yearOfEra / 4 - yearOfEra / 100)
  let monthFromMarch := (5 * dayOfYear + 2) / 153
  let day := dayOfYear - (153 * monthFromMarch + 2) / 5 + 1
  let month := if monthFromMarch < 10 then monthFromMarch + 3 else monthFromMarch - 9
  (yearOfEra + era * 400 + (if month ≤ 2 then 1 else 0), month, day)

/-- Whether a date exists and its year is one that instants reach. -/
def isDate (year : Int) (month day : Nat) : Bool :=
  -262143 ≤ year && year ≤ 262142 && date (dayNumber year month day) == (year, ↑month, ↑day)

/-! ### Written form -/

/-- A number with zeros before it up to a width. -/
def padded (width n : Nat) : List Char :=
  let ds := Nat.toDigits 10 n
  List.replicate (width - ds.length) '0' ++ ds

/-- A year: four digits, or a sign and at least four. -/
def yearText (year : Int) : List Char :=
  if 0 ≤ year ∧ year ≤ 9999 then padded 4 year.toNat
  else (if year < 0 then '-' else '+') :: padded 4 year.natAbs

/-- The places of a second: none, three, six or nine. -/
def placesText (nanoseconds : Nat) : List Char :=
  if nanoseconds = 0 then []
  else if nanoseconds % 1000000 = 0 then '.' :: padded 3 (nanoseconds / 1000000)
  else if nanoseconds % 1000 = 0 then '.' :: padded 6 (nanoseconds / 1000)
  else '.' :: padded 9 nanoseconds

/-- The written form of an instant. -/
def toText (i : Instant) : String :=
  let (year, month, day) := date (i.seconds / 86400)
  let time := (i.seconds % 86400).toNat
  let leap := i.nanoseconds / 1000000000
  String.ofList <|
    yearText year ++ '-' :: padded 2 month.toNat ++ '-' :: padded 2 day.toNat ++
    'T' :: padded 2 (time / 3600) ++ ':' :: padded 2 (time / 60 % 60) ++
    ':' :: padded 2 (time % 60 + leap) ++ placesText (i.nanoseconds % 1000000000) ++ ['Z']

/-! ### Reading -/

/-- The text without the blanks at its beginning. -/
def skipBlanks (s : List Char) : List Char := s.dropWhile Text.isBlank

/-- A number of one to `width` digits and what follows it. -/
def digits? (width : Nat) (s : List Char) : Option (Nat × List Char) :=
  match (s.take width).takeWhile Number.isDigit with
  | [] => none
  | ds => some (Number.ofDigits ds, s.drop ds.length)

/-- A number of two digits at most, after blanks, that lies between two limits. -/
def part? (least most : Nat) (s : List Char) : Option (Nat × List Char) := do
  let (n, s) ← digits? 2 (skipBlanks s)
  if least ≤ n ∧ n ≤ most then return (n, s) else none

/-- A year after blanks, which may have any number of digits after a sign, and else four. -/
def year? (s : List Char) : Option (Int × List Char) :=
  match skipBlanks s with
  | '-' :: s => (digits? s.length s).map fun (n, s) => (-(n : Int), s)
  | '+' :: s => (digits? s.length s).map fun (n, s) => ((n : Int), s)
  | s => (digits? 4 s).map fun (n, s) => ((n : Int), s)

/-- The text after a character, which may follow blanks. -/
def after? (c : Char) (s : List Char) : Option (List Char) :=
  match skipBlanks s with
  | d :: s => if d = c then some s else none
  | [] => none

/-- The places of a second in nanoseconds, if a point follows; places after the ninth are
dropped. -/
def places? : List Char → Option (Nat × List Char)
  | '.' :: s =>
    match s.takeWhile Number.isDigit with
    | [] => none
    | ds => some (Number.ofDigits ((ds ++ List.replicate 9 '0').take 9), s.drop ds.length)
  | s => some (0, s)

/-- Two digits as a number up to a limit, and what follows them. -/
def twoDigits? (most : Nat) : List Char → Option (Nat × List Char)
  | a :: b :: s =>
    if Number.isDigit a && Number.isDigit b && Number.ofDigits [a, b] ≤ most then
      some (Number.ofDigits [a, b], s)
    else none
  | _ => none

/-- An offset from the meridian in seconds: a letter or name for none, or a sign with hours and
minutes. -/
def offset? (s : List Char) : Option (Int × List Char) :=
  let s := skipBlanks s
  if Text.toAsciiSmall (s.take 3) = ['u', 't', 'c'] then some (0, s.drop 3)
  else
    match s with
    | [] => none
    | c :: s =>
      if c = 'Z' ∨ c = 'z' then some (0, s)
      else if c = '+' ∨ c = '-' ∨ c = '\u2212' then do
        let (hours, s) ← twoDigits? 99 s
        let s := s.dropWhile fun c => c == ':' || Text.isBlank c
        let (minutes, s) ← twoDigits? 59 s
        let seconds : Int := hours * 3600 + minutes * 60
        if seconds < 86400 then return (if c = '+' then seconds else -seconds, s) else none
      else none

/-- The instant of a date, a time of day and an offset, if it exists. -/
def ofParts? (year : Int) (month day hour minute second nanoseconds : Nat) (offset : Int) :
    Option Instant :=
  let leap := second / 60
  let seconds := dayNumber year month day * 86400 +
    (hour * 3600 + minute * 60 + (second - leap) : Nat) - offset
  let reached := dayNumber (-262143) 1 1 * 86400 ≤ seconds ∧
    seconds < dayNumber 262143 1 1 * 86400
  if isDate year month day ∧ reached then some ⟨seconds, nanoseconds + leap * 1000000000⟩
  else none

/-- The instant that a text is. -/
def ofText? (s : String) : Option Instant := do
  let (year, s) ← year? s.toList
  let (month, s) ← part? 1 12 (← after? '-' s)
  let (day, s) ← part? 1 31 (← after? '-' s)
  let s ← match s with
    | c :: s => if c = 'T' ∨ c = 't' ∨ c = ' ' then some s else none
    | [] => none
  let (hour, s) ← part? 0 23 s
  let (minute, s) ← part? 0 59 (← after? ':' s)
  let (second, s) ← part? 0 60 (← after? ':' s)
  let (nanoseconds, s) ← places? s
  let (offset, s) ← offset? s
  if (skipBlanks s).isEmpty then
    ofParts? year month day hour minute second nanoseconds offset
  else none

end Instant

end Tabular
