import Tabular.Number.Decimal

/-!
# Texts of doubles

The forms in which a double is written: the text of a cell, the bound of a histogram bin, and the
number of a JSON document. All but the bound write **the shortest digits that read back**, and differ
in where the point stands. Of two shortest forms equally close to the double, JSON has the one with an
even last digit and a cell has the greater one.
-/

namespace Tabular

namespace Double

/-- The characters `cs` after a minus sign if `negative`. -/
def signed (negative : Bool) (cs : List Char) : List Char :=
  if negative then '-' :: cs else cs

/-- The text of a double by a layout of its exact value; infinities and the undefined value have
names of their own. -/
def textBy (layout : Nat → Int → List Char) (x : Float) : String :=
  String.ofList <| match Binary.ofFloat x with
    | .finite negative m q => signed negative (layout m q)
    | .infinite negative => signed negative "inf".toList
    | .undefined => "NaN".toList

/-- Whole numbers below `10 ^ 15` keep one place, so that they are seen to be no integers; all
other doubles are written in their shortest digits without an exponent. -/
def cellText : Float → String :=
  textBy fun m q =>
    if Binary.isWhole m q && Binary.wholePart m q < 10 ^ 15 then Decimal.fixed 1 m q
    else (Decimal.shortest .greater m q).positional

/-- Whole bounds are written in full, all others with four places less the closing zeros. -/
def boundText : Float → String :=
  textBy fun m q =>
    if Binary.isWhole m q then Decimal.fixed 0 m q
    else
      ((((Decimal.fixed 4 m q).reverse.dropWhile (· == '0')).dropWhile (· == '.'))).reverse

/-- A decimal as a JSON number that cannot be taken for an integer: without an exponent if the
first digit stands for `10 ^ -5` to `10 ^ 15`, else in scientific form with a signed exponent. -/
def jsonChars (d : Decimal) : List Char :=
  if -5 ≤ d.leading ∧ d.leading ≤ 15 then
    if 0 ≤ d.exponent then d.positional ++ ['.', '0'] else d.positional
  else
    d.pointed ++ 'e' :: (if 0 ≤ d.leading then '+' :: Decimal.intChars d.leading
      else Decimal.intChars d.leading)

/-- A double as a JSON number; what is not a number is written as null. -/
def jsonNumber (x : Float) : List Char :=
  match Binary.ofFloat x with
  | .finite negative m q => signed negative (jsonChars (Decimal.shortest .even m q))
  | _ => "null".toList

end Double

end Tabular
