import Tabular.Text.Blank
import Tabular.Text.CaseMap
import Tabular.Text.Letter

/-!
# Capitals, small letters and titles

The three ways to set a text in another case. **A text that already shows no letter to change is
returned as it is**: `uppercase` looks for a small letter and `lowercase` for a capital before they
map anything. `titlecase` works character by character and knows only where a word begins.
-/

namespace Tabular

namespace Text

/-- The text in capitals by the full mapping of each character. -/
def capitals (s : List Char) : List Char := s.flatMap CaseMap.toCapital

/-- Whether the first character after those passed over has case. -/
def casedAhead (s : List Char) : Bool :=
  match s.dropWhile Letter.isWordInternal with
  | [] => false
  | c :: _ => Letter.isCased c

/-- The text `s` in small letters, where `before` is what precedes it, last character first. A
sigma that ends a word takes its final form. -/
def smallsAfter (before : List Char) : List Char → List Char
  | [] => []
  | c :: s =>
    (if c = 'Σ' then
      if casedAhead before && !casedAhead s then ['ς'] else ['σ']
    else CaseMap.toSmall c) ++ smallsAfter (c :: before) s

/-- The text in small letters by the full mapping, with the final form of sigma. -/
def smalls (s : List Char) : List Char := smallsAfter [] s

/-- The text in capitals, or unchanged if it has no small letter. -/
def uppercase (s : List Char) : List Char :=
  if s.any Letter.isSmall then capitals s else s

/-- The text in small letters, or unchanged if it has no capital. -/
def lowercase (s : List Char) : List Char :=
  if s.any Letter.isCapital then smalls s else s

/-- The text `s` in title case, where `start` tells whether its first character would begin a
word. -/
def titlecaseFrom (start : Bool) : List Char → List Char
  | [] => []
  | c :: s =>
    if isBlank c then c :: titlecaseFrom true s
    else if start then CaseMap.toCapital c ++ titlecaseFrom false s
    else CaseMap.toSmall c ++ titlecaseFrom false s

/-- The first character of every word in capitals, the others in small letters, and the blanks
between the words as they are. -/
def titlecase (s : List Char) : List Char := titlecaseFrom true s

end Text

/-- The case a column is set in. -/
inductive CaseStyle where
  | upper
  | lower
  | title
deriving Repr, DecidableEq

/-- The text `s` set in a case. -/
def CaseStyle.set (style : CaseStyle) (s : String) : String :=
  String.ofList <| match style with
    | upper => Text.uppercase s.toList
    | lower => Text.lowercase s.toList
    | title => Text.titlecase s.toList

end Tabular
