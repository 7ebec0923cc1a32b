import Tabular.Text.Unseen

/-!
# Quoted texts

How a name is shown in a message: between double quotes, with **every character that could be
misread written as an escape**. A path also has its single quotes escaped. A list of names is
shown between square brackets.
-/

namespace Tabular

namespace Text

/-- The digits of `n` in base sixteen. -/
def hexDigits (n : Nat) : List Char := Nat.toDigits 16 n

/-- One character between quotes, where `quote` tells which quotes are escaped. -/
def escaped (quote : Char → Bool) (c : Char) : List Char :=
  if c = '\x00' then ['\\', '0']
  else if c = '\t' then ['\\', 't']
  else if c = '\n' then ['\\', 'n']
  else if c = '\r' then ['\\', 'r']
  else if c = '\\' || quote c then ['\\', c]
  else if isUnseen c then '\\' :: 'u' :: '\x7b' :: hexDigits c.toNat ++ ['\x7d']
  else [c]

/-- A text between double quotes, with its double quotes escaped. -/
def quoted (s : String) : String :=
  String.ofList ('"' :: s.toList.flatMap (escaped (· == '"')) ++ ['"'])

/-- A path between double quotes, with its quotes of both kinds escaped. -/
def quotedPath (s : String) : String :=
  String.ofList ('"' :: s.toList.flatMap (escaped fun c => c == '"' || c == '\x27') ++ ['"'])

/-- A list of quoted texts between square brackets. -/
def quotedList (names : List String) : String :=
  "[" ++ String.intercalate ", " (names.map quoted) ++ "]"

end Text

end Tabular
