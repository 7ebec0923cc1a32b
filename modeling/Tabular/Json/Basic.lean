import Tabular.Number.Text

/-!
# JSON documents

A JSON document as a tree, and its two written forms: **compact**, without any blank, and
**indented** by two spaces a level. Numbers are either whole or doubles, and the two are written so
that they can be told apart. The members of an object keep their order.
-/

namespace Tabular

/-- A JSON document. -/
inductive Json where
  | null
  | bool (b : Bool)
  | int (n : Int)
  | float (x : Float)
  | text (s : String)
  | array (items : List Json)
  | object (members : List (String × Json))

namespace Json

instance : Inhabited Json := ⟨null⟩

/-- A natural number as a document. -/
def ofNat (n : Nat) : Json := int n

/-- The member list `ms` with `x` under `k`: in the place of a member of that name, else last. -/
def setMember (ms : List (String × Json)) (k : String) (x : Json) : List (String × Json) :=
  match ms with
  | [] => [(k, x)]
  | m :: ms => if m.1 = k then (k, x) :: ms else m :: setMember ms k x

/-- An object in which each name keeps its first place and its last value. -/
def ofMembers (ms : List (String × Json)) : Json :=
  object (ms.foldl (fun ms m => setMember ms m.1 m.2) [])

/-! ### Written form -/

/-- A hexadecimal digit. -/
def hexDigit (n : Nat) : Char := Nat.digitChar n

/-- A character inside a string: quotes, backslashes and controls are escaped. -/
def charText (c : Char) : List Char :=
  if c = '"' then ['\\', '"']
  else if c = '\\' then ['\\', '\\']
  else if c = '\x08' then ['\\', 'b']
  else if c = '\t' then ['\\', 't']
  else if c = '\n' then ['\\', 'n']
  else if c = '\x0c' then ['\\', 'f']
  else if c = '\r' then ['\\', 'r']
  else if c.toNat < 0x20 then
    ['\\', 'u', '0', '0', hexDigit (c.toNat / 16), hexDigit (c.toNat % 16)]
  else [c]

/-- A string between quotes. -/
def stringText (s : String) : List Char :=
  '"' :: s.toList.flatMap charText ++ ['"']

/-- A list of written parts with `separator` between them. -/
def separated (separator : List Char) : List (List Char) → List Char
  | [] => []
  | [x] => x
  | x :: y :: xs => x ++ separator ++ separated separator (y :: xs)

mutual

/-- A document without blanks. -/
def compact : Json → List Char
  | null => "null".toList
  | bool true => "true".toList
  | bool false => "false".toList
  | int n => Decimal.intChars n
  | float x => Double.jsonNumber x
  | text s => stringText s
  | array items => '[' :: separated [','] (compactItems items) ++ [']']
  | object members => '\x7b' :: separated [','] (compactMembers members) ++ ['\x7d']

/-- The items of an array, each without blanks. -/
def compactItems : List Json → List (List Char)
  | [] => []
  | x :: xs => compact x :: compactItems xs

/-- The members of an object, each without blanks. -/
def compactMembers : List (String × Json) → List (List Char)
  | [] => []
  | (k, x) :: ms => (stringText k ++ ':' :: compact x) :: compactMembers ms

end

/-- A new line indented by `level` steps of two spaces. -/
def newLine (level : Nat) : List Char := '\n' :: List.replicate (2 * level) ' '

mutual

/-- A document over several lines, of which all but the first are indented by at least `level`
steps. Empty arrays and objects stay on their line. -/
def indented (level : Nat) : Json → List Char
  | array [] => "[]".toList
  | array (x :: xs) =>
    '[' :: newLine (level + 1) ++
      separated (',' :: newLine (level + 1)) (indented (level + 1) x :: indentedItems (level + 1) xs)
      ++ newLine level ++ [']']
  | object [] => ['\x7b', '\x7d']
  | object ((k, x) :: ms) =>
    '\x7b' :: newLine (level + 1) ++
      separated (',' :: newLine (level + 1))
        ((stringText k ++ ':' :: ' ' :: indented (level + 1) x) :: indentedMembers (level + 1) ms)
      ++ newLine level ++ ['\x7d']
  | null => compact null
  | bool b => compact (bool b)
  | int n => compact (int n)
  | float x => compact (float x)
  | text s => compact (text s)

/-- The items of an array at a level. -/
def indentedItems (level : Nat) : List Json → List (List Char)
  | [] => []
  | x :: xs => indented level x :: indentedItems level xs

/-- The members of an object at a level. -/
def indentedMembers (level : Nat) : List (String × Json) → List (List Char)
  | [] => []
  | (k, x) :: ms =>
    (stringText k ++ ':' :: ' ' :: indented level x) :: indentedMembers level ms

end

/-- The compact text of a document. -/
def toText (j : Json) : String := String.ofList j.compact

/-- The indented text of a document. -/
def toLines (j : Json) : String := String.ofList (j.indented 0)

end Json

end Tabular
