import Tabular.Number.Reading

/-!
# JSON as written

The grammar of JSON text, apart from what the text means. `Source.read` accepts **exactly the
well-formed texts**, nested to any depth, and keeps numbers as digits and strings as pieces: a part
that nobody asks for need not stand for anything, so it may hold a number beyond all doubles or
half of a surrogate pair.
-/

namespace Tabular

/-- A piece of a written string: a character, or a code unit given by its number. -/
inductive Piece where
  | char (c : Char)
  | unit (n : Nat)
deriving Repr, DecidableEq

/-- A number as written: its sign, its whole digits, and its fraction and exponent if any. -/
structure Numeral where
  negative : Bool
  whole : List Char
  fraction : Option (List Char)
  exponent : Option Int
deriving Repr, DecidableEq

/-- A JSON text as a tree of what is written in it. -/
inductive Source where
  | null
  | bool (b : Bool)
  | number (n : Numeral)
  | string (pieces : List Piece)
  | array (items : List Source)
  | object (members : List (List Piece × Source))

namespace Source

/-- Whether `c` may stand between the parts of a text. -/
def isGap (c : Char) : Bool := c == ' ' || c == '\n' || c == '\t' || c == '\r'

/-- The text without the gap at its beginning. -/
def skipGap (s : List Char) : List Char := s.dropWhile isGap

/-! ### Strings -/

/-- The value of a hexadecimal digit. -/
def hexValue? (c : Char) : Option Nat :=
  if '0' ≤ c ∧ c ≤ '9' then some (c.toNat - '0'.toNat)
  else if 'a' ≤ c ∧ c ≤ 'f' then some (c.toNat - 'a'.toNat + 10)
  else if 'A' ≤ c ∧ c ≤ 'F' then some (c.toNat - 'A'.toNat + 10)
  else none

/-- The code unit of four hexadecimal digits. -/
def codeUnit? (a b c d : Char) : Option Nat := do
  return (((← hexValue? a) * 16 + (← hexValue? b)) * 16 + (← hexValue? c)) * 16 + (← hexValue? d)

/-- The character that a letter stands for after a backslash. -/
def escape? (c : Char) : Option Char :=
  if c = '"' ∨ c = '\\' ∨ c = '/' then some c
  else if c = 'b' then some '\x08'
  else if c = 'f' then some '\x0c'
  else if c = 'n' then some '\n'
  else if c = 'r' then some '\r'
  else if c = 't' then some '\t'
  else none

/-- The pieces of a string up to its closing quote, and what follows the quote. -/
def readPieces : List Char → Option (List Piece × List Char)
  | [] => none
  | '"' :: s => some ([], s)
  | '\\' :: 'u' :: a :: b :: c :: d :: s => do
    let n ← codeUnit? a b c d
    let (ps, s) ← readPieces s
    return (.unit n :: ps, s)
  | '\\' :: e :: s => do
    let c ← escape? e
    let (ps, s) ← readPieces s
    return (.char c :: ps, s)
  | c :: s =>
    if c.toNat < 0x20 ∨ c = '\\' then none
    else do
      let (ps, s) ← readPieces s
      return (.char c :: ps, s)

/-! ### Numbers -/

/-- The digits at the beginning of a text, of which there must be one. -/
def digits? (s : List Char) : Option (List Char × List Char) :=
  match Number.takeDigits s with
  | ([], _) => none
  | (ds, s) => some (ds, s)

/-- The whole digits of a number, which begin with zero only if they are zero. -/
def whole? : List Char → Option (List Char × List Char)
  | '0' :: s => some (['0'], s)
  | s => digits? s

/-- A fraction, if a point follows. -/
def fraction? : List Char → Option (Option (List Char) × List Char)
  | '.' :: s => (digits? s).map fun (ds, s) => (some ds, s)
  | s => some (none, s)

/-- An exponent, if its letter follows. -/
def exponent? : List Char → Option (Option Int × List Char)
  | c :: s =>
    if c = 'e' ∨ c = 'E' then
      let (negative, s) := Number.takeSign s
      (digits? s).map fun (ds, s) =>
        (some (if negative then -(Number.ofDigits ds : Int) else Number.ofDigits ds), s)
    else some (none, c :: s)
  | [] => some (none, [])

/-- A number at the beginning of a text. -/
def readNumeral (s : List Char) : Option (Numeral × List Char) := do
  let (negative, s) := match s with
    | '-' :: s => (true, s)
    | s => (false, s)
  let (whole, s) ← whole? s
  let (fraction, s) ← fraction? s
  let (exponent, s) ← exponent? s
  return (⟨negative, whole, fraction, exponent⟩, s)

/-! ### Values -/

/-- A string with its opening quote. -/
def readString (s : List Char) : Option (List Piece × List Char) :=
  match skipGap s with
  | '"' :: s => readPieces s
  | _ => none

/-- At least one item and the closing bracket, in at most `steps` items; `value` reads an item. -/
def readItems (value : List Char → Option (Source × List Char)) :
    (steps : Nat) → List Char → Option (List Source × List Char)
  | 0, _ => none
  | steps + 1, s => do
    let (x, s) ← value s
    match skipGap s with
    | ',' :: s =>
      let (xs, s) ← readItems value steps s
      return (x :: xs, s)
    | ']' :: s => return ([x], s)
    | _ => none

/-- At least one member and the closing brace, in at most `steps` members; `value` reads the
value of a member. -/
def readMembers (value : List Char → Option (Source × List Char)) :
    (steps : Nat) → List Char → Option (List (List Piece × Source) × List Char)
  | 0, _ => none
  | steps + 1, s => do
    let (k, s) ← readString s
    match skipGap s with
    | ':' :: s =>
      let (x, s) ← value s
      match skipGap s with
      | ',' :: s =>
        let (ms, s) ← readMembers value steps s
        return ((k, x) :: ms, s)
      | '\x7d' :: s => return ([(k, x)], s)
      | _ => none
    | _ => none

/-- A value at the beginning of a text that is nested to at most `depth` levels. -/
def readValue : (depth : Nat) → List Char → Option (Source × List Char)
  | 0, _ => none
  | depth + 1, s =>
    match skipGap s with
    | 'n' :: 'u' :: 'l' :: 'l' :: s => some (null, s)
    | 't' :: 'r' :: 'u' :: 'e' :: s => some (bool true, s)
    | 'f' :: 'a' :: 'l' :: 's' :: 'e' :: s => some (bool false, s)
    | '"' :: s => (readPieces s).map fun (ps, s) => (string ps, s)
    | '[' :: s =>
      match skipGap s with
      | ']' :: s => some (array [], s)
      | s => (readItems (readValue depth) s.length s).map fun (xs, s) => (array xs, s)
    | '\x7b' :: s =>
      match skipGap s with
      | '\x7d' :: s => some (object [], s)
      | s => (readMembers (readValue depth) s.length s).map fun (ms, s) => (object ms, s)
    | s => (readNumeral s).map fun (n, s) => (number n, s)

/-- The tree of a whole text. No text is nested more deeply than it is long. -/
def read (s : List Char) : Option Source :=
  match readValue (s.length + 1) s with
  | some (x, s) => if (skipGap s).isEmpty then some x else none
  | none => none

end Source

end Tabular
