import Tabular.Json.Source

/-!
# Identifiers of entries

An identifier is **a number of 128 bits**, written as 32 hexadecimal digits in groups of eight,
four, four, four and twelve. It is also read without the hyphens, between braces, and after the name
of its scheme.
-/

namespace Tabular

/-- A number of 128 bits that tells entries apart. -/
structure Identifier where
  number : Fin (2 ^ 128)
deriving Repr, DecidableEq, Inhabited

namespace Identifier

/-- The 32 digits of an identifier. -/
def digits (i : Identifier) : List Char :=
  let ds := Nat.toDigits 16 i.number.val
  List.replicate (32 - ds.length) '0' ++ ds

/-- Five groups of characters with hyphens between them. -/
def hyphenated (cs : List Char) : List Char :=
  cs.take 8 ++ '-' :: (cs.drop 8).take 4 ++ '-' :: (cs.drop 12).take 4 ++
    '-' :: (cs.drop 16).take 4 ++ '-' :: cs.drop 20

/-- The written form of an identifier. -/
def toText (i : Identifier) : String := String.ofList (hyphenated i.digits)

/-- The identifier of 32 digits. -/
def ofDigits? (cs : List Char) : Option Identifier := do
  let ds ← cs.mapM Source.hexValue?
  if ds.length = 32 then return ⟨Fin.ofNat _ (ds.foldl (fun n d => 16 * n + d) 0)⟩ else none

/-- The identifier of 36 characters, of which four are the hyphens. -/
def ofHyphenated? (cs : List Char) : Option Identifier :=
  let ds := cs.take 8 ++ (cs.drop 9).take 4 ++ (cs.drop 14).take 4 ++ (cs.drop 19).take 4 ++
    cs.drop 24
  if hyphenated ds = cs then ofDigits? ds else none

/-- The identifier that a text is. -/
def ofText? (s : String) : Option Identifier :=
  match s.toList with
  | '\x7b' :: cs => if cs.getLast? = some '\x7d' then ofHyphenated? cs.dropLast else none
  | 'u' :: 'r' :: 'n' :: ':' :: 'u' :: 'u' :: 'i' :: 'd' :: ':' :: cs => ofHyphenated? cs
  | cs => if cs.length = 32 then ofDigits? cs else ofHyphenated? cs

end Identifier

end Tabular
