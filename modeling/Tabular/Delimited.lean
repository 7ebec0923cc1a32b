/-!
# Delimited text

Records of fields in bytes, as spreadsheets exchange them. Fields are separated by a delimiter and
records end at a line feed, a carriage return or both. **A quote has a meaning only at the beginning
of a field**: up to the next single quote everything then belongs to the field, two quotes standing
for one, and what follows the closing quote is appended as it is. Empty lines are no records, and
the end of the input closes whatever is open.

Reading is a machine that takes byte after byte; `Scan` is its state. `write` gives every field in
quotes.
-/

namespace Tabular

namespace Delimited

/-- A field as bytes. -/
abbrev Field := List UInt8

/-- The quote. -/
def quote : UInt8 := 0x22

/-- Whether a byte ends a record. -/
def isTerminator (b : UInt8) : Bool := b == 0x0A || b == 0x0D

/-! ### Reading -/

/-- Where in a record the machine is. -/
inductive Place where
  | recordStart
  | fieldStart
  | bare
  | quoted
  | quoteSeen
deriving Repr, DecidableEq

/-- The state of the machine: its place, the open field, the fields of the open record before it
and the records before that, each of them last one first. -/
structure Scan where
  place : Place
  field : Field
  fields : List Field
  records : List (List Field)
deriving Repr, DecidableEq

namespace Scan

/-- The state before any byte. -/
def start : Scan := ⟨.recordStart, [], [], []⟩

/-- The state with one more byte in the open field. -/
def keep (s : Scan) (place : Place) (b : UInt8) : Scan := { s with place, field := b :: s.field }

/-- The state after the open field, which a delimiter ends. -/
def closeField (s : Scan) : Scan :=
  { s with place := .fieldStart, field := [], fields := s.field.reverse :: s.fields }

/-- The state after the open record. -/
def closeRecord (s : Scan) : Scan :=
  ⟨.recordStart, [], [], (s.field.reverse :: s.fields).reverse :: s.records⟩

/-- The state after a byte outside quotes. -/
def outside (delimiter : UInt8) (s : Scan) (b : UInt8) : Scan :=
  if b = delimiter then s.closeField
  else if isTerminator b then s.closeRecord
  else s.keep .bare b

/-- The state after a byte at the beginning of a field. -/
def opening (delimiter : UInt8) (s : Scan) (b : UInt8) : Scan :=
  if b = quote then { s with place := .quoted } else s.outside delimiter b

/-- The state after a byte. -/
def step (delimiter : UInt8) (s : Scan) (b : UInt8) : Scan :=
  match s.place with
  | .recordStart => if isTerminator b then s else s.opening delimiter b
  | .fieldStart => s.opening delimiter b
  | .bare => s.outside delimiter b
  | .quoted => if b = quote then { s with place := .quoteSeen } else s.keep .quoted b
  | .quoteSeen => if b = quote then s.keep .quoted b else s.outside delimiter b

/-- The records at the end of the input, in order. -/
def finish (s : Scan) : List (List Field) :=
  match s.place with
  | .recordStart => s.records.reverse
  | _ => s.closeRecord.records.reverse

end Scan

/-- The bytes without a byte order mark at their beginning. -/
def skipMark : List UInt8 → List UInt8
  | 0xEF :: 0xBB :: 0xBF :: bytes => bytes
  | bytes => bytes

/-- The records of an input. -/
def records (delimiter : UInt8) (bytes : List UInt8) : List (List Field) :=
  ((skipMark bytes).foldl (Scan.step delimiter) .start).finish

/-! ### Writing -/

/-- The bytes of a field with every quote doubled. -/
def doubled (f : Field) : List UInt8 := f.flatMap fun b => if b = quote then [quote, quote] else [b]

/-- A field in quotes. -/
def writeField (f : Field) : List UInt8 := quote :: doubled f ++ [quote]

/-- The fields of a record in quotes, with the delimiter between them. -/
def writeFields (delimiter : UInt8) : List Field → List UInt8
  | [] => []
  | [f] => writeField f
  | f :: g :: fs => writeField f ++ delimiter :: writeFields delimiter (g :: fs)

/-- Records in quotes, each ended by a line feed. -/
def write (delimiter : UInt8) (records : List (List Field)) : List UInt8 :=
  records.flatMap fun fs => writeFields delimiter fs ++ [0x0A]

end Delimited

end Tabular
