/-!
# Delimiters as options

How a delimiter is given on the command line: **by name or as a single character of ASCII**.
-/

namespace Tabular

/-- Why a text is no delimiter. -/
inductive DelimiterError where
  | empty
  | tooLong
  | notAscii
deriving Repr, DecidableEq

/-- The message of an error. -/
def DelimiterError.message : DelimiterError → String
  | empty => "Delimiter cannot be empty"
  | tooLong => "Delimiter must be a single character"
  | notAscii => "Delimiter must be ASCII"

/-- The byte of a delimiter given as a text. -/
def readDelimiter (s : String) : Except DelimiterError UInt8 :=
  if s = "tab" then .ok 0x09
  else if s = "comma" then .ok 0x2C
  else if s = "pipe" then .ok 0x7C
  else if s = "semicolon" then .ok 0x3B
  else
    match s.toList with
    | [] => .error .empty
    | [c] => if c.toNat < 0x80 then .ok (UInt8.ofNat c.toNat) else .error .notAscii
    | _ => .error .tooLong

end Tabular
