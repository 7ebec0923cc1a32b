import Tabular.Delimited
import Tabular.Encoding
import Tabular.FilePath
import Tabular.Note
import Tabular.Table
import Tabular.Text.Quoted

/-!
# Data sets

A data set is a table with its columns in the order of the source. It is read from **delimited text**,
whose first record names the columns and whose fields all become texts, or from a **JSON array of
objects**, whose first object orders the columns. Text is decoded piece by piece: every field of
delimited text by itself, and a JSON document as a whole. A limit on the rows ends the reading before
the next record is looked at.
-/

namespace Tabular

/-- A table and the names of its columns in the order of the source. -/
structure Dataset where
  headers : List String
  table : Table
deriving Inhabited

/-- How a source is to be read. -/
structure SourceOptions where
  delimiter : Option UInt8 := none
  encoding : Encoding := .utf8
  limit : Option Nat := none

/-- Why the bytes of a source are refused. -/
inductive ReadError where
  | undecodable (e : Encoding)
  | unevenRecord (row expected found : Nat)
  | notJson
  | notArray
  | notObject (index : Nat)

namespace ReadError

/-- The message of a refusal. Syntax errors are given by a tag. -/
def message : ReadError → String
  | undecodable e => "Failed to decode text with encoding " ++ e.name
  | unevenRecord row expected found =>
    "Reading row " ++ toString row ++ ": <csv: expected " ++ toString expected ++
      " fields, found " ++ toString found ++ ">"
  | notJson => "Parsing JSON input: <json>"
  | notArray => "JSON input must be an array of objects"
  | notObject index => "JSON element " ++ toString index ++ " is not an object"

end ReadError

namespace Dataset

/-- The text of bytes. -/
def decode (e : Encoding) (bytes : List UInt8) : Except ReadError String :=
  match e.decode? bytes with
  | some s => .ok s
  | none => .error (.undecodable e)

/-! ### Delimited text -/

/-- The texts of the fields of a record. -/
def decodeRecord (e : Encoding) : List Delimited.Field → Except ReadError (List String)
  | [] => .ok []
  | f :: fs => do return (← decode e f) :: (← decodeRecord e fs)

/-- The texts of records that must have `width` fields each, where the first of them is in row
`row` of the source. -/
def readRecords (e : Encoding) (width : Nat) :
    (row : Nat) → Option Nat → List (List Delimited.Field) →
      Except ReadError (List (List String))
  | _, _, [] => .ok []
  | row, limit, record :: records =>
    if limit = some 0 then .ok []
    else if record.length = width then do
      let texts ← decodeRecord e record
      return texts :: (← readRecords e width (row + 1) (limit.map (· - 1)) records)
    else .error (.unevenRecord row width record.length)

/-- The data set of delimited text. Without any record there are no columns. -/
def readDelimited (delimiter : UInt8) (options : SourceOptions) (bytes : List UInt8) :
    Except ReadError Dataset :=
  match Delimited.records delimiter bytes with
  | [] => .ok ⟨[], ⟨[]⟩⟩
  | header :: records => do
    let headers ← decodeRecord options.encoding header
    let texts ← readRecords options.encoding header.length 2 options.limit records
    return ⟨headers, Table.ofRecords headers (texts.map (·.map Cell.text))⟩

/-! ### JSON -/

/-- The row of an object. -/
def rowOfMembers (ms : List (String × Json)) : Row :=
  Keyed.ofList (ms.map fun m => (m.1, Cell.ofJson m.2))

/-- The members of the objects of an array, the first of which has the number `index`. -/
def readObjects : (index : Nat) → Option Nat → List Json →
    Except ReadError (List (List (String × Json)))
  | _, _, [] => .ok []
  | index, limit, item :: items =>
    if limit = some 0 then .ok []
    else
      match item with
      | .object ms => do
        return ms :: (← readObjects (index + 1) (limit.map (· - 1)) items)
      | _ => .error (.notObject index)

/-- The data set of a JSON document. -/
def readJson (options : SourceOptions) (bytes : List UInt8) : Except ReadError Dataset := do
  let text ← decode options.encoding bytes
  match Json.ofText? text.toList with
  | none => .error .notJson
  | some (.array items) =>
    let objects ← readObjects 0 options.limit items
    let headers := match objects with
      | [] => []
      | ms :: _ => ms.map (·.1)
    return ⟨headers, ⟨objects.map rowOfMembers⟩⟩
  | some _ => .error .notArray

/-! ### Files -/

/-- The delimiter of a file: the given one, else a tab or a comma by the file's extension. -/
def delimiterFor (path : String) (given : Option UInt8) : UInt8 :=
  given.getD (if FilePath.hasExtension path "tsv" then 0x09 else 0x2C)

/-- Whether a file is read as JSON. -/
def isJsonPath (path : String) : Bool :=
  !FilePath.isDash path && FilePath.hasExtension path "json"

/-- Why a data set cannot be loaded. -/
inductive LoadError where
  | unknownEncoding (label : String)
  | cannotOpen (path : String)
  | unreadable (path : String) (cause : ReadError)
  | noRows (path : String)

namespace LoadError

/-- The message of an error. Failures of the file system are given by a tag. -/
def message : LoadError → String
  | unknownEncoding label => "Unknown encoding '" ++ label ++ "'"
  | cannotOpen path => "Opening input file " ++ Text.quotedPath path ++ ": <io>"
  | unreadable path cause =>
    "Loading dataset from " ++ Text.quotedPath path ++ ": " ++ cause.message
  | noRows path => "Dataset " ++ Text.quotedPath path ++ " contains no rows"

end LoadError

/-- The encoding of a label; UTF-8 without one. -/
def encodingFor (decoders : Encoding.Decoders) : Option String → Except LoadError Encoding
  | none => .ok .utf8
  | some label =>
    match Encoding.ofLabel? decoders label with
    | some e => .ok e
    | none => .error (.unknownEncoding label)

/-- The data set of a file with the given contents, which are missing if it cannot be opened. -/
def load (path : String) (options : SourceOptions) (contents : Option (List UInt8)) :
    Except LoadError Dataset :=
  match contents with
  | none => .error (.cannotOpen path)
  | some bytes =>
    let loaded :=
      if isJsonPath path then readJson options bytes
      else readDelimited (delimiterFor path options.delimiter) options bytes
    match loaded with
    | .error cause => .error (.unreadable path cause)
    | .ok d => if d.table.isEmpty then .error (.noRows path) else .ok d

/-- The note on a data set loaded from a path. -/
def note (d : Dataset) (path : String) : Note :=
  ⟨.debug, "Read " ++ toString d.table.size ++ " row(s) with columns " ++
    Text.quotedList d.headers ++ " from " ++ Text.quotedPath path⟩

end Dataset

end Tabular
