import Tabular.FilePath
import Tabular.Operation
import Tabular.Text.Quoted

/-!
# Scripts

A script lists operations, each as a kind and a payload. **A file is read as JSON if its extension
says so, and else as YAML**, which is left to a library. The whole list is read before any of its
operations is looked at, and the first operation that is refused refuses the script. `Script.toText`
writes a script as JSON.
-/

namespace Tabular

/-- Why a script cannot be used. -/
inductive ScriptError where
  | unreadable (path : String)
  | notJson (path : String)
  | notYaml (path : String)
  | noOperations (path : String)
  | refused (path : String) (number : Nat) (cause : Operation.Refusal)
deriving Repr, DecidableEq

namespace ScriptError

/-- What is said about a refused operation; what does not fit in a payload is given by a tag. -/
def detail : Operation.Refusal → String
  | .unknownOperation kind => (Operation.Refusal.unknownOperation kind).message
  | .invalidPayload kind => (Operation.Refusal.invalidPayload kind).message ++ ": <json>"

/-- The message of an error. Failures of the file system and syntax errors are given by tags. -/
def message : ScriptError → String
  | unreadable path => "Reading operation script " ++ Text.quotedPath path ++ ": <io>"
  | notJson path => "Parsing JSON operation script " ++ Text.quotedPath path ++ ": <json>"
  | notYaml path => "Parsing YAML operation script " ++ Text.quotedPath path ++ ": <yaml>"
  | noOperations path =>
    "Operation script " ++ Text.quotedPath path ++ " does not list any operations"
  | refused path number cause =>
    "Operation " ++ toString number ++ " in " ++ Text.quotedPath path ++ ": " ++ detail cause

end ScriptError

namespace Script

/-! ### Listed operations -/

/-- The listed operations of a JSON text. -/
def ofJsonText? (s : List Char) : Option (List WireOperation) :=
  (Excerpt.ofText? s).bind (Layered.list? WireOperation.decode?)

/-- What a library reads in a YAML text: the listed operations, if the text lists operations. -/
abbrev YamlReader := List Char → Option (List WireOperation)

/-! ### Reading -/

/-- The operations that are meant by listed ones, the first of which has the number `number`. -/
def resolve (path : String) (number : Nat) : List WireOperation → Except ScriptError (List Operation)
  | [] => .ok []
  | w :: ws =>
    match w.operation with
    | .error cause => .error (.refused path number cause)
    | .ok op => do return op :: (← resolve path (number + 1) ws)

/-- The operations listed in the text of a script. -/
def listed (yaml? : YamlReader) (path : String) (s : List Char) :
    Except ScriptError (List WireOperation) :=
  if FilePath.hasExtension path "json" then
    match ofJsonText? s with
    | some ws => .ok ws
    | none => .error (.notJson path)
  else
    match yaml? s with
    | some ws => .ok ws
    | none => .error (.notYaml path)

/-- The operations of a script file with the given contents, which are missing if it cannot be
read. -/
def load (yaml? : YamlReader) (path : String) (contents : Option (List UInt8)) :
    Except ScriptError (List Operation) :=
  match contents.bind fun bytes => String.fromUTF8? bytes.toByteArray with
  | none => .error (.unreadable path)
  | some s => do
    let ws ← listed yaml? path s.toList
    if ws.isEmpty then .error (.noOperations path) else resolve path 1 ws

/-! ### Writing -/

/-- A list of operations as a JSON text. -/
def toText (ops : List Operation) : String := (Json.array (ops.map (·.toJson))).toText

end Script

end Tabular
