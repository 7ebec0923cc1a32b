import Tabular.CommandLine.Options
import Tabular.Dataset
import Tabular.Report.Profile
import Tabular.Script
import Tabular.Workspace.Consistency

/-!
# Running commands

What a command prints, reports and notes. A command is **a function of what it reads**: the contents of
files, the standard input, and the stamps that entries of the history are given. Some formats are read
by libraries, which are given as functions too. Nothing is printed if a command fails.
-/

namespace Tabular

namespace CommandLine

/-- The formats that are left to libraries: some encodings of text, and YAML. -/
structure Libraries where
  decoders : Encoding.Decoders
  yaml? : Script.YamlReader

/-- What a command reads from its surroundings, and the libraries it reads with. A file that cannot be
read has no contents. -/
structure Surroundings where
  libraries : Libraries
  file : String → Option (List UInt8)
  standardInput : List UInt8
  stamp : Nat → Stamp

/-- Why a command fails. -/
inductive Failure where
  | source (cause : Dataset.LoadError)
  | script (cause : ScriptError)
  | inconsistent (cause : Inconsistency)

namespace Failure

/-- The message of a failure. -/
def message : Failure → String
  | source cause => cause.message
  | script cause => cause.message
  | inconsistent cause =>
    "Verifying wrangler state after applying operations: " ++ cause.message

end Failure

/-- The outcome of a command: what it prints or why it fails, and the notes taken until then. -/
structure Outcome where
  result : Except Failure String
  notes : List Note

namespace Outcome

/-- The text on the standard output. -/
def output (o : Outcome) : String :=
  match o.result with
  | .ok s => s
  | .error _ => ""

/-- The exit code: one for a failure. -/
def exitCode (o : Outcome) : Nat :=
  match o.result with
  | .ok _ => 0
  | .error _ => 1

/-- The notes that are shown: all but those for debugging. -/
def shownNotes (o : Outcome) : List Note := o.notes.filter (·.level != .debug)

/-- The line that tells of a failure. -/
def complaint (o : Outcome) : String :=
  match o.result with
  | .ok _ => ""
  | .error cause => "error: " ++ cause.message ++ "\n"

end Outcome

/-! ### Loading -/

/-- The contents of the input. -/
def contentsOf (s : Surroundings) (path : String) : Option (List UInt8) :=
  if FilePath.isDash path then some s.standardInput else s.file path

/-- The workspace of the input as the options describe it. -/
def loadInput (s : Surroundings) (o : InputOptions) :
    Except Dataset.LoadError (Traced Workspace) := do
  let encoding ← Dataset.encodingFor s.libraries.decoders o.encoding
  let d ← Dataset.load o.input ⟨o.delimiter, encoding, o.limit⟩ (contentsOf s o.input)
  let w := Workspace.load .standard d.table (some d.headers)
  return { w with notes := d.note o.input :: w.notes }

/-! ### Commands -/

/-- A delimiter as it is shown in a note. -/
def shownDelimiter (b : UInt8) : String :=
  if b = 0x09 then "\\t" else String.ofList [Char.ofNat b.toNat]

/-- The profile of the columns of an input. -/
def runProfile (s : Surroundings) (o : InputOptions) (json : Bool) : Outcome :=
  let delimiter := shownDelimiter (Dataset.delimiterFor o.input o.delimiter)
  let first : Note :=
    ⟨.info, "Profiling '" ++ o.input ++ "' with delimiter '" ++ delimiter ++ "'"⟩
  match loadInput s o with
  | .error cause => ⟨.error (.source cause), [first]⟩
  | .ok ⟨w, _, notes⟩ =>
    let last : Note :=
      ⟨.info, "Profiled " ++ toString w.order.length ++ " column(s) across " ++
        toString w.table.size ++ " row(s)"⟩
    let text := if json then w.profilesJson.toLines ++ "\n" else w.profileTable.render
    ⟨.ok text, first :: notes ++ [last]⟩

/-- The workspace after the operations of a script, the first of which has the number `number`,
with a note on each that has no effect. -/
def applyAll (stamp : Nat → Stamp) (number : Nat) (w : Workspace) :
    List Operation → Traced Workspace
  | [] => return w
  | op :: ops => do
    let w' ← w.apply .standard (stamp number) op
    if w'.history.length = w.history.length then
      Traced.note .warn <|
        "Operation " ++ toString number ++ " (" ++ op.kind.name ++ ") had no effect"
    applyAll stamp (number + 1) w' ops

/-- The report on a workspace: its columns, its first rows and its history. -/
def report (w : Workspace) (preview : Nat) : String :=
  "Columns\n" ++ w.profileTable.render ++ "\nPreview\n" ++ (w.previewTable preview).render ++
    "\nHistory\n" ++ w.historyTable.render

/-- The state of an input after the operations of a script. The script is read first. -/
def runApply (s : Surroundings) (o : InputOptions) (script : String) (preview : Nat)
    (json : Bool) : Outcome :=
  let first : Note :=
    ⟨.info, "Applying " ++ Text.quotedPath script ++ " to '" ++ o.input ++ "'"⟩
  match Script.load s.libraries.yaml? script (s.file script) with
  | .error cause => ⟨.error (.script cause), [first]⟩
  | .ok ops =>
    match loadInput s o with
    | .error cause => ⟨.error (.source cause), [first]⟩
    | .ok ⟨w, _, loaded⟩ =>
      let ⟨w, _, applied⟩ := applyAll s.stamp 1 w ops
      let notes := first :: loaded ++ applied
      match w.check with
      | .error cause => ⟨.error (.inconsistent cause), notes⟩
      | .ok () =>
        let last : Note :=
          ⟨.info, "Applied " ++ toString w.history.length ++ " of " ++ toString ops.length ++
            " operation(s) from " ++ Text.quotedPath script⟩
        let text := if json then w.toJson.toLines ++ "\n" else report w preview
        ⟨.ok text, notes ++ [last]⟩

/-- The files that a command reads. -/
def Command.files : Command → List String
  | .profile o _ => if FilePath.isDash o.input then [] else [o.input]
  | .apply o script _ _ => if FilePath.isDash o.input then [script] else [o.input, script]

/-- Whether a command reads the standard input. -/
def Command.readsInput : Command → Bool
  | .profile o _ => FilePath.isDash o.input
  | .apply o _ _ _ => FilePath.isDash o.input

/-- The outcome of a command. -/
def Command.outcome (s : Surroundings) : Command → Outcome
  | .profile o json => runProfile s o json
  | .apply o script preview json => runApply s o script preview json

end CommandLine

end Tabular
