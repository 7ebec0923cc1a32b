import Tabular.CommandLine.Delimiter
import Tabular.Number.Reading

/-!
# Command lines

The commands of the program and their options. Options may come in any order, in long form or, for
the input, in short form; a value follows as the next argument, after an equals sign, or directly
after the short form. **Arguments are looked at one by one**, so a call for help counts unless
something before it is wrong. An option must not be given twice.
-/

namespace Tabular

namespace CommandLine

/-- What both commands read their table from. -/
structure InputOptions where
  input : String
  delimiter : Option UInt8
  encoding : Option String
  limit : Option Nat
deriving Repr, DecidableEq

/-- A command of the program. -/
inductive Command where
  | profile (source : InputOptions) (json : Bool)
  | apply (source : InputOptions) (script : String) (preview : Nat) (json : Bool)
deriving Repr, DecidableEq

/-- What a command line asks for; `help` names the command that help is wanted for. -/
inductive Request where
  | run (c : Command)
  | help (command : Option String)
  | version
  | misuse
deriving Repr, DecidableEq

/-! ### Options -/

/-- What an option takes. -/
inductive Argument where
  | flag
  | path
  | label
  | delimiter
  | count
deriving Repr, DecidableEq

/-- The options of both commands. -/
def sharedOptions : List (String × Argument) :=
  [("input", .path), ("delimiter", .delimiter), ("input-encoding", .label), ("limit", .count),
    ("json", .flag)]

/-- The options of the command that applies a script. -/
def applyOptions : List (String × Argument) :=
  sharedOptions ++ [("ops", .path), ("preview", .count)]

/-- A count: digits after an optional plus sign, within 64 bits. -/
def readCount? (s : String) : Option Nat :=
  let digits := match s.toList with
    | '+' :: cs => cs
    | cs => cs
  (Number.readNat? digits).filter (· < 2 ^ 64)

/-- Whether an option takes a value. -/
def accepts (a : Argument) (value : String) : Bool :=
  match a with
  | .flag => false
  | .path => !value.isEmpty
  | .label => true
  | .delimiter => (readDelimiter value).toOption.isSome
  | .count => (readCount? value).isSome

/-- The options given so far with their values. -/
abbrev Given := List (String × String)

/-- One more option with a value, unless it was given before or does not take the value. -/
def give? (options : List (String × Argument)) (given : Given) (name value : String) :
    Option Given :=
  match options.lookup name with
  | some a => if accepts a value && !(given.any (·.1 == name)) then some ((name, value) :: given) else none
  | none => none

/-- Whether an argument cannot be the value of the option before it. -/
def looksLikeOption (s : List Char) : Bool := s.head? == some '-' && s.length != 1

/-- The end of a scan of arguments. -/
inductive Scanned where
  | given (g : Given)
  | help
  | misuse

/-- The name of a long option and the value given with it. -/
def longParts (s : List Char) : String × Option String :=
  let name := s.takeWhile (· != '=')
  (String.ofList name,
    if name.length < s.length then some (String.ofList (s.drop (name.length + 1))) else none)

/-- The options among arguments. -/
def scan (options : List (String × Argument)) (given : Given) : List String → Scanned
  | [] => .given given
  | arg :: args =>
    match arg.toList with
    | ['-', '-'] => if args.isEmpty then .given given else .misuse
    | '-' :: '-' :: s =>
      let (name, value) := longParts s
      if name = "help" then if value.isNone then .help else .misuse
      else
        match options.lookup name, value with
        | some .flag, none =>
          if given.any (·.1 == name) then .misuse else scan options ((name, "") :: given) args
        | some _, some value =>
          match give? options given name value with
          | some given => scan options given args
          | none => .misuse
        | some _, none =>
          match args with
          | value :: args =>
            if looksLikeOption value.toList then .misuse
            else
              match give? options given name value with
              | some given => scan options given args
              | none => .misuse
          | [] => .misuse
        | none, _ => .misuse
    | '-' :: 'h' :: _ => .help
    | '-' :: 'i' :: '=' :: s =>
      match give? options given "input" (String.ofList s) with
      | some given => scan options given args
      | none => .misuse
    | ['-', 'i'] =>
      match args with
      | value :: args =>
        if looksLikeOption value.toList then .misuse
        else
          match give? options given "input" value with
          | some given => scan options given args
          | none => .misuse
      | [] => .misuse
    | '-' :: 'i' :: s =>
      match give? options given "input" (String.ofList s) with
      | some given => scan options given args
      | none => .misuse
    | _ => .misuse

/-! ### Commands -/

/-- The source described by the options given, which must name an input. -/
def inputOptions? (given : Given) : Option InputOptions := do
  let input ← given.lookup "input"
  return ⟨input, (given.lookup "delimiter").bind fun s => (readDelimiter s).toOption,
    given.lookup "input-encoding", (given.lookup "limit").bind readCount?⟩

/-- The number of rows in a preview unless another is asked for. -/
def defaultPreview : Nat := 10

/-- The command that prints a profile, from the options given. -/
def profileCommand? (given : Given) : Option Command := do
  return .profile (← inputOptions? given) (given.any (·.1 == "json"))

/-- The command that applies a script, from the options given. -/
def applyCommand? (given : Given) : Option Command := do
  let preview := ((given.lookup "preview").bind readCount?).getD defaultPreview
  return .apply (← inputOptions? given) (← given.lookup "ops") preview
    (given.any (·.1 == "json"))

/-- What the arguments after the name of a command ask for. -/
def requestFor (name : String) (options : List (String × Argument))
    (command? : Given → Option Command) (args : List String) : Request :=
  match scan options [] args with
  | .help => .help (some name)
  | .misuse => .misuse
  | .given g =>
    match command? g with
    | some c => .run c
    | none => .misuse

/-- What a command line asks for. -/
def parse : List String → Request
  | "profile" :: args => requestFor "profile" sharedOptions profileCommand? args
  | "apply" :: args => requestFor "apply" applyOptions applyCommand? args
  | ["help"] => .help none
  | ["help", name] =>
    if name = "profile" ∨ name = "apply" then .help (some name)
    else if name = "help" then .help none
    else .misuse
  | arg :: _ =>
    match arg.toList with
    | '-' :: 'h' :: _ => .help none
    | '-' :: 'V' :: _ => .version
    | s =>
      if s = "--help".toList then .help none
      else if s = "--version".toList then .version
      else .misuse
  | [] => .misuse

end CommandLine

end Tabular
