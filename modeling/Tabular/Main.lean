import Std.Time.DateTime.Timestamp
import Tabular.CommandLine.Help
import Tabular.CommandLine.Run

/-!
# The program

Reads the files that a command names, stamps the entries of its history with the time and with
identifiers from a random one on, and prints the outcome. **Everything else is decided by
`CommandLine`.** The libraries that some formats are left to are handed to the program.
-/

namespace Tabular

namespace Program

/-- The contents of a file, if it can be read. -/
def contents? (path : String) : IO (Option (List UInt8)) := do
  try
    return some (← IO.FS.readBinFile path).toList
  catch _ =>
    return none

/-- All bytes of the standard input. -/
partial def readInput (stream : IO.FS.Stream) (sofar : List UInt8) : IO (List UInt8) := do
  let bytes ← stream.read 65536
  if bytes.isEmpty then return sofar
  else readInput stream (sofar ++ bytes.toList)

/-- The identifier whose bits other than those of version and variant are given by a number. -/
def identifier (n : Nat) : Identifier :=
  let low := n % 2 ^ 62
  let middle := n / 2 ^ 62 % 2 ^ 12
  let high := n / 2 ^ 74 % 2 ^ 48
  let number := ((high * 16 + 4) * 2 ^ 12 + middle) * 2 ^ 64 + 2 ^ 63 + low
  ⟨number % 2 ^ 128, Nat.mod_lt number (Nat.two_pow_pos 128)⟩

/-- Stamps with the present time and a random first identifier. -/
def stamps : IO (Nat → Stamp) := do
  let first := (← IO.getRandomBytes 16).toList.foldl (fun n b => 256 * n + b.toNat) 0
  let now := (← Std.Time.Timestamp.now).toNanosecondsSinceUnixEpoch.toInt
  let time : Instant := ⟨now / 1000000000, (now % 1000000000).toNat⟩
  return fun n => ⟨identifier (first + n), time⟩

/-- Runs a command and prints its outcome. -/
def run (libraries : CommandLine.Libraries) (c : CommandLine.Command) : IO UInt32 := do
  let files ← c.files.mapM fun path => do return (path, ← contents? path)
  let input ← if c.readsInput then readInput (← IO.getStdin) [] else pure []
  let outcome := c.outcome ⟨libraries, fun path => (files.lookup path).join, input, ← stamps⟩
  IO.print outcome.output
  for note in outcome.shownNotes do
    IO.eprintln note.line
  IO.eprint outcome.complaint
  return UInt32.ofNat outcome.exitCode

/-- Does what the arguments ask for; misuse is told by the exit code 2. -/
def main (libraries : CommandLine.Libraries) (args : List String) : IO UInt32 :=
  match CommandLine.parse args with
  | .run c => run libraries c
  | .help command => do
    IO.print (CommandLine.helpText command)
    return 0
  | .version => do
    IO.print CommandLine.versionText
    return 0
  | .misuse => do
    IO.eprint CommandLine.programHelp
    return 2

end Program

end Tabular
