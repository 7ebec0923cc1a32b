/-!
# Help texts

What the program says about itself, its commands and their options, and on misuse.
-/

namespace Tabular

namespace CommandLine

/-- The name and version of the program. -/
def versionText : String := "csv-wrangler 0.1.0\n"

/-- The help on the program. -/
def programHelp : String :=
  "Wrangle tabular data with column transforms\n\n" ++
  "Usage: csv-wrangler <COMMAND>\n\n" ++
  "Commands:\n" ++
  "  profile  Load a dataset and report inferred types, null counts, and histograms per column\n" ++
  "  apply    Apply a script of column operations to a dataset and report the resulting state\n" ++
  "  help     Print this message or the help of the given subcommand(s)\n\n" ++
  "Options:\n" ++
  "  -h, --help     Print help\n" ++
  "  -V, --version  Print version\n"

/-- The help on the options that both commands have. -/
def inputHelp : String :=
  "  -i, --input <INPUT>                    Input CSV or JSON file (`-` reads CSV from stdin)\n" ++
  "      --delimiter <DELIMITER>            " ++
    "CSV delimiter character (supports ',', 'tab', ';', '|')\n" ++
  "      --input-encoding <INPUT_ENCODING>  " ++
    "Character encoding of the input file (defaults to utf-8)\n" ++
  "      --limit <LIMIT>                    Only load the first N rows\n"

/-- The help on the command that prints a profile. -/
def profileHelp : String :=
  "Load a dataset and report inferred types, null counts, and histograms per column\n\n" ++
  "Usage: csv-wrangler profile [OPTIONS] --input <INPUT>\n\n" ++
  "Options:\n" ++ inputHelp ++
  "      --json                             " ++
    "Emit the column profile as JSON instead of a table\n" ++
  "  -h, --help                             Print help\n"

/-- The help on the command that applies a script. -/
def applyHelp : String :=
  "Apply a script of column operations to a dataset and report the resulting state\n\n" ++
  "Usage: csv-wrangler apply [OPTIONS] --input <INPUT> --ops <OPS>\n\n" ++
  "Options:\n" ++ inputHelp ++
  "      --ops <OPS>                        " ++
    "Operation script (.yml/.yaml or .json) listing `kind` and `payload` entries\n" ++
  "      --preview <PREVIEW>                " ++
    "Number of transformed rows to display [default: 10]\n" ++
  "      --json                             Emit the full resulting state as JSON\n" ++
  "  -h, --help                             Print help\n"

/-- The help on a command, or on the program. -/
def helpText : Option String → String
  | some "profile" => profileHelp
  | some "apply" => applyHelp
  | _ => programHelp

end CommandLine

end Tabular
