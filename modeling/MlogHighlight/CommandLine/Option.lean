import MlogHighlight.Output
import MlogHighlight.Text.Quoted

/-!
# Options of the command line

The options, how they are spelled, what is wrong with a command line, and the texts that explain
its use.
-/

namespace MlogHighlight.CommandLine

/-- The options. -/
inductive Flag where
  | help
  | vocab
  | format
  | rules
  | interactive
  | version
  | test
  | verbose
deriving DecidableEq, Repr

namespace Flag

/-- All options, in the order in which they are explained. -/
def all : List Flag := [.help, .vocab, .format, .rules, .interactive, .version, .test, .verbose]

/-- The spellings of an option. -/
def spellings : Flag → List Text
  | .help => ["-h", "--help"]
  | .vocab => ["--vocab"]
  | .format => ["--format", "-f"]
  | .rules => ["--rules"]
  | .interactive => ["--interactive", "-i"]
  | .version => ["--version"]
  | .test => ["--test"]
  | .verbose => ["--verbose", "-v"]

/-- Does a value belong to the option? -/
def takesValue : Flag → Bool
  | .vocab | .format => true
  | _ => false

/-- The name of an option in messages. -/
def label (flag : Flag) : Text := Text.join "/" flag.spellings

/-- All spellings, each with its option. -/
def spelled : List (Text × Flag) :=
  all.flatMap fun flag => flag.spellings.map fun spelling => (spelling, flag)

/-- The option of a spelling. -/
def ofSpelling? (s : Text) : Option Flag := spelled.lookup s

end Flag

/-- What is wrong with a command line. -/
inductive UsageError where
  | ambiguous (argument : Text) (candidates : List Text)
  | missingValue (flag : Flag)
  | ignoredValue (flag : Flag) (value : Text)
  | unknownFormat (value : Text)
  | unrecognized (arguments : List Text)
deriving DecidableEq, Repr

/-- The wording of an error. -/
def UsageError.message : UsageError → Text
  | .ambiguous argument candidates =>
    "ambiguous option: " ++ argument ++ " could match " ++ Text.join ", " candidates
  | .missingValue flag => "argument " ++ flag.label ++ ": expected one argument"
  | .ignoredValue flag value =>
    "argument " ++ flag.label ++ ": ignored explicit argument " ++ value.quoted
  | .unknownFormat value =>
    "argument " ++ Flag.format.label ++ ": invalid choice: " ++ value.quoted ++ " (choose from " ++
      Text.join ", " (Format.all.map fun format => format.name.quoted) ++ ")"
  | .unrecognized arguments => "unrecognized arguments: " ++ Text.join " " arguments

/-- The name of the program. -/
def programName : Text := "mlogmode"

/-- The version of the program. -/
def version : Text := "0.1.0"

/-- The line that `--version` prints. -/
def versionLine : Text := Text.endLine (programName ++ " " ++ version)

/-- How the program is called. -/
def usage : Text := List.flatMap Text.endLine [
  "usage: mlogmode [-h] [--vocab FILE] [--format \x7bannotations,terminal,html\x7d]",
  "                [--rules] [--interactive] [--version] [--test] [--verbose]",
  "                [FILE ...]"]

/-- The explanation that `--help` prints. -/
def help : Text := usage ++ List.flatMap Text.endLine [
  "",
  "classify or highlight mlog (Mindustry logic) source",
  "",
  "positional arguments:",
  "  FILE                  files or directories to classify",
  "",
  "options:",
  "  -h, --help            show this help message and exit",
  "  --vocab FILE          vocabulary file (instead of the builtin one)",
  "  --format \x7bannotations,terminal,html\x7d, -f \x7bannotations,terminal,html\x7d",
  "                        output format (default: annotations)",
  "  --rules               show the rule table",
  "  --interactive, -i     classify lines typed at a prompt",
  "  --version             show program's version number and exit",
  "  --test                run tests (instead of classifying)",
  "  --verbose, -v         run tests verbosely; debug logging"]

/-- What is printed about an error. -/
def UsageError.report (e : UsageError) : Text :=
  usage ++ Text.endLine (programName ++ ": error: " ++ e.message)

end MlogHighlight.CommandLine
