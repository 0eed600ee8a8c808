import MlogHighlight.CommandLine.Input
import MlogHighlight.CommandLine.Request
import MlogHighlight.Output
import MlogHighlight.Prompt
import MlogHighlight.Vocabulary.Load

/-!
# Running the program

What the program prints and how it ends, for a command line and the world it runs in. Errors in
vocabularies and paths are reported, and the program ends with status 1. An input that is not UTF-8
ends the program without a report, after all that has been printed before.
-/

namespace MlogHighlight.CommandLine

/-- The world the program runs in: its standard input, whether that is a terminal, and the file
system. -/
structure World where
  stdin : Input
  terminal : Bool
  files : FileSystem

/-- An error that ends the program without a report. -/
inductive Crash where
  | unreadable (e : ReadError)
  | unknownTransform (e : UnknownTransform)
  | highlighting (e : HighlightError)
deriving DecidableEq, Repr

/-- The wording of the error. -/
def Crash.message : Crash → Text
  | .unreadable e => e.message
  | .unknownTransform e => e.message
  | .highlighting e => e.message

/-- How the program ends. -/
inductive Ending where
  | exit (status : Nat)
  | crash (error : Crash)
deriving DecidableEq, Repr

/-- What the program prints and how it ends. -/
structure Outcome where
  stdout : Text
  stderr : Text
  ending : Ending
deriving DecidableEq, Repr

namespace Outcome

/-- The program prints a text and succeeds. -/
def success (stdout : Text) : Outcome := ⟨stdout, [], .exit 0⟩

/-- The program reports an error. -/
def failure (message : Text) : Outcome := ⟨[], Text.endLine ("*** Error *** " ++ message), .exit 1⟩

/-- The program ends without a report. -/
def crashed (error : Crash) : Outcome := ⟨[], [], .crash error⟩

/-- A text is printed before all else. -/
def printing (stdout : Text) (o : Outcome) : Outcome := { o with stdout := stdout ++ o.stdout }

/-- A text is logged before all else. -/
def logging (stderr : Text) (o : Outcome) : Outcome := { o with stderr := stderr ++ o.stderr }

/-- The program cannot read a file: bad paths are reported, bad contents are not, and neither are
paths that can be no paths at all. -/
def unreadable : ReadError → Outcome
  | .unreachable path .nullCharacter => crashed (.unreadable (.unreachable path .nullCharacter))
  | .unreachable path fault => failure (fault.message path)
  | .undecodable e => crashed (.unreadable (.undecodable e))

/-- The program cannot load a vocabulary. -/
def unloadable : Vocabulary.LoadError → Outcome
  | .unreadable e => unreadable e
  | .malformed path fault => failure (Vocabulary.report fault.message (some path))

/-- The program cannot read its standard input to the end. -/
def interrupted : InputFault → Outcome
  | .refused number reason => failure (InputFault.message (.refused number reason))
  | .undecodable e => crashed (.unreadable (.undecodable e))

/-- The program has shown a text, or failed to. -/
def shown : Except HighlightError Text → Outcome
  | .ok stdout => success stdout
  | .error e => crashed (.highlighting e)

end Outcome

/-- The line that is logged about a vocabulary. -/
def loadedLine (sets : Vocabulary) (source : Text) : Text :=
  Text.endLine ("mlogmode.vocab: loaded " ++ Text.ofNat sets.length ++ " vocabulary set(s) from " ++
    source)

namespace Request

/-- The name of the source of the vocabulary. Where the packaged vocabulary is depends on how the
program is installed, so its place has a name of its own. -/
def vocabularySource (r : Request) : Text :=
  match r.vocab with
  | none | some [] => "<DEFAULT>"
  | some path => path

/-- Are lines to be classified that are typed at a prompt? -/
def converses (r : Request) (terminal : Bool) : Bool :=
  r.interactive || (r.files.isEmpty && terminal)

end Request

/-- The text in front of each answer. -/
def promptText : Text := "mlog> "

/-- Answers the lines of the standard input. If a line cannot be read, the program ends behind the
prompt for it. -/
def converse (table : RuleTable) (input : Input) : Outcome :=
  match input.fault with
  | none => .success (Prompt.transcript promptText table input.lines)
  | some fault =>
    (Outcome.interrupted fault).printing
      (Prompt.answers promptText table input.lines ++ promptText)

/-- Shows the standard input. -/
def showInput (table : RuleTable) (format : Format) (input : Input) : Outcome :=
  match input.read with
  | .error fault => .interrupted fault
  | .ok text => .shown (format.render table "<stdin>" text)

/-- Shows files one after the other, up to the first one that cannot be read. -/
def showFiles (fs : FileSystem) (table : RuleTable) (format : Format) (display : Text → Text) :
    List Text → Outcome
  | [] => .success []
  | path :: rest =>
    match fs.read path with
    | .error e => .unreadable e
    | .ok text =>
      match format.render table (display path) text with
      | .error e => .crashed (.highlighting e)
      | .ok stdout => (showFiles fs table format display rest).printing stdout

/-- Does what is asked for, with the given table. -/
def classifyAll (r : Request) (world : World) (table : RuleTable) : Outcome :=
  if r.rules then .success table.listing
  else if r.converses world.terminal then converse table world.stdin
  else if r.files.isEmpty then showInput table r.format world.stdin
  else
    showFiles world.files table r.format (world.files.displayName r.files)
      (world.files.expandAll r.files)

/-- The parts of the program that its self-test names. -/
def testedParts : List Text := ["__main__", "data", "lexer", "misc", "repl", "rules", "vocab"]

/-- The report of the self-test, which is printed only on request. -/
def selfTest (verbose : Bool) : Outcome :=
  if verbose then
    let titles := testedParts.flatMap fun part => Text.endLine ("Testing module " ++ part ++ " ...")
    .success (titles ++ Text.endLine "Summary:")
  else .success []

/-- The table to use and what is logged about it, or how the program ends for want of a table. -/
def Request.table (r : Request) (fs : FileSystem) : Except Outcome (RuleTable × Text) :=
  match Vocabulary.loadOrPackaged fs r.vocab with
  | .error e => .error (.unloadable e)
  | .ok sets =>
    let log := if r.verbose then loadedLine sets r.vocabularySource else []
    match RuleTable.build sets with
    | .error e => .error ((Outcome.crashed (.unknownTransform e)).logging log)
    | .ok table => .ok (table, log)

/-- Does what is asked for. -/
def fulfil (r : Request) (world : World) : Outcome :=
  if r.test then selfTest r.verbose
  else match r.table world.files with
    | .error outcome => outcome
    | .ok (table, log) => (classifyAll r world table).logging log

/-- What is printed when there is nothing to do. -/
def dismiss : Dismissal → Outcome
  | .help => .success help
  | .version => .success versionLine
  | .misuse e => ⟨[], e.report, .exit 2⟩

/-- Runs the program. -/
def run (arguments : List Text) (world : World) : Outcome :=
  match Request.ofArguments arguments with
  | .error dismissal => dismiss dismissal
  | .ok request => fulfil request world

end MlogHighlight.CommandLine
