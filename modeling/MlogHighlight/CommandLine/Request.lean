import MlogHighlight.CommandLine.Argument

/-!
# Requests

What a command line asks for. Options take effect in order, and the first thing that is wrong, or
asks for help or the version, ends the reading of the command line. The file names have to stand
together: those that come behind a later option are not recognised.
-/

namespace MlogHighlight.CommandLine

/-- What the program is to do. -/
structure Request where
  files : List Text := []
  vocab : Option Text := none
  format : Format := .annotations
  rules : Bool := false
  interactive : Bool := false
  test : Bool := false
  verbose : Bool := false
deriving DecidableEq, Repr

/-- Why there is nothing to do: help or the version is asked for, or the command line is wrong. -/
inductive Dismissal where
  | help
  | version
  | misuse (e : UsageError)
deriving DecidableEq, Repr

namespace Request

/-- The effect of an option without a value. -/
def set (r : Request) : Flag → Except Dismissal Request
  | .help => .error .help
  | .version => .error .version
  | .rules => .ok { r with rules := true }
  | .interactive => .ok { r with interactive := true }
  | .test => .ok { r with test := true }
  | .verbose => .ok { r with verbose := true }
  | .vocab | .format => .ok r

/-- The effect of an option with a value. The value `--` names nothing: it stands for the packaged
vocabulary and for the format of all names without a format. -/
def setValue (r : Request) (value : Text) : Flag → Except Dismissal Request
  | .vocab => .ok { r with vocab := if value = "--" then none else some value }
  | .format =>
    if value = "--" then .ok { r with format := Format.ofName value }
    else match Format.ofName? value with
      | some format => .ok { r with format }
      | none => .error (.misuse (.unknownFormat value))
  | _ => .ok r

end Request

/-- The options of one argument: those without a value, then at most one with a value, which may
have to be taken from the next argument. -/
structure Bundle where
  flags : List Flag
  valued : Option (Flag × Option Text)
deriving DecidableEq, Repr

namespace Bundle

/-- A single option. -/
def single (flag : Flag) : Bundle :=
  if flag.takesValue then ⟨[], some (flag, none)⟩ else ⟨[flag], none⟩

/-- The bundle with another option in front. -/
def cons (flag : Flag) (b : Bundle) : Bundle := { b with flags := flag :: b.flags }

/-- The bundle of a short option and the text behind it: its value, or the letters of more short
options where it takes none. -/
def ofShort (flag : Flag) : Text → Except UsageError Bundle
  | [] =>
    if flag.takesValue then .ok ⟨[], some (flag, some [])⟩ else .error (.ignoredValue flag [])
  | c :: rest =>
    if flag.takesValue then .ok ⟨[], some (flag, some (c :: rest))⟩
    else match Flag.ofSpelling? ['-', c] with
      | none => .error (.ignoredValue flag (c :: rest))
      | some next =>
        if rest.isEmpty then .ok (cons flag (single next)) else (ofShort next rest).map (cons flag)

/-- The bundle of an argument. -/
def ofFlag (flag : Flag) (short : Bool) : Option Text → Except UsageError Bundle
  | none => .ok (single flag)
  | some attached =>
    if short then ofShort flag attached
    else if flag.takesValue then .ok ⟨[], some (flag, some attached)⟩
    else .error (.ignoredValue flag attached)

end Bundle

/-- Where the file names are: still to come, being read, or behind. -/
inductive Phase where
  | before
  | during
  | after
deriving DecidableEq, Repr

/-- A command line that has been read in part. -/
structure Progress where
  request : Request := {}
  phase : Phase := .before
  extras : List Text := []
deriving DecidableEq, Repr

namespace Progress

/-- An argument that is not recognised. -/
def extra (p : Progress) (s : Text) : Progress := { p with extras := p.extras ++ [s] }

/-- An argument that no option takes. -/
def operand (p : Progress) (s : Text) : Progress :=
  if p.phase = .after then p.extra s
  else { p with phase := .during, request := { p.request with files := p.request.files ++ [s] } }

/-- An option ends a row of file names. -/
def endOperands (p : Progress) : Progress :=
  { p with phase := if p.phase = .during then .after else p.phase }

/-- The `--` in front of file names. -/
def terminator (p : Progress) : Progress :=
  if p.phase = .after then p.extra "--" else { p with phase := .during }

/-- The effect of the options of an argument, where `next` is the value taken from the next
argument. -/
def apply (p : Progress) (b : Bundle) (next : Text) : Except Dismissal Progress := do
  let request ← b.flags.foldlM Request.set p.request
  let request ← match b.valued with
    | none => pure request
    | some (flag, value) => request.setValue (value.getD next) flag
  return { p with request }

end Progress

/-- Reads arguments in order. -/
def interpret (p : Progress) : List Argument → Except Dismissal Progress
  | [] => .ok p
  | .operand s :: rest => interpret (p.operand s) rest
  | .terminator :: rest => interpret p.terminator rest
  | .unknown s :: rest => interpret (p.endOperands.extra s) rest
  | .option flag short attached :: rest =>
    match Bundle.ofFlag flag short attached with
    | .error e => .error (.misuse e)
    | .ok b =>
      match b.valued with
      | some (flag, none) =>
        match rest with
        | .operand value :: rest => do interpret (← p.endOperands.apply b value) rest
        | _ => .error (.misuse (.missingValue flag))
      | _ => do interpret (← p.endOperands.apply b []) rest

/-- What a command line asks for. -/
def Request.ofArguments (arguments : List Text) : Except Dismissal Request := do
  let arguments ← (Argument.recogniseAll arguments).mapError .misuse
  let p ← interpret {} arguments
  if p.extras.isEmpty then return p.request else throw (.misuse (.unrecognized p.extras))

end MlogHighlight.CommandLine
