import MlogHighlight.CommandLine.Option
import MlogHighlight.Unicode.Digit

/-!
# Arguments

What the arguments of a command line are, one by one: options, file names or neither. An option may
be abbreviated as long as it stays the only one of its beginning, and short options may share one
dash. Behind `--` all arguments are file names.
-/

namespace MlogHighlight.CommandLine

/-- An argument. An option may have a text attached to it in the same argument, behind an equals
sign, which may be left out behind a short option. -/
inductive Argument where
  | operand (s : Text)
  | terminator
  | option (flag : Flag) (short : Bool) (attached : Option Text)
  | unknown (s : Text)
deriving DecidableEq, Repr

namespace Argument

/-- The two sides of the first equals sign. -/
def splitEquals (s : Text) : Text × Option Text :=
  match s.dropWhile (· ≠ '=') with
  | [] => (s, none)
  | _ :: value => (s.takeWhile (· ≠ '='), some value)

/-- Is the spelling that of a short option? -/
def isShort (spelling : Text) : Bool := !("--".toList.isPrefixOf spelling)

/-- The options that an argument may be an abbreviation of, or a bundle that begins with one. -/
def candidates (s : Text) : List (Text × Flag × Option Text) :=
  if isShort s then
    (Flag.spelled.filter fun (spelling, _) => spelling = s.take 2).map fun (spelling, flag) =>
      (spelling, flag, some (s.drop 2))
  else
    let (beginning, value) := splitEquals s
    (Flag.spelled.filter fun (spelling, _) => beginning.isPrefixOf spelling).map
      fun (spelling, flag) => (spelling, flag, value)

/-- Does the text consist of digits, at least one? -/
def isDigits (s : Text) : Bool := !s.isEmpty && s.all fun c => (Unicode.digitValue? c).isSome

/-- Is the argument a negative number? A line feed at its end does not count. -/
def isNegativeNumber : Text → Bool
  | '-' :: s =>
    let body := if s.getLast? = some '\n' then s.dropLast else s
    isDigits body ||
      match body.dropWhile fun c => (Unicode.digitValue? c).isSome with
      | '.' :: fraction => isDigits fraction
      | _ => false
  | _ => false

/-- What an argument is, in front of `--`. -/
def recognise (s : Text) : Except UsageError Argument :=
  if s.length < 2 ∨ s.head? ≠ some '-' then .ok (.operand s)
  else match Flag.ofSpelling? s with
    | some flag => .ok (.option flag (isShort s) none)
    | none =>
      let (beginning, value) := splitEquals s
      match value, Flag.ofSpelling? beginning with
      | some value, some flag => .ok (.option flag (isShort s) (some value))
      | _, _ =>
        match candidates s with
        | [(spelling, flag, attached)] => .ok (.option flag (isShort spelling) attached)
        | [] =>
          if isNegativeNumber s ∨ ' ' ∈ s then .ok (.operand s) else .ok (.unknown s)
        | several => .error (.ambiguous s (several.map (·.1)))

/-- What the arguments of a command line are. -/
def recogniseAll : List Text → Except UsageError (List Argument)
  | [] => .ok []
  | s :: rest =>
    if s = "--" then .ok (.terminator :: rest.map .operand)
    else do return (← recognise s) :: (← recogniseAll rest)

end Argument

end MlogHighlight.CommandLine
