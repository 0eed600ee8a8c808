import MlogHighlight.Text.Layout
import MlogHighlight.Text.Passage
import MlogHighlight.Text.Utf8

/-!
# The standard input

What the program sees of its standard input is the text that can be read from it, and what stops the
reading if the input cannot be read to its end.
-/

namespace MlogHighlight.CommandLine

/-- Why an input cannot be read to its end: the system refuses to read on, or what comes next is not
UTF-8. -/
inductive InputFault where
  | refused (number : Nat) (reason : Text)
  | undecodable (e : Utf8.DecodeError)
deriving DecidableEq, Repr

/-- The wording of the fault. -/
def InputFault.message : InputFault → Text
  | .refused number reason => "[Errno " ++ Text.ofNat number ++ "] " ++ reason
  | .undecodable e => e.message

/-- A standard input: the text in front of the fault, if there is a fault, and else the whole text. -/
structure Input where
  text : Text
  fault : Option InputFault := none
deriving DecidableEq, Repr

namespace Input

instance : Coe Text Input := ⟨fun text => { text }⟩

/-- The input of octets that are read all at once. -/
def ofOctets (octets : List UInt8) : Input :=
  match Utf8.decode octets with
  | .ok text => text
  | .error e => { text := [], fault := some (.undecodable e) }

/-- The text of an input that is read all at once. -/
def read (input : Input) : Except InputFault Text :=
  match input.fault with
  | none => .ok input.text.unifyLineEnds
  | some fault => .error fault

/-- The lines of an input that is read line by line, without their line ends. A line that a fault
keeps from being ended is never seen. -/
def lines (input : Input) : List Text :=
  let all := input.text.unifyLineEnds.lines.map (·.text)
  let seen := if input.fault.isSome then all.filter fun line => line.getLast? = some '\n' else all
  seen.map fun line => line.trimEnd (· == '\n')

end Input

end MlogHighlight.CommandLine
