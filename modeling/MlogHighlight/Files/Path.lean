import MlogHighlight.Files.Node
import MlogHighlight.Text.Quoted

/-!
# Paths

A path leads through a tree one component at a time. `..` leads back, but never above the root.
-/

namespace MlogHighlight

/-- Why a path leads nowhere, or not to a file; systems know more reasons, with a number each. -/
inductive PathFault where
  | notFound
  | notADirectory
  | isADirectory
  | nullCharacter
  | refused (number : Nat) (reason : Text)
deriving DecidableEq, Repr

/-- The wording of a fault of a path. -/
def PathFault.message (path : Text) : PathFault → Text
  | .notFound => system 2 "No such file or directory"
  | .notADirectory => system 20 "Not a directory"
  | .isADirectory => system 21 "Is a directory"
  | .nullCharacter => "embedded null byte"
  | .refused number reason => system number reason
where
  system (number : Nat) (reason : Text) : Text :=
    "[Errno " ++ Text.ofNat number ++ "] " ++ reason ++ ": " ++ path.quoted

namespace Node

/-- One step of a path: from a node and the directories above it, nearest first. -/
def step (node : Node) (above : List Node) (component : Text) :
    Except PathFault (Node × List Node) :=
  match node with
  | .file _ => .error .notADirectory
  | .directory entries =>
    if component = [] ∨ component = ['.'] then .ok (node, above)
    else if component = ['.', '.'] then
      match above with
      | [] => .ok (node, [])
      | parent :: above => .ok (parent, above)
    else match entries.lookup component with
      | some entry => .ok (entry, node :: above)
      | none => .error .notFound

/-- The node that components lead to. -/
def follow (node : Node) (above : List Node) : List Text → Except PathFault Node
  | [] => .ok node
  | component :: rest =>
    match step node above component with
    | .error fault => .error fault
    | .ok (node, above) => follow node above rest

/-- The node at a path. -/
def find (root : Node) (path : Text) : Except PathFault Node :=
  if '\x00' ∈ path then .error .nullCharacter
  else if path = [] then .error .notFound
  else root.follow [] (path.split '/')

end Node

end MlogHighlight
