import MlogHighlight.Files.Path
import MlogHighlight.Text.Layout
import MlogHighlight.Text.Utf8

/-!
# File systems

What the program sees of a file system is what is found at a path. Files are read as UTF-8, with
line ends of any form.
-/

namespace MlogHighlight

/-- What is found at a path. -/
abbrev FileSystem := Text → Except PathFault Node

/-- Why a file cannot be read: its path, or its content. -/
inductive ReadError where
  | unreachable (path : Text) (fault : PathFault)
  | undecodable (e : Utf8.DecodeError)
deriving DecidableEq, Repr

/-- The wording of the error. -/
def ReadError.message : ReadError → Text
  | .unreachable path fault => fault.message path
  | .undecodable e => e.message

namespace FileSystem

/-- The file system of a tree. -/
def ofTree (root : Node) : FileSystem := root.find

/-- Is there a directory at the path? -/
def isDirectory (fs : FileSystem) (path : Text) : Bool :=
  match fs path with
  | .ok node => node.isDirectory
  | .error _ => false

/-- The text of the file at a path. -/
def read (fs : FileSystem) (path : Text) : Except ReadError Text :=
  match fs path with
  | .error fault => .error (.unreachable path fault)
  | .ok (.directory _) => .error (.unreachable path .isADirectory)
  | .ok (.file octets) =>
    match Utf8.decode octets with
    | .error e => .error (.undecodable e)
    | .ok text => .ok text.unifyLineEnds

/-- The files a path stands for: the source files below a directory, any other path itself. -/
def expand (fs : FileSystem) (path : Text) : List Text :=
  match fs path with
  | .ok (.directory entries) => (Node.directory entries).sources path
  | _ => [path]

/-- The files that paths stand for. -/
def expandAll (fs : FileSystem) (paths : List Text) : List Text := paths.flatMap fs.expand

/-- The name a file is shown by, when `paths` are given: the last component of its path if it is the
only path and no directory, the whole path otherwise. -/
def displayName (fs : FileSystem) (paths : List Text) (name : Text) : Text :=
  match paths with
  | [path] => if fs.isDirectory path then name else Recognition.baseName name
  | _ => name

end FileSystem

end MlogHighlight
