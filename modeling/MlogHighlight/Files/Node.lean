import MlogHighlight.Recognition
import MlogHighlight.Text.Basic

/-!
# Files and directories

A tree of files and directories, and the search for source files in it.
-/

namespace MlogHighlight

/-- A file with its octets, or a directory with its named entries. -/
inductive Node where
  | file (octets : List UInt8)
  | directory (entries : List (Text × Node))

namespace Node

/-- Is the node a directory? -/
def isDirectory : Node → Bool
  | .file _ => false
  | .directory _ => true

/-- The path of an entry of a directory. -/
def entryPath (directory name : Text) : Text :=
  if directory.getLast? = some '/' then directory ++ name else directory ++ '/' :: name

/-- The files among entries that have the name of a source file, by code point. -/
def sourceNames (entries : List (Text × Node)) : List Text :=
  ((entries.filter fun (name, node) => !node.isDirectory && Recognition.isSourceName name).map
    (·.1)).mergeSort Text.precedes

mutual

/-- The paths of the source files at and below a node that is found at `path`. In each directory
its own files come first, then those of its subdirectories one after the other, both by code
point. -/
def sources (path : Text) : Node → List Text
  | .file _ => []
  | .directory entries =>
    (sourceNames entries).map (entryPath path) ++
      ((entrySources path entries).mergeSort fun a b => Text.precedes a.1 b.1).flatMap (·.2)

/-- The names of the subdirectories among entries, each with the source files below it. -/
def entrySources (path : Text) : List (Text × Node) → List (Text × List Text)
  | [] => []
  | (name, node) :: rest =>
    if node.isDirectory then
      (name, sources (entryPath path name) node) :: entrySources path rest
    else entrySources path rest

end

end Node

end MlogHighlight
